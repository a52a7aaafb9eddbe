import TiltWatch.Watch.Trace

/-! # Counting replayed matches

Both watchers replay what they know when a deploy UID is registered, and both replay laws
rest on the same count. Fix the registration entry `reg` of a trace, a test `isMatch` for
the dispatched actions being counted, a test `isTriage` for the triages that produce them
and a test `isPending` for the goroutines about to dispatch one. Before `reg` is in the
trace, nothing matches and nothing is pending. After it, the matches dispatched and the
goroutines pending count the triages after the registration, plus one replayed match when
a triage ran before it.

Nothing here depends on a watcher: the lemmas say which trace extensions keep the count,
and each watcher shows that its steps are such extensions.
-/

namespace TiltWatch

section ReplayCount

variable {α β : Type}

/-- The two phases of the replay count, for a trace and the goroutines still waiting. -/
structure ReplayCount (reg : α) (isMatch isTriage : α → Bool) (isPending : β → Bool)
    (trace : List α) (tasks : List β) : Prop where
  before : reg ∉ trace → trace.countP isMatch = 0 ∧ tasks.countP isPending = 0
  after : ∀ pre post, trace = pre ++ reg :: post →
    trace.countP isMatch + tasks.countP isPending =
      post.countP isTriage + if 0 < pre.countP isTriage then 1 else 0

variable {reg : α} {isMatch isTriage : α → Bool} {isPending : β → Bool}
  {tr new : List α} {ts ts' : List β}

theorem ReplayCount.init : ReplayCount reg isMatch isTriage isPending [] ([] : List β) where
  before _ := ⟨rfl, rfl⟩
  after _ _ h := by simp at h

theorem ReplayCount.of_unregistered (hreg : reg ∉ tr) (hm : tr.countP isMatch = 0)
    (hp : ts.countP isPending = 0) : ReplayCount reg isMatch isTriage isPending tr ts where
  before _ := ⟨hm, hp⟩
  after _ _ h := absurd (h ▸ List.mem_append_right _ (List.mem_cons_self _ _)) hreg

theorem ReplayCount.extend (hi : ReplayCount reg isMatch isTriage isPending tr ts)
    (hold : reg ∈ tr) (hnew : reg ∉ new)
    (heq : new.countP isMatch + ts'.countP isPending = ts.countP isPending + new.countP isTriage) :
    ReplayCount reg isMatch isTriage isPending (tr ++ new) ts' where
  before h := absurd (List.mem_append_left _ hold) h
  after pre post h := by
    rcases split_append h with ⟨post₀, hs, rfl⟩ | ⟨mid, -, hm⟩
    · have := hi.after pre post₀ hs
      simp only [List.countP_append] at this ⊢
      omega
    · exact absurd (hm ▸ List.mem_append_right _ (List.mem_cons_self _ _)) hnew

theorem ReplayCount.quiet (hi : ReplayCount reg isMatch isTriage isPending tr ts)
    (hnew : reg ∉ new) (hm : new.countP isMatch = 0) (ht : new.countP isTriage = 0)
    (hp : ts'.countP isPending = ts.countP isPending) :
    ReplayCount reg isMatch isTriage isPending (tr ++ new) ts' := by
  by_cases hold : reg ∈ tr
  · exact hi.extend hold hnew (by omega)
  · have hb := hi.before hold
    refine .of_unregistered (by simp [hold, hnew]) ?_ (hp.trans hb.2)
    simp only [List.countP_append, hm, hb.1]

theorem ReplayCount.of_tasks (hi : ReplayCount reg isMatch isTriage isPending tr ts)
    (hp : ts'.countP isPending = ts.countP isPending) :
    ReplayCount reg isMatch isTriage isPending tr ts' where
  before h := hp ▸ hi.before h
  after pre post h := hp ▸ hi.after pre post h

theorem ReplayCount.start (hi : ReplayCount reg isMatch isTriage isPending tr ts)
    (hold : reg ∉ tr) (hnew : reg ∉ new)
    (hm : (reg :: new).countP isMatch = if 0 < tr.countP isTriage then 1 else 0)
    (ht : (reg :: new).countP isTriage = 0) (hp : ts'.countP isPending = ts.countP isPending) :
    ReplayCount reg isMatch isTriage isPending (tr ++ reg :: new) ts' where
  before h := absurd (List.mem_append_right _ (List.mem_cons_self _ _)) h
  after pre post h := by
    obtain ⟨rfl, rfl⟩ := split_unique hold hnew h
    have hb := hi.before hold
    have ht' : post.countP isTriage = 0 := by
      rw [List.countP_cons] at ht; omega
    rw [List.countP_append, hb.1, hm, hp, hb.2, ht']
    omega

end ReplayCount

end TiltWatch
