import TiltWatch.LogStream.Controller

/-! # What `Reconcile` does to the log watches

One pass of `Reconcile`'s container loop records the container's key when
`shouldStreamContainerLogs` holds, and then keeps the key's watch, starts one in place of a
cancelled watch, or leaves a cancelled watch of a terminated container in place. The key's
entry of `hasClosedStream` is set only once the key is recorded, so the keys the loop records
are those of the containers `shouldStreamContainerLogs` accepts as the call begins. The loop
after it cancels and deletes the stream's other watches.

So a `Reconcile` that returns leaves the stream exactly the watches of the keys it recorded,
or none when the stream or its pod is gone, and leaves other streams' watches alone. Across
every run, a watch leaves the map only once its context is cancelled.
-/

namespace TiltWatch

namespace Runtimelog

section Fields

variable (m : PodLogStreamController) (w : LogWorld) {s : NamespacedName}

@[simp] theorem ensureStatus_watches (cs : List Container) :
    (m.ensureStatus s cs).watches = m.watches := by
  unfold PodLogStreamController.ensureStatus; split <;> (try split) <;> rfl

@[simp] theorem ensureStatus_hasClosedStream (cs : List Container) :
    (m.ensureStatus s cs).hasClosedStream = m.hasClosedStream := by
  unfold PodLogStreamController.ensureStatus; split <;> (try split) <;> rfl

@[simp] theorem mutateStatus_watches (n : ContainerName) (f) :
    (m.mutateStatus s n f).watches = m.watches := by
  unfold PodLogStreamController.mutateStatus; split <;> rfl

@[simp] theorem mutateStatus_hasClosedStream (n : ContainerName) (f) :
    (m.mutateStatus s n f).hasClosedStream = m.hasClosedStream := by
  unfold PodLogStreamController.mutateStatus; split <;> rfl

theorem receiveTermination_eq_some {ctx : Nat} {key : PodLogKey} {t : Time} {w' : LogWorld} :
    w.receiveTermination ctx key = some (t, w') ↔ w.terminationTimes.lookup ctx = some t ∧
      w' = { w with
        terminationTimes := w.terminationTimes.filter (·.1 != ctx)
        ctrl := { w.ctrl with hasClosedStream := w.ctrl.hasClosedStream.insert key } } := by
  simp only [LogWorld.receiveTermination, Option.map_eq_some', Prod.mk.injEq]
  constructor
  · rintro ⟨t, ht, rfl, rfl⟩
    exact ⟨ht, rfl⟩
  · rintro ⟨ht, rfl⟩
    exact ⟨t, ht, rfl, rfl⟩

theorem shouldStreamContainerLogs_congr {m' : PodLogStreamController} {c : Container}
    {key : PodLogKey} (h : key ∈ m'.hasClosedStream ↔ key ∈ m.hasClosedStream) :
    m'.shouldStreamContainerLogs c key = m.shouldStreamContainerLogs c key := by
  have hc : m'.hasClosedStream.contains key = m.hasClosedStream.contains key := by
    simp only [List.contains, List.elem_eq_mem, h]
  simp only [PodLogStreamController.shouldStreamContainerLogs, hc]

end Fields

section Loop

variable {s : NamespacedName} {spec : PodLogStreamSpec} {nInit nRun : Nat}

/-- Everything one pass of `Reconcile`'s container loop can do. It records the container's
key when `shouldStreamContainerLogs` holds, and only then touches the key: it keeps the key's
watch, starts a watch in place of a missing or cancelled one, or marks the key closed. It
cancels nothing. -/
theorem reconcileContainer_spec {w w' : LogWorld} {cw cw' : List PodLogKey} {i : Nat}
    {c : Container}
    (h : LogWorld.reconcileContainer s spec nInit nRun (w, cw) (i, c) = some (w', cw')) :
    let key : PodLogKey := ⟨s, spec.pod, c.id⟩
    cw' = cw ++ (if w.ctrl.shouldStreamContainerLogs c key then [key] else []) ∧
    w'.cancelled = w.cancelled ∧
    w.ctrl.hasClosedStream ⊆ w'.ctrl.hasClosedStream ∧
    (∀ k ∈ w'.ctrl.hasClosedStream, k ∈ w.ctrl.hasClosedStream ∨ k ∈ cw') ∧
    ((w'.ctrl.watches = w.ctrl.watches ∧ w'.created = w.created) ∨
      ∃ watch, w'.ctrl.watches = w.ctrl.watches.set (key, watch) ∧
        w'.created = w.created ++ [watch] ∧
        ∀ e, w.ctrl.watches.get? key = some e → e.2.ctx ∈ w.cancelled) ∧
    (w.ctrl.shouldStreamContainerLogs c key = true →
      ∃ e, w'.ctrl.watches.get? key = some e) := by
  intro key
  simp only [LogWorld.reconcileContainer] at h
  by_cases hs : w.ctrl.shouldStreamContainerLogs c key = true
  · simp only [key] at hs ⊢
    simp only [hs, Bool.not_true, Bool.false_eq_true, if_false] at h
    simp only [hs, if_true, forall_const]
    have hclosed : ∀ {cw'}, cw' = cw ++ [⟨s, spec.pod, c.id⟩] →
        ∀ k ∈ w.ctrl.hasClosedStream.insert ⟨s, spec.pod, c.id⟩,
          k ∈ w.ctrl.hasClosedStream ∨ k ∈ cw' := by
      rintro _ rfl k hk
      rcases List.mem_insert_iff.mp hk with rfl | hk
      · exact .inr (by simp)
      · exact .inl hk
    cases hg : w.ctrl.watches.get? ⟨s, spec.pod, c.id⟩ with
    | none =>
      simp only [hg, Option.some.injEq, Prod.mk.injEq] at h
      obtain ⟨rfl, rfl⟩ := h
      exact ⟨rfl, rfl, fun _ hk => hk, fun k hk => .inl hk, .inr ⟨_, rfl, rfl, by simp⟩,
        ⟨_, KeyedMap.get?_set_self⟩⟩
    | some e =>
      obtain ⟨k', existing⟩ := e
      by_cases hc : existing.ctx ∈ w.cancelled
      · simp only [hg, hc, not_true_eq_false, if_false] at h
        obtain ⟨⟨t, w₁⟩, hr, heq⟩ := Option.map_eq_some'.mp h
        obtain ⟨-, rfl⟩ := (receiveTermination_eq_some w).mp hr
        by_cases ht : c.terminated = true
        · simp only [ht, if_true, Prod.mk.injEq] at heq
          obtain ⟨rfl, rfl⟩ := heq
          exact ⟨rfl, rfl, fun _ hk => by simpa using List.mem_insert_of_mem hk,
            fun k hk => hclosed rfl k (by simpa using hk), .inl ⟨by simp, rfl⟩,
            ⟨(k', existing), by simpa using hg⟩⟩
        · simp only [ht, Bool.false_eq_true, if_false, Prod.mk.injEq] at heq
          obtain ⟨rfl, rfl⟩ := heq
          exact ⟨rfl, rfl, fun _ hk => List.mem_insert_of_mem hk, hclosed rfl,
            .inr ⟨_, rfl, rfl, fun e he => by obtain rfl := Option.some.inj he; exact hc⟩,
            ⟨_, KeyedMap.get?_set_self⟩⟩
      · simp only [hg, hc, not_false_eq_true, if_true, Option.some.injEq, Prod.mk.injEq] at h
        obtain ⟨rfl, rfl⟩ := h
        exact ⟨rfl, rfl, fun _ hk => hk, fun k hk => .inl hk, .inl ⟨rfl, rfl⟩, ⟨_, hg⟩⟩
  · simp only [key] at hs
    simp only [hs, Bool.not_false, if_true, Option.some.injEq, Prod.mk.injEq] at h
    obtain ⟨rfl, rfl⟩ := h
    exact ⟨by simp [key, hs], rfl, fun _ hk => hk, fun k hk => .inl hk, .inl ⟨rfl, rfl⟩,
      fun h' => absurd h' hs⟩

/-- Where a watch the loop makes starts reading: for a key with no watch, from the stream's
`SinceTime` or the zero time; for a key whose watch was cancelled, from the time its ended
`consumeLogs` sent on the termination channel. -/
theorem reconcileContainer_startWatchTime {w w' : LogWorld} {cw cw' : List PodLogKey} {i : Nat}
    {c : Container} {watch : PodLogWatch}
    (h : LogWorld.reconcileContainer s spec nInit nRun (w, cw) (i, c) = some (w', cw'))
    (hc : w'.created = w.created ++ [watch]) :
    (w.ctrl.watches.get? ⟨s, spec.pod, c.id⟩ = none ∧
      watch.startWatchTime = spec.sinceTime.getD 0) ∨
    ∃ e, w.ctrl.watches.get? ⟨s, spec.pod, c.id⟩ = some e ∧
      w.terminationTimes.lookup e.2.ctx = some watch.startWatchTime := by
  have hne : w'.created ≠ w.created := fun h' => by
    simpa using congrArg List.length (h'.symm.trans hc)
  simp only [LogWorld.reconcileContainer] at h
  split at h
  · obtain ⟨rfl, -⟩ := Prod.mk.inj (Option.some.inj h)
    exact (hne rfl).elim
  cases hg : w.ctrl.watches.get? ⟨s, spec.pod, c.id⟩ with
  | none =>
    simp only [hg, Option.some.injEq, Prod.mk.injEq] at h
    obtain ⟨rfl, -⟩ := h
    simp only [LogWorld.startWatch, List.append_cancel_left_eq, List.cons.injEq, and_true] at hc
    subst hc
    exact .inl ⟨rfl, rfl⟩
  | some e =>
    obtain ⟨k', existing⟩ := e
    by_cases hcan : existing.ctx ∈ w.cancelled
    · simp only [hg, hcan, not_true_eq_false, if_false] at h
      obtain ⟨⟨t, w₁⟩, hr, heq⟩ := Option.map_eq_some'.mp h
      obtain ⟨ht, rfl⟩ := (receiveTermination_eq_some w).mp hr
      split at heq
      · obtain ⟨rfl, -⟩ := Prod.mk.inj heq
        exact (hne rfl).elim
      · obtain ⟨rfl, -⟩ := Prod.mk.inj heq
        simp only [LogWorld.startWatch, List.append_cancel_left_eq, List.cons.injEq,
          and_true] at hc
        subst hc
        exact .inr ⟨_, rfl, ht⟩
    · simp only [hg, hcan, not_false_eq_true, if_true, Option.some.injEq, Prod.mk.injEq] at h
      obtain ⟨rfl, -⟩ := h
      exact (hne rfl).elim

/-- Every watch made that is no longer in the map has been cancelled. -/
def LeftCancelled (w : LogWorld) : Prop :=
  ∀ x ∈ w.created, (∀ e ∈ w.ctrl.watches.entries, e.2 ≠ x) → x.ctx ∈ w.cancelled

theorem LeftCancelled.set {w w' : LogWorld} {key : PodLogKey} {watch : PodLogWatch}
    (h : LeftCancelled w) (hwatches : w'.ctrl.watches = w.ctrl.watches.set (key, watch))
    (hcreated : w'.created = w.created ++ [watch]) (hcancelled : w'.cancelled = w.cancelled)
    (hold : ∀ e, w.ctrl.watches.get? key = some e → e.2.ctx ∈ w.cancelled) :
    LeftCancelled w' := by
  intro x hx hgone
  rw [hwatches] at hgone
  rw [hcancelled]
  have hnew : x ≠ watch := fun hx' =>
    hgone (key, watch) (KeyedMap.mem_set.mpr (.inl rfl)) hx'.symm
  rw [hcreated, List.mem_append, List.mem_singleton] at hx
  by_cases hin : ∃ e ∈ w.ctrl.watches.entries, e.2 = x
  · -- `x` was in the map, so under `key`, where only a cancelled watch is replaced
    obtain ⟨e, he, rfl⟩ := hin
    by_cases hk : e.1 = key
    · exact hold e (KeyedMap.get?_eq_some.mpr ⟨he, hk⟩)
    · exact absurd rfl (hgone e (KeyedMap.mem_set.mpr (.inr ⟨he, hk⟩)))
  · push_neg at hin
    exact h x (hx.resolve_right hnew) hin

variable {L : List (Nat × Container)} {w w' : LogWorld} {cw cw' : List PodLogKey}

theorem foldlM_reconcileContainer_cancelled
    (h : L.foldlM (LogWorld.reconcileContainer s spec nInit nRun) (w, cw) = some (w', cw')) :
    w'.cancelled = w.cancelled ∧ (LeftCancelled w → LeftCancelled w') := by
  induction L generalizing w cw with
  | nil =>
    obtain ⟨rfl, rfl⟩ := Prod.mk.inj (Option.some.inj h)
    exact ⟨rfl, id⟩
  | cons ic L ih =>
    simp only [List.foldlM_cons, Option.bind_eq_bind, Option.bind_eq_some] at h
    obtain ⟨⟨w₁, cw₁⟩, h₁, h₂⟩ := h
    obtain ⟨i, c⟩ := ic
    obtain ⟨-, hc, -, -, hwatches, -⟩ := reconcileContainer_spec h₁
    obtain ⟨hc', hleft⟩ := ih h₂
    refine ⟨hc'.trans hc, fun hw => hleft ?_⟩
    rcases hwatches with ⟨hsame, hcreated⟩ | ⟨watch, hset, hcreated, hold⟩
    · intro x hx hgone
      rw [hc]
      exact hw x (hcreated ▸ hx) (hsame ▸ hgone)
    · exact hw.set hset hcreated hc hold

theorem foldlM_reconcileContainer_other
    (h : L.foldlM (LogWorld.reconcileContainer s spec nInit nRun) (w, cw) = some (w', cw'))
    {k : PodLogKey} (hk : k.streamName ≠ s) : w'.ctrl.watches.get? k = w.ctrl.watches.get? k := by
  induction L generalizing w cw with
  | nil => obtain ⟨rfl, rfl⟩ := Prod.mk.inj (Option.some.inj h); rfl
  | cons ic L ih =>
    simp only [List.foldlM_cons, Option.bind_eq_bind, Option.bind_eq_some] at h
    obtain ⟨⟨w₁, cw₁⟩, h₁, h₂⟩ := h
    obtain ⟨i, c⟩ := ic
    obtain ⟨-, -, -, -, hwatches, -⟩ := reconcileContainer_spec h₁
    rw [ih h₂]
    rcases hwatches with ⟨hsame, -⟩ | ⟨watch, hset, -⟩
    · rw [hsame]
    · rw [hset, KeyedMap.get?_set_of_ne fun h' => hk (by rw [h'])]

theorem foldlM_reconcileContainer_present
    (h : L.foldlM (LogWorld.reconcileContainer s spec nInit nRun) (w, cw) = some (w', cw'))
    (hpres : ∀ k ∈ cw, (w.ctrl.watches.get? k).isSome) :
    ∀ k ∈ cw', (w'.ctrl.watches.get? k).isSome := by
  induction L generalizing w cw with
  | nil => obtain ⟨rfl, rfl⟩ := Prod.mk.inj (Option.some.inj h); exact hpres
  | cons ic L ih =>
    simp only [List.foldlM_cons, Option.bind_eq_bind, Option.bind_eq_some] at h
    obtain ⟨⟨w₁, cw₁⟩, h₁, h₂⟩ := h
    obtain ⟨i, c⟩ := ic
    obtain ⟨hcw, -, -, -, hwatches, hnew⟩ := reconcileContainer_spec h₁
    refine ih h₂ fun k hk => ?_
    rw [hcw, List.mem_append] at hk
    rcases hk with hk | hk
    · rcases hwatches with ⟨hsame, -⟩ | ⟨watch, hset, -⟩
      · exact hsame ▸ hpres k hk
      · exact hset ▸ KeyedMap.isSome_get?_set (hpres k hk)
    · split at hk
      · obtain ⟨e, he⟩ := hnew ‹_›
        rw [List.mem_singleton.mp hk, he]
        rfl
      · cases hk

/-- The keys the container loop records are those of the containers
`shouldStreamContainerLogs` accepts under the `hasClosedStream` of `m₀`, when the loop's
`hasClosedStream` adds to that of `m₀` only keys already recorded. -/
theorem foldlM_reconcileContainer_keys (m₀ : PodLogStreamController)
    (h : L.foldlM (LogWorld.reconcileContainer s spec nInit nRun) (w, cw) = some (w', cw'))
    (hsub : m₀.hasClosedStream ⊆ w.ctrl.hasClosedStream)
    (hsup : ∀ k ∈ w.ctrl.hasClosedStream, k ∈ m₀.hasClosedStream ∨ k ∈ cw)
    (k : PodLogKey) :
    k ∈ cw' ↔ k ∈ cw ∨
      ∃ ic ∈ L, k = ⟨s, spec.pod, ic.2.id⟩ ∧ m₀.shouldStreamContainerLogs ic.2 k := by
  induction L generalizing w cw with
  | nil => obtain ⟨rfl, rfl⟩ := Prod.mk.inj (Option.some.inj h); simp
  | cons ic L ih =>
    simp only [List.foldlM_cons, Option.bind_eq_bind, Option.bind_eq_some] at h
    obtain ⟨⟨w₁, cw₁⟩, h₁, h₂⟩ := h
    obtain ⟨i, c⟩ := ic
    obtain ⟨hcw, -, hsub₁, hsup₁, -, -⟩ := reconcileContainer_spec h₁
    have hcw₁ : cw ⊆ cw₁ := hcw ▸ List.subset_append_left _ _
    rw [ih h₂ (hsub.trans hsub₁) fun k hk =>
      (hsup₁ k hk).elim (fun hk' => (hsup k hk').imp_right (hcw₁ ·)) .inr]
    -- the key's `hasClosedStream` entry is that of `m₀` unless the key is already recorded
    have hsh : (⟨s, spec.pod, c.id⟩ : PodLogKey) ∉ cw →
        w.ctrl.shouldStreamContainerLogs c ⟨s, spec.pod, c.id⟩ =
          m₀.shouldStreamContainerLogs c ⟨s, spec.pod, c.id⟩ := fun hk =>
      shouldStreamContainerLogs_congr _ ⟨fun h' => (hsup _ h').resolve_right hk, (hsub ·)⟩
    rw [hcw]
    by_cases hk : k = ⟨s, spec.pod, c.id⟩
    · subst hk
      by_cases hin : (⟨s, spec.pod, c.id⟩ : PodLogKey) ∈ cw
      · simp [hin]
      · cases hm : m₀.shouldStreamContainerLogs c ⟨s, spec.pod, c.id⟩ <;>
          simp [hin, hsh hin, hm]
    · simp [hk]

end Loop

section Reconcile

variable {w w' : LogWorld} {sn : NamespacedName}

theorem LeftCancelled.cancelWatches (h : LeftCancelled w) (p : PodLogKey → Bool) :
    LeftCancelled (w.cancelWatches (w.ctrl.watches.filter p) (w.ctrl.watches.dropped p)) := by
  intro x hx hgone
  simp only [LogWorld.cancelWatches, List.mem_append, List.mem_map] at hx hgone ⊢
  by_cases hin : ∃ e ∈ w.ctrl.watches.entries, e.2 = x
  · obtain ⟨e, he, rfl⟩ := hin
    cases hp : p e.1
    · exact .inr ⟨e, KeyedMap.mem_dropped.mpr ⟨he, hp⟩, rfl⟩
    · exact absurd rfl (hgone e (KeyedMap.mem_filter.mpr ⟨he, hp⟩))
  · push_neg at hin
    exact .inl (h x hx hin)

theorem deleteStreams_get? (k : PodLogKey) : (w.deleteStreams sn).ctrl.watches.get? k =
    if k.streamName = sn then none else w.ctrl.watches.get? k := by
  show (w.ctrl.watches.filter _).get? k = _
  split_ifs with hk
  · exact KeyedMap.get?_eq_none.mpr fun e he hek => by simp_all
  · exact KeyedMap.get?_filter_of_pos (by simpa using hk)

theorem deleteStreams_statuses : (w.deleteStreams sn).ctrl.statuses.get? sn = none :=
  KeyedMap.get?_eq_none.mpr fun e he hek => by simp_all [LogWorld.deleteStreams]

theorem LeftCancelled.deleteStreams (h : LeftCancelled w) : LeftCancelled (w.deleteStreams sn) :=
  h.cancelWatches _

/-- `Reconcile` of a stream whose pod was found and is not deleting runs the container loop
from the stream's ensured status, then cancels and deletes the stream's watches whose keys
the loop did not record. -/
theorem reconcile_of_found {spec : PodLogStreamSpec} {pod : V1.Pod}
    (hpod : pod.isDeleting = false) :
    let initContainers := filterContainers spec pod.initContainers
    let runContainers := filterContainers spec pod.containers
    let containers := initContainers ++ runContainers
    w.reconcile sn (.found spec) ⟨some pod, none⟩ =
      ((containers.enum.foldlM
          (LogWorld.reconcileContainer sn spec initContainers.length runContainers.length)
          ({ w with ctrl := w.ctrl.ensureStatus sn containers }, [])).map fun (w, cw) =>
        let keep := fun k : PodLogKey => cw.contains k || k.streamName != sn
        w.cancelWatches (w.ctrl.watches.filter keep) (w.ctrl.watches.dropped keep)) := by
  simp [LogWorld.reconcile, hpod]

theorem reconcile_of_gone {stream : StreamLookup} {pod : PodLookup}
    (hgone : stream = .notFound ∨ ∃ spec, stream = .found spec ∧
      (pod.err = some .notFound ∨ pod.pod.any (·.isDeleting) = true)) :
    w.reconcile sn stream pod = some (w.deleteStreams sn) := by
  rcases hgone with rfl | ⟨spec, rfl, hpod⟩
  · rfl
  · simp only [LogWorld.reconcile]
    rw [if_pos (by simpa using hpod)]

theorem reconcile_cases {stream : StreamLookup} {pod : PodLookup}
    (h : w.reconcile sn stream pod = some w') :
    w' = w.deleteStreams sn ∨ w' = w ∨
    ∃ (spec : PodLogStreamSpec) (containers : List Container) (nInit nRun : Nat) (w₂ : LogWorld)
      (cw : List PodLogKey), stream = .found spec ∧ containers.enum.foldlM
        (LogWorld.reconcileContainer sn spec nInit nRun)
        ({ w with ctrl := w.ctrl.ensureStatus sn containers }, []) = some (w₂, cw) ∧
      w' = w₂.cancelWatches
        (w₂.ctrl.watches.filter fun k => cw.contains k || k.streamName != sn)
        (w₂.ctrl.watches.dropped fun k => cw.contains k || k.streamName != sn) := by
  unfold LogWorld.reconcile at h
  split at h
  · exact .inl (Option.some.inj h).symm
  · exact .inr (.inl (Option.some.inj h).symm)
  · rename_i spec
    split_ifs at h
    · exact .inl (Option.some.inj h).symm
    · exact .inr (.inl (Option.some.inj h).symm)
    · split at h
      · exact .inr (.inl (Option.some.inj h).symm)
      · obtain ⟨⟨w₂, cw⟩, hfold, rfl⟩ := Option.map_eq_some'.mp h
        exact .inr (.inr ⟨spec, _, _, _, w₂, cw, rfl, hfold, rfl⟩)

theorem LeftCancelled.reconcile {stream : StreamLookup} {pod : PodLookup} (h : LeftCancelled w)
    (hr : w.reconcile sn stream pod = some w') : LeftCancelled w' := by
  rcases reconcile_cases hr with rfl | rfl | ⟨spec, cs, nInit, nRun, w₂, cw, -, hfold, rfl⟩
  · exact h.deleteStreams
  · exact h
  · exact ((foldlM_reconcileContainer_cancelled hfold).2
      fun x hx hgone => h x hx (by simpa using hgone)).cancelWatches _

theorem LeftCancelled.consumeLogsEnd (h : LeftCancelled w) (ctx : Nat) (now : Time) :
    LeftCancelled (w.consumeLogsEnd ctx now) := by
  unfold LogWorld.consumeLogsEnd
  split_ifs
  · exact fun x hx hgone => List.mem_append_left _ (h x hx hgone)
  · exact h

theorem LeftCancelled.run (h : LeftCancelled w) {steps : List LogStep}
    (hr : w.run steps = some w') : LeftCancelled w' := by
  induction steps generalizing w with
  | nil => exact Option.some.inj hr ▸ h
  | cons step steps ih =>
    simp only [LogWorld.run, List.foldlM_cons, Option.bind_eq_bind, Option.bind_eq_some] at hr
    obtain ⟨w₁, h₁, h₂⟩ := hr
    refine ih ?_ h₂
    cases step with
    | reconcile sn stream pod => exact h.reconcile h₁
    | consumeLogsEnd ctx now => exact Option.some.inj h₁ ▸ h.consumeLogsEnd ctx now

theorem leftCancelled_init : LeftCancelled {} :=
  fun _ hx => absurd hx (List.not_mem_nil _)

end Reconcile

section Statuses

/-! `ensureStatus` makes a stream's status name the containers in order, and the container loop
changes a status only through `mutateStatus`, which keeps the names. -/

/-- The names of the containers in stream `s`'s status. -/
def PodLogStreamController.statusNames (m : PodLogStreamController) (s : NamespacedName) :
    Option (List ContainerName) :=
  (m.statuses.get? s).map fun e => e.2.map (·.name)

variable {m : PodLogStreamController} {s : NamespacedName}

theorem statusNames_ensureStatus (cs : List Container) :
    (m.ensureStatus s cs).statusNames s = some (cs.map (·.name)) := by
  unfold PodLogStreamController.ensureStatus PodLogStreamController.statusNames
  split
  · rename_i status hg
    split
    · rename_i heq
      rw [hg]; simpa using beq_iff_eq.mp heq
    · simp [KeyedMap.get?_set_self (v := (s, _))]
  · simp [KeyedMap.get?_set_self (v := (s, _))]

theorem statusNames_mutateStatus {n : ContainerName}
    {f : ContainerLogStreamStatus → ContainerLogStreamStatus} (hf : ∀ cs, (f cs).name = cs.name)
    (s' : NamespacedName) : (m.mutateStatus s n f).statusNames s' = m.statusNames s' := by
  unfold PodLogStreamController.mutateStatus
  split
  · rename_i status hg
    unfold PodLogStreamController.statusNames
    by_cases hs : s' = s
    · subst hs
      rw [KeyedMap.get?_set_self (v := (s', _)), hg]
      simp only [Option.map_some', List.map_map, Option.some.injEq]
      refine List.map_congr_left fun cs _ => ?_
      simp only [Function.comp_apply]
      split <;> simp [hf]
    · rw [KeyedMap.get?_set_of_ne (v := (s, _)) hs]
  · rfl

variable {spec : PodLogStreamSpec} {nInit nRun : Nat} {w w' : LogWorld} {cw cw' : List PodLogKey}

theorem statusNames_reconcileContainer {i : Nat} {c : Container}
    (h : LogWorld.reconcileContainer s spec nInit nRun (w, cw) (i, c) = some (w', cw'))
    (s' : NamespacedName) : w'.ctrl.statusNames s' = w.ctrl.statusNames s' := by
  simp only [LogWorld.reconcileContainer] at h
  split at h
  · obtain ⟨rfl, -⟩ := Prod.mk.inj (Option.some.inj h); rfl
  · split at h
    · obtain ⟨rfl, -⟩ := Prod.mk.inj (Option.some.inj h); rfl
    · split at h
      · obtain ⟨rfl, -⟩ := Prod.mk.inj (Option.some.inj h); rfl
      · obtain ⟨⟨t, w₁⟩, hr, heq⟩ := Option.map_eq_some'.mp h
        obtain ⟨-, rfl⟩ := (receiveTermination_eq_some w).mp hr
        split at heq
        · obtain ⟨rfl, -⟩ := Prod.mk.inj heq
          exact statusNames_mutateStatus
            (f := fun cs => { cs with terminated := true, active := false, error := "" })
            (fun _ => rfl) s'
        · obtain ⟨rfl, -⟩ := Prod.mk.inj heq; rfl

theorem foldlM_reconcileContainer_statusNames {L : List (Nat × Container)}
    (h : L.foldlM (LogWorld.reconcileContainer s spec nInit nRun) (w, cw) = some (w', cw'))
    (s' : NamespacedName) : w'.ctrl.statusNames s' = w.ctrl.statusNames s' := by
  induction L generalizing w cw with
  | nil => obtain ⟨rfl, rfl⟩ := Prod.mk.inj (Option.some.inj h); rfl
  | cons ic L ih =>
    simp only [List.foldlM_cons, Option.bind_eq_bind, Option.bind_eq_some] at h
    obtain ⟨⟨w₁, cw₁⟩, h₁, h₂⟩ := h
    obtain ⟨i, c⟩ := ic
    exact (ih h₂).trans (statusNames_reconcileContainer h₁ s')

/-- A `Reconcile` of a stream whose pod is found and not deleting leaves the stream's status
naming the containers `filterContainers` selects, init containers first, in order. -/
theorem reconcile_status_names_containers {sn : NamespacedName} {pod : V1.Pod}
    (hpod : pod.isDeleting = false)
    (h : w.reconcile sn (.found spec) ⟨some pod, none⟩ = some w') :
    w'.ctrl.statusNames sn = some
      ((filterContainers spec pod.initContainers ++ filterContainers spec pod.containers).map
        (·.name)) := by
  rw [reconcile_of_found hpod] at h
  obtain ⟨⟨w₂, cw⟩, hfold, rfl⟩ := Option.map_eq_some'.mp h
  exact (foldlM_reconcileContainer_statusNames hfold sn).trans (statusNames_ensureStatus _)

/-- Pod `web-1` with a finished init container and a running container: the stream's status
names both, the init container first. -/
theorem reconcile_status_names_containers_web :
    let sn : NamespacedName := ⟨"default", "web"⟩
    let spec : PodLogStreamSpec := { pod := "web-1", ns := "default" }
    let pod : V1.Pod :=
      { uid := "u1", name := "web-1",
        initContainers := [{ name := "init", id := "c0", terminated := true }],
        containers := [{ name := "app", id := "c1", running := true }] }
    ∃ w', pod.isDeleting = false ∧
      ({} : LogWorld).reconcile sn (.found spec) ⟨some pod, none⟩ = some w' ∧
      w'.ctrl.statusNames sn = some ["init", "app"] := by
  intro sn spec pod
  exact ⟨_, rfl, rfl,
    (@reconcile_status_names_containers spec {} _ sn pod rfl rfl).trans (by decide)⟩

end Statuses

theorem exists_mem_enum {α : Type} {l : List α} {P : α → Prop} :
    (∃ ic ∈ l.enum, P ic.2) ↔ ∃ c ∈ l, P c := by
  constructor
  · rintro ⟨ic, hic, hp⟩
    exact ⟨ic.2, List.snd_mem_of_mem_enum hic, hp⟩
  · rintro ⟨c, hc, hp⟩
    rw [← List.enum_map_snd l, List.mem_map] at hc
    obtain ⟨ic, hic, rfl⟩ := hc
    exact ⟨ic, hic, hp⟩

/-- What one `Reconcile` of stream `sn` does, from world `w` to world `w'`: when the pod was
found and is not deleting, the stream keeps the watches of exactly the keys of the filtered
containers `shouldStreamContainerLogs` accepts; when the stream or its pod is gone or the pod
is deleting, the stream keeps no watch and no status; when the lookup returns no pod and no
`NotFound` error, nothing changes; other streams keep their watches; and every watch that
left the map has been cancelled. -/
structure ReconcileSpec (w : LogWorld) (sn : NamespacedName) (stream : StreamLookup)
    (pod : PodLookup) (w' : LogWorld) : Prop where
  found : ∀ spec p, stream = .found spec → pod = ⟨some p, none⟩ → p.isDeleting = false →
    ∀ k : PodLogKey, k.streamName = sn → ((w'.ctrl.watches.get? k).isSome ↔
      ∃ c ∈ filterContainers spec p.initContainers ++ filterContainers spec p.containers,
        k = ⟨sn, spec.pod, c.id⟩ ∧ w.ctrl.shouldStreamContainerLogs c k)
  gone : (stream = .notFound ∨ ∃ spec, stream = .found spec ∧
      (pod.err = some .notFound ∨ pod.pod.any (·.isDeleting))) →
    (∀ k : PodLogKey, k.streamName = sn → w'.ctrl.watches.get? k = none) ∧
      w'.ctrl.statuses.get? sn = none
  missing : ∀ spec, stream = .found spec → pod.pod = none → pod.err ≠ some .notFound → w' = w
  others : ∀ k : PodLogKey, k.streamName ≠ sn → w'.ctrl.watches.get? k = w.ctrl.watches.get? k
  leftCancelled : LeftCancelled w'

/-- After any run, a `Reconcile` that returns does what `ReconcileSpec` says. -/
theorem reconcile_settles_stream_watches (steps : List LogStep) {w w' : LogWorld}
    (hrun : LogWorld.run {} steps = some w) (sn : NamespacedName) (stream : StreamLookup)
    (pod : PodLookup) (h : w.reconcile sn stream pod = some w') :
    ReconcileSpec w sn stream pod w' where
  found spec p hs hp hdel k hk := by
    subst hs hp
    rw [reconcile_of_found hdel] at h
    obtain ⟨⟨w₂, cw⟩, hfold, rfl⟩ := Option.map_eq_some'.mp h
    have hkeys := foldlM_reconcileContainer_keys w.ctrl hfold (by simp)
      (fun k hk => .inl (by simpa using hk)) k
    have hpres := foldlM_reconcileContainer_present hfold (by simp)
    simp only [List.not_mem_nil, false_or] at hkeys
    refine Iff.trans ?_ (hkeys.trans (exists_mem_enum
      (P := fun c => k = ⟨sn, spec.pod, c.id⟩ ∧ w.ctrl.shouldStreamContainerLogs c k = true)))
    show ((w₂.ctrl.watches.filter _).get? k).isSome = true ↔ k ∈ cw
    by_cases hin : k ∈ cw
    · rw [KeyedMap.get?_filter_of_pos (by simp [hin])]
      exact ⟨fun _ => hin, hpres k⟩
    · rw [KeyedMap.get?_filter_of_neg (by simp [hin, hk])]
      exact ⟨fun h => absurd h (by simp), fun h => absurd h hin⟩
  gone hg := by
    rw [reconcile_of_gone hg] at h
    cases h
    exact ⟨fun k hk => by rw [deleteStreams_get?, if_pos hk], deleteStreams_statuses⟩
  missing spec hs hp he := by
    obtain ⟨pod, err⟩ := pod
    subst hs hp
    cases err with
    | none => exact (Option.some.inj h).symm
    | some e => cases e <;> simp_all [LogWorld.reconcile]
  others k hk := by
    rcases reconcile_cases h with rfl | rfl | ⟨spec, cs, nInit, nRun, w₂, cw, -, hfold, rfl⟩
    · rw [deleteStreams_get?, if_neg hk]
    · rfl
    · show (w₂.ctrl.watches.filter _).get? k = _
      rw [KeyedMap.get?_filter_of_pos (by simp [hk]), foldlM_reconcileContainer_other hfold hk]
      simp
  leftCancelled := (leftCancelled_init.run hrun).reconcile h

/-- From a new controller, a `Reconcile` of stream `web` whose pod `web-1` runs container
`c1`. -/
theorem reconcile_settles_stream_watches_web :
    let sn : NamespacedName := ⟨"default", "web"⟩
    let spec : PodLogStreamSpec := { pod := "web-1", ns := "default" }
    let pod : PodLookup :=
      ⟨some { uid := "u1", name := "web-1",
              containers := [{ name := "app", id := "c1", running := true }] }, none⟩
    ∃ w', LogWorld.run {} [] = some {} ∧ ({} : LogWorld).reconcile sn (.found spec) pod = some w' ∧
      ReconcileSpec {} sn (.found spec) pod w' := by
  intro sn spec pod
  exact ⟨_, rfl, rfl, reconcile_settles_stream_watches [] rfl sn (.found spec) pod rfl⟩

/-- Container `c1` of pod `web-1` runs and gets a watch. The informer cache then returns
neither the pod nor an error, and `Reconcile` returns early: the watch and the stream's
status stay. -/
theorem reconcile_keeps_watches_of_missing_pod :
    let sn : NamespacedName := ⟨"default", "web"⟩
    let spec : PodLogStreamSpec := { pod := "web-1", ns := "default" }
    let key : PodLogKey := ⟨sn, "web-1", "c1"⟩
    let pod : PodLookup :=
      ⟨some { uid := "u1", name := "web-1",
              containers := [{ name := "app", id := "c1", running := true }] }, none⟩
    ∃ w w', LogWorld.run {} [.reconcile sn (.found spec) pod] = some w ∧
      w.reconcile sn (.found spec) ⟨none, none⟩ = some w' ∧
      (w'.ctrl.watches.get? key).isSome ∧ (w'.ctrl.statuses.get? sn).isSome := by
  intro sn spec key pod
  exact ⟨_, _, rfl, rfl, by decide⟩

/-- Container `c1` of pod `web-1` runs; the first watch's `consumeLogs` ends, and `Reconcile`
starts a second watch, with context `1`, and marks the key closed. When `c1` is then
reported terminated, `shouldStreamContainerLogs` rejects it, and `Reconcile` cancels and
deletes the second watch before its `consumeLogs` has ended. -/
theorem reconcile_cancels_reading_watch :
    let sn : NamespacedName := ⟨"default", "web"⟩
    let spec : PodLogStreamSpec := { pod := "web-1", ns := "default" }
    let key : PodLogKey := ⟨sn, "web-1", "c1"⟩
    let running : Container := { name := "app", id := "c1", running := true }
    let terminated : Container := { name := "app", id := "c1", terminated := true }
    let podWith (c : Container) : PodLookup :=
      ⟨some { uid := "u1", name := "web-1", containers := [c] }, none⟩
    ∃ w w', LogWorld.run {} [.reconcile sn (.found spec) (podWith running), .consumeLogsEnd 0 5,
        .reconcile sn (.found spec) (podWith running)] = some w ∧
      w.reconcile sn (.found spec) (podWith terminated) = some w' ∧
      (w.ctrl.watches.get? key).map (·.2.ctx) = some 1 ∧ key ∈ w.ctrl.hasClosedStream ∧
      filterContainers spec [terminated] = [terminated] ∧
      1 ∈ w'.cancelled ∧ 1 ∉ w'.ended ∧ w'.ctrl.watches.get? key = none := by
  intro sn spec key running terminated podWith
  exact ⟨_, _, rfl, rfl, by decide⟩

end Runtimelog

end TiltWatch
