import TiltWatch.PodWatcher.Interleaving
import TiltWatch.Reducer.Tracking

/-! # A deleted pod after the watcher and the reducers

The store applies the actions the pod watcher dispatches in the order they were dispatched.
After `handlePodDeleteAction` for a name, no target tracks a pod of that name, and every
reducer step keeps it so except a change that carries a pod of that name which is not
deleting. Such a change can still come after the deletion. A goroutine that triaged an
earlier update may dispatch late, and a replay may dispatch a known pod; both dispatch the
version of the pod received last, and deletion keys do not touch `knownPods`.

So a deleted name stays untracked when no update of that name arrives after the deletion and
the version of each such pod received last before it is deleting, as the watch reports a
pod's deletion timestamp before its deletion.
-/

namespace TiltWatch

def dispatchedActions (tr : List PodObs) : List PodAction :=
  tr.filterMap fun
    | .dispatched a => some a
    | _ => none

def reducePodActions (st : EngineState) (acts : List (Time × PodAction)) : EngineState :=
  acts.foldl (fun st e => handlePodAction e.1 st e.2) st

/-- No target tracks a pod named `n`. -/
def Untracked (n : PodID) (st : EngineState) : Prop :=
  ∀ t ∈ st.manifestTargets, n ∉ t.podIDs

section Untracked

variable {n : PodID} {st st' : EngineState}

@[simp] theorem dispatchedActions_append (a b : List PodObs) :
    dispatchedActions (a ++ b) = dispatchedActions a ++ dispatchedActions b :=
  List.filterMap_append _ _ _

@[simp] theorem dispatchedActions_cons_dispatched {a : PodAction} {l : List PodObs} :
    dispatchedActions (.dispatched a :: l) = a :: dispatchedActions l := rfl

theorem reducePodActions_append (st : EngineState) (a b : List (Time × PodAction)) :
    reducePodActions st (a ++ b) = reducePodActions (reducePodActions st a) b :=
  List.foldl_append _ _ _ _

theorem Untracked.shrink (h : Untracked n st) (hs : PodsShrink st st') : Untracked n st' :=
  fun t' ht' hn => by
    obtain ⟨t, ht, -, -, hsub⟩ := hs t' ht'
    exact h t ht (hsub.subset hn)

theorem untracked_handlePodDeleteAction (st : EngineState) (d : PodDeleteAction) :
    Untracked d.podID (handlePodDeleteAction st d) := by
  intro t ht hn
  simp only [handlePodDeleteAction, List.mem_map] at ht
  obtain ⟨t₀, -, rfl⟩ := ht
  simp [ManifestTarget.podIDs, deletePod] at hn
  obtain ⟨_, ⟨-, hne⟩, he⟩ := hn
  exact hne he

theorem Untracked.change (h : Untracked n st) (now : Time) (a : PodChangeAction)
    (ha : a.pod.name = n → a.pod.isDeleting = true) :
    Untracked n (handlePodChangeAction now st a) := by
  rcases handlePodChangeAction_tracking now st a with ⟨hsh, -⟩ | ⟨mt, h₁, -, ht⟩
  · exact h.shrink hsh
  intro t' ht' hn
  rcases ht t' ht' with ⟨-, hold⟩ | ⟨-, -, hsub, hdel⟩
  · exact h t' hold hn
  rcases List.mem_append.mp (hsub.subset hn) with hr | hr
  · rcases forAncestor_cases mt.state.runtimeState a.matchedAncestorUID with hreset | ⟨hkeep, -⟩
    · simp [hreset] at hr
    · rw [hkeep] at hr
      exact h mt (matchPodChangeToManifest_some h₁).1 hr
  · obtain rfl := List.mem_singleton.mp hr
    exact hdel (ha rfl) hn

theorem Untracked.reduce (h : Untracked n st) (acts : List (Time × PodAction))
    (hacts : ∀ e ∈ acts, ∀ a, e.2 = .change a → a.pod.name = n → a.pod.isDeleting = true) :
    Untracked n (reducePodActions st acts) := by
  induction acts generalizing st with
  | nil => exact h
  | cons e es ih =>
    refine ih ?_ fun e' he' => hacts e' (List.mem_cons_of_mem _ he')
    obtain ⟨now, act⟩ := e
    cases act with
    | change a => exact h.change now a (hacts _ (List.mem_cons_self _ _) a rfl)
    | delete d => exact h.shrink (handlePodDeleteAction_shrink st d)
    | resetRestarts r => exact h.shrink (handlePodResetRestartsAction_shrink st r)

end Untracked

namespace PodWorld

variable {s : PodWorld} {pre post : List PodObs} {x : PodObs} {n : PodID}

/-- In a well-formed trace, a change dispatched after an entry `x` that receives nothing
carries a deleting pod of name `n` when no update of that name arrives after `x` and the last
version received before `x` of each pod named `n` is deleting. -/
theorem WellFormed.deleting_after (hw : s.WellFormed) (hsplit : s.trace = pre ++ x :: post)
    (hx : ∀ q, x ≠ .received q) (hlater : ∀ q, PodObs.received q ∈ post → q.name ≠ n)
    (hlast : ∀ u q, (receivedVersions u pre).getLast? = some q → q.name = n → q.isDeleting = true)
    {a : PodChangeAction} (ha : PodObs.dispatched (.change a) ∈ post) (hn : a.pod.name = n) :
    a.pod.isDeleting = true := by
  obtain ⟨mid, rest, rfl⟩ := List.append_of_mem ha
  have hf := hw.fresh (pre ++ x :: mid) a rest (by simp [hsplit])
  have hxv : receivedVersions a.pod.uid [x] = [] := by
    cases x <;> first | rfl | exact absurd rfl (hx _)
  rw [show pre ++ x :: mid = pre ++ [x] ++ mid by simp, receivedVersions_append,
    receivedVersions_append, hxv, List.append_nil, List.getLast?_append] at hf
  cases hm : (receivedVersions a.pod.uid mid).getLast? with
  | none => exact hlast _ _ (by simpa [hm] using hf) hn
  | some q =>
    rw [hm] at hf
    obtain rfl : q = a.pod := by simpa using hf
    have := (mem_receivedVersions.mp (List.mem_of_getLast?_eq_some hm)).1
    exact absurd hn (hlater a.pod (List.mem_append_left _ this))

end PodWorld

/-- A pod deleted by name stays untracked. Take any run of the pod watcher whose trace
dispatches a deletion of name `n`, after which no update of a pod named `n` arrives, and
before which the last version received of every pod named `n` is deleting. Apply, from any
engine state and at any times, the dispatched actions in order up to any point after the
deletion: no manifest tracks a pod named `n`. -/
theorem deleted_pod_stays_untracked (steps : List PodStep) {pre post mid : List PodObs}
    {d : PodDeleteAction}
    (hsplit : (PodWorld.run {} steps).trace = pre ++ .dispatched (.delete d) :: post)
    (hmid : mid <+: post)
    (hlater : ∀ q, PodObs.received q ∈ post → q.name ≠ d.podID)
    (hlast : ∀ u q, (receivedVersions u pre).getLast? = some q → q.name = d.podID →
      q.isDeleting = true)
    (st₀ : EngineState) (acts : List (Time × PodAction))
    (hacts : acts.map (·.2) = dispatchedActions (pre ++ .dispatched (.delete d) :: mid)) :
    ∀ t ∈ (reducePodActions st₀ acts).manifestTargets, ∀ p ∈ t.state.runtimeState.pods,
      p.podID ≠ d.podID := by
  have hw := PodWorld.WellFormed.of_reachable (PodWorld.reachable_run steps)
  rw [dispatchedActions_append, dispatchedActions_cons_dispatched] at hacts
  obtain ⟨acts₁, acts₂, rfl, -, h₂⟩ := List.map_eq_append_iff.mp hacts
  obtain ⟨e, acts₃, rfl, he, h₃⟩ := List.map_eq_cons_iff.mp h₂
  obtain ⟨now, act⟩ := e
  cases he
  have hdel : Untracked d.podID (reducePodActions st₀ (acts₁ ++ [(now, .delete d)])) := by
    rw [reducePodActions_append]
    exact untracked_handlePodDeleteAction _ d
  have hrest := hdel.reduce acts₃ fun e he a ha hn => by
    have hmem : PodAction.change a ∈ dispatchedActions mid := by
      rw [← h₃, ← ha]; exact List.mem_map_of_mem _ he
    obtain ⟨o, ho, hoa⟩ := List.mem_filterMap.mp hmem
    cases o <;> simp only [Option.some.injEq, reduceCtorEq] at hoa
    subst hoa
    exact hw.deleting_after hsplit (fun _ h => by cases h) hlater hlast
      (hmid.subset ho) hn
  rw [show acts₁ ++ (now, .delete d) :: acts₃ = acts₁ ++ [(now, .delete d)] ++ acts₃ by simp,
    reducePodActions_append]
  intro t ht p hp hpn
  exact hrest t ht (hpn ▸ List.mem_map_of_mem _ hp)

/-- Pod `web-1` reports its deletion timestamp before its deletion key arrives. The goroutine of
its first update dispatches after the deletion was applied, with the deleting version, and
pruning drops the pod again. -/
theorem deleted_pod_stays_untracked_after_deletion_timestamp :
    let p : V1.Pod := { uid := "p1", name := "web-1", ns := "default", phase := .running }
    let p' : V1.Pod := { p with deletionTimestamp := some 5 }
    let d : PodDeleteAction := ⟨"web-1", "default"⟩
    let steps : List PodStep := [.onChange [] [("rs1", "web")], .receive p, .triage p ["p1", "rs1"],
      .receive p', .receiveDeleted "web-1" "default", .dispatchDelete d, .dispatch p "web" "rs1"]
    let pre : List PodObs :=
      [.registered "rs1" "web", .received p, .triaged p ["p1", "rs1"], .received p']
    let post : List PodObs := [.dispatched (.change ⟨p', "web", "rs1"⟩)]
    let st₀ : EngineState := { manifestTargets :=
      [⟨{ name := "web" }, { name := "web", runtimeState := { deployedUIDSet := ["rs1"] } }⟩] }
    let acts : List (Time × PodAction) := [(0, .delete d), (1, .change ⟨p', "web", "rs1"⟩)]
    (PodWorld.run {} steps).trace = pre ++ .dispatched (.delete d) :: post ∧ post <+: post ∧
      (∀ q, PodObs.received q ∈ post → q.name ≠ d.podID) ∧
      (∀ u q, (receivedVersions u pre).getLast? = some q → q.name = d.podID →
        q.isDeleting = true) ∧
      acts.map (·.2) = dispatchedActions (pre ++ .dispatched (.delete d) :: post) ∧
      ∀ t ∈ (reducePodActions st₀ acts).manifestTargets, ∀ q ∈ t.state.runtimeState.pods,
        q.podID ≠ d.podID := by
  intro p p' d steps pre post st₀ acts
  have h : (PodWorld.run {} steps).trace = pre ++ .dispatched (.delete d) :: post := by decide
  have hlater : ∀ q, PodObs.received q ∈ post → q.name ≠ d.podID := by simp [post]
  have hlast : ∀ u q, (receivedVersions u pre).getLast? = some q → q.name = d.podID →
      q.isDeleting = true := by
    intro u q hq _
    by_cases hu : "p1" = u
    · simp only [pre, p', p, hu, receivedVersions_append] at hq
      simp [receivedVersions] at hq
      subst hq; rfl
    · simp [pre, p, p', hu] at hq
  have hacts : acts.map (·.2) = dispatchedActions (pre ++ .dispatched (.delete d) :: post) := rfl
  exact ⟨h, List.prefix_refl _, hlater, hlast, hacts, deleted_pod_stays_untracked steps h
    (List.prefix_refl _) hlater hlast st₀ acts hacts⟩

/-- Pod `web-1` is deleted while the goroutine of its last update, which reports it running,
waits to dispatch. The deletion is applied first; the late change tracks `web-1` again,
although no update of `web-1` arrived after the deletion. -/
theorem late_dispatch_tracks_deleted_pod :
    let p : V1.Pod := { uid := "p1", name := "web-1", ns := "default", phase := .running }
    let d : PodDeleteAction := ⟨"web-1", "default"⟩
    let steps : List PodStep := [.onChange [] [("rs1", "web")], .receive p, .triage p ["p1", "rs1"],
      .receiveDeleted "web-1" "default", .dispatchDelete d, .dispatch p "web" "rs1"]
    let post : List PodObs := [.dispatched (.change ⟨p, "web", "rs1"⟩)]
    let st₀ : EngineState := { manifestTargets :=
      [⟨{ name := "web" }, { name := "web", runtimeState := { deployedUIDSet := ["rs1"] } }⟩] }
    let acts : List (Time × PodAction) := [(0, .delete d), (1, .change ⟨p, "web", "rs1"⟩)]
    (PodWorld.run {} steps).trace =
        [.registered "rs1" "web", .received p, .triaged p ["p1", "rs1"]] ++
          .dispatched (.delete d) :: post ∧
      (∀ q, PodObs.received q ∈ post → q.name ≠ d.podID) ∧
      acts.map (·.2) = dispatchedActions (PodWorld.run {} steps).trace ∧
      ∃ t ∈ (reducePodActions st₀ acts).manifestTargets, d.podID ∈ t.podIDs := by
  intro p d steps post st₀ acts
  exact ⟨by decide, by simp [post], by decide, by decide⟩

end TiltWatch
