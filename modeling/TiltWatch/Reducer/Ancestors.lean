import TiltWatch.Reducer.Tracking

/-! # One ancestor per manifest

`maybeTrackPod` keeps, for each manifest, the pods of one ancestor UID. A `TrackingWorld`
applies the pod reducers to a sequence of actions and records, as ghost entries, each pod
that `maybeTrackPod` adds, with the ancestor its action was matched through. In every state
each tracked pod was last added under the empty ancestor or the manifest's current one, and
a manifest without an ancestor tracks at most one pod.

A change whose ancestor differs from the manifest's replaces the tracked pods only when its
pod passes `HasOKPodTemplateSpecHash`. A pod from an older deploy is matched to the
manifest, but `maybeTrackPod` then returns before case 1: the manifest keeps its ancestor,
and its pods are only rewritten and pruned, so the pods of the previous ancestor can stay.
-/

namespace TiltWatch

/-- A pod that `maybeTrackPod` added: the manifest, the pod and its action's ancestor. -/
structure Insertion where
  manifestName : ManifestName
  podID : PodID
  ancestor : UID
  deriving DecidableEq, Repr

/-- The pod a change action adds, if it adds one. -/
def podInsertion (st : EngineState) (a : PodChangeAction) : Option Insertion :=
  match matchPodChangeToManifest st a with
  | none => none
  | some mt =>
    match (maybeTrackPod mt.state a).2 with
    | some (_, true) => some ⟨mt.manifest.name, a.pod.name, a.matchedAncestorUID⟩
    | _ => none

/-- The pod reducers with a ghost record of the pods they added. -/
structure TrackingWorld where
  engine : EngineState
  insertions : List Insertion := []

/-- The ancestor under which a manifest's pod was added last. -/
def insertedUnder (ins : List Insertion) (mn : ManifestName) (podID : PodID) : Option UID :=
  (ins.filterMap fun e =>
    if e.manifestName = mn ∧ e.podID = podID then some e.ancestor else none).getLast?

namespace TrackingWorld

def step (s : TrackingWorld) (now : Time) : PodAction → TrackingWorld
  | .change a =>
    { engine := handlePodChangeAction now s.engine a
      insertions := s.insertions ++ (podInsertion s.engine a).toList }
  | act => { s with engine := handlePodAction now s.engine act }

def run (s : TrackingWorld) (steps : List (Time × PodAction)) : TrackingWorld :=
  steps.foldl (fun s e => s.step e.1 e.2) s

/-- Each tracked pod was last added under the empty ancestor or the manifest's, and a
manifest without an ancestor tracks at most one pod. -/
structure AncestorInv (s : TrackingWorld) : Prop where
  inserted : ∀ t ∈ s.engine.manifestTargets, ∀ podID ∈ t.podIDs, ∃ anc,
    insertedUnder s.insertions t.manifest.name podID = some anc ∧
      (anc = "" ∨ anc = t.state.runtimeState.podAncestorUID)
  single : ∀ t ∈ s.engine.manifestTargets,
    t.state.runtimeState.podAncestorUID = "" → t.podIDs.length ≤ 1

variable {s : TrackingWorld}

theorem insertedUnder_append_of_ne {ins : List Insertion} {e : Insertion} {mn : ManifestName}
    {podID : PodID} (h : ¬(e.manifestName = mn ∧ e.podID = podID)) :
    insertedUnder (ins ++ [e]) mn podID = insertedUnder ins mn podID := by
  simp [insertedUnder, h]

theorem insertedUnder_append_self {ins : List Insertion} {e : Insertion} :
    insertedUnder (ins ++ [e]) e.manifestName e.podID = some e.ancestor := by
  simp [insertedUnder]

theorem podInsertion_eq_none {st : EngineState} {a : PodChangeAction}
    (h : ∀ mt, matchPodChangeToManifest st a = some mt →
      ∀ p, (maybeTrackPod mt.state a).2 ≠ some (p, true)) :
    podInsertion st a = none := by
  unfold podInsertion
  split
  · rfl
  · rename_i mt hm
    split
    · rename_i p hp; exact absurd hp (h mt hm p)
    · rfl

theorem maybeTrackPod_ne_new {ms : ManifestState} {a : PodChangeAction}
    (hbad : ms.runtimeState.hasOKPodTemplateSpecHash a.pod = false) (p : Pod) :
    (maybeTrackPod ms a).2 ≠ some (p, true) := by
  intro hp
  rcases maybeTrackPod_cases ms a with ⟨-, hold⟩ | ⟨hok, -⟩
  · exact Bool.noConfusion (hold p true hp).1
  · exact Bool.noConfusion (hbad.symm.trans hok)

theorem AncestorInv.init {st : EngineState}
    (hempty : ∀ t ∈ st.manifestTargets, t.state.runtimeState.pods = []) :
    AncestorInv { engine := st } where
  inserted t ht := by simp [ManifestTarget.podIDs, hempty t ht]
  single t ht _ := by simp [ManifestTarget.podIDs, hempty t ht]

theorem AncestorInv.shrink (hi : AncestorInv s) {st' : EngineState} (h : PodsShrink s.engine st') :
    AncestorInv { s with engine := st' } where
  inserted t' ht' podID hp := by
    obtain ⟨t, ht, hn, ha, hsub⟩ := h t' ht'
    rw [hn, ha]
    exact hi.inserted t ht podID (hsub.subset hp)
  single t' ht' he := by
    obtain ⟨t, ht, -, ha, hsub⟩ := h t' ht'
    exact hsub.length_le.trans (hi.single t ht (ha ▸ he))

/-- A change that adds its pod after case 1 keeps the invariant: the new pod was added under
the action's ancestor, which case 1 made the manifest's unless it is empty, and the pods
case 1 kept were added under the unchanged ancestor. -/
theorem AncestorInv.change (hi : AncestorInv s) (now : Time) (a : PodChangeAction) :
    AncestorInv (s.step now (.change a)) := by
  rcases handlePodChangeAction_tracking now s.engine a with ⟨hsh, hnot⟩ | ⟨mt, h₁, h₂, ht⟩
  · simpa [step, podInsertion_eq_none hnot] using hi.shrink hsh
  have hins :
      podInsertion s.engine a = some ⟨mt.manifest.name, a.pod.name, a.matchedAncestorUID⟩ := by
    simp [podInsertion, h₁, h₂]
  have hmt := (matchPodChangeToManifest_some h₁).1
  set r := mt.state.runtimeState.forAncestor a.matchedAncestorUID
  simp only [step, hins, Option.toList_some]
  constructor
  · intro t' ht' podID hp
    rcases ht t' ht' with ⟨hn, hold⟩ | ⟨hn, ha, hsub, -⟩
    · rw [insertedUnder_append_of_ne fun h => hn h.1.symm]
      exact hi.inserted t' hold podID hp
    rw [ha]
    by_cases hpn : podID = a.pod.name
    · subst hpn
      refine ⟨a.matchedAncestorUID, ?_, forAncestor_ancestor _ _⟩
      rw [hn]
      exact insertedUnder_append_self
    rw [insertedUnder_append_of_ne fun h => hpn h.2.symm]
    have hr : podID ∈ r.pods.map (·.podID) := by
      simpa [hpn] using hsub.subset hp
    rcases forAncestor_cases mt.state.runtimeState a.matchedAncestorUID with hreset | ⟨hkeep, -⟩
    · simp [r, hreset] at hr
    · have hrk : r = mt.state.runtimeState := hkeep
      rw [hrk] at hr ⊢
      rw [hn]
      exact hi.inserted mt hmt podID hr
  · intro t' ht' he
    rcases ht t' ht' with ⟨-, hold⟩ | ⟨-, ha, hsub, -⟩
    · exact hi.single t' hold he
    rw [ha] at he
    rcases forAncestor_cases mt.state.runtimeState a.matchedAncestorUID with
      hreset | ⟨hkeep, hne, -⟩
    · have := hsub.length_le
      simp only [r, hreset, List.map_nil, List.nil_append, List.length_singleton] at this
      exact this
    · exact absurd (show mt.state.runtimeState.podAncestorUID = "" by rw [← hkeep]; exact he) hne

theorem AncestorInv.step (hi : AncestorInv s) (now : Time) : ∀ act, AncestorInv (s.step now act)
  | .change a => hi.change now a
  | .delete a => hi.shrink (handlePodDeleteAction_shrink s.engine a)
  | .resetRestarts a => hi.shrink (handlePodResetRestartsAction_shrink s.engine a)

/-- A change whose pod fails `HasOKPodTemplateSpecHash` at the manifest it is matched to adds
no ghost entry, and every target afterwards is one before, with its ancestor, tracking some
of the pods it tracked. -/
theorem step_of_not_ok {a : PodChangeAction} {mt : ManifestTarget} (now : Time)
    (hmatch : matchPodChangeToManifest s.engine a = some mt)
    (hbad : mt.state.runtimeState.hasOKPodTemplateSpecHash a.pod = false) :
    (s.step now (.change a)).insertions = s.insertions ∧
      PodsShrink s.engine (s.step now (.change a)).engine := by
  have hnot : ∀ mt', matchPodChangeToManifest s.engine a = some mt' →
      ∀ p, (maybeTrackPod mt'.state a).2 ≠ some (p, true) := by
    intro mt' h
    rw [hmatch] at h
    cases h
    exact maybeTrackPod_ne_new hbad
  refine ⟨by simp [step, podInsertion_eq_none hnot], ?_⟩
  rcases handlePodChangeAction_tracking now s.engine a with ⟨hsh, -⟩ | ⟨mt', h₁, h₂, -⟩
  · exact hsh
  · exact absurd h₂ (hnot mt' h₁ _)

theorem AncestorInv.run (hi : AncestorInv s) (steps : List (Time × PodAction)) :
    AncestorInv (s.run steps) := by
  induction steps generalizing s with
  | nil => exact hi
  | cons e es ih => exact ih (hi.step e.1 e.2)

end TrackingWorld

open TrackingWorld in
/-- Runs of the pod reducers from runtimes that track no pod. In every state, each tracked
pod was last added under the empty ancestor or its manifest's, and a manifest without an
ancestor tracks at most one pod. A change matched to a manifest through a non-empty ancestor
other than the manifest's, whose pod passes `HasOKPodTemplateSpecHash`, makes that ancestor
the manifest's and leaves only pods added under it or under the empty ancestor. A matched
change whose pod fails the check adds no pod: every manifest keeps its ancestor and some of
its pods. -/
theorem tracked_pods_share_ancestor (st₀ : EngineState)
    (hempty : ∀ t ∈ st₀.manifestTargets, t.state.runtimeState.pods = []) :
    (∀ steps : List (Time × PodAction),
      ∀ t ∈ (run { engine := st₀ } steps).engine.manifestTargets,
        (∀ p ∈ t.state.runtimeState.pods, ∃ anc,
          insertedUnder (run { engine := st₀ } steps).insertions t.manifest.name p.podID =
            some anc ∧
            (anc = "" ∨ anc = t.state.runtimeState.podAncestorUID)) ∧
        (t.state.runtimeState.podAncestorUID = "" → t.state.runtimeState.pods.length ≤ 1)) ∧
    (∀ (steps : List (Time × PodAction)) (now : Time) (a : PodChangeAction) (mt : ManifestTarget),
      matchPodChangeToManifest (run { engine := st₀ } steps).engine a = some mt →
      a.matchedAncestorUID ≠ "" → a.matchedAncestorUID ≠ mt.state.runtimeState.podAncestorUID →
      mt.state.runtimeState.hasOKPodTemplateSpecHash a.pod = true →
      ∀ t ∈ (run { engine := st₀ } (steps ++ [(now, .change a)])).engine.manifestTargets,
        t.manifest.name = mt.manifest.name →
          t.state.runtimeState.podAncestorUID = a.matchedAncestorUID ∧
          ∀ p ∈ t.state.runtimeState.pods, ∃ anc,
            insertedUnder (run { engine := st₀ } (steps ++ [(now, .change a)])).insertions
              t.manifest.name p.podID = some anc ∧ (anc = "" ∨ anc = a.matchedAncestorUID)) ∧
    (∀ (steps : List (Time × PodAction)) (now : Time) (a : PodChangeAction) (mt : ManifestTarget),
      matchPodChangeToManifest (run { engine := st₀ } steps).engine a = some mt →
      mt.state.runtimeState.hasOKPodTemplateSpecHash a.pod = false →
      (run { engine := st₀ } (steps ++ [(now, .change a)])).insertions =
          (run { engine := st₀ } steps).insertions ∧
        ∀ t' ∈ (run { engine := st₀ } (steps ++ [(now, .change a)])).engine.manifestTargets,
          ∃ t ∈ (run { engine := st₀ } steps).engine.manifestTargets,
            t'.manifest.name = t.manifest.name ∧
            t'.state.runtimeState.podAncestorUID = t.state.runtimeState.podAncestorUID ∧
            (t'.state.runtimeState.pods.map (·.podID)).Sublist
              (t.state.runtimeState.pods.map (·.podID))) := by
  have hinv := fun steps => (AncestorInv.init hempty).run steps
  have hpods : ∀ steps, ∀ t ∈ (run { engine := st₀ } steps).engine.manifestTargets,
      ∀ p ∈ t.state.runtimeState.pods, ∃ anc,
        insertedUnder (run { engine := st₀ } steps).insertions t.manifest.name p.podID = some anc ∧
          (anc = "" ∨ anc = t.state.runtimeState.podAncestorUID) :=
    fun steps t ht p hp => (hinv steps).inserted t ht p.podID (List.mem_map_of_mem _ hp)
  have hrun : ∀ steps now act, run { engine := st₀ } (steps ++ [(now, act)]) =
      (run { engine := st₀ } steps).step now act := by
    simp [run, List.foldl_append]
  refine ⟨fun steps t ht => ⟨hpods steps t ht, fun he => ?_⟩,
    fun steps now a mt hmatch hA hne hok t ht hn => ?_,
    fun steps now a mt hmatch hbad => by rw [hrun]; exact step_of_not_ok now hmatch hbad⟩
  · simpa [ManifestTarget.podIDs] using (hinv steps).single t ht he
  obtain ⟨hr, hnew⟩ := maybeTrackPod_of_new_ancestor hok hA hne
  have hanc : t.state.runtimeState.podAncestorUID = a.matchedAncestorUID := by
    rw [hrun] at ht
    rcases handlePodChangeAction_tracking now _ a with ⟨-, hnot⟩ | ⟨mt', h₁, -, hts⟩
    · exact absurd hnew (hnot mt hmatch _)
    rw [hmatch] at h₁
    cases h₁
    rcases hts t ht with ⟨hn', -⟩ | ⟨-, ha, -⟩
    · exact absurd hn hn'
    · rw [ha, hr]
  refine ⟨hanc, fun p hp => ?_⟩
  obtain ⟨anc, h, h'⟩ := hpods _ t ht p hp
  exact ⟨anc, h, hanc ▸ h'⟩

/-- Runs from a manifest `web` that tracks no pod. -/
theorem tracked_pods_share_ancestor_web :
    let st₀ : EngineState := { manifestTargets :=
      [⟨{ name := "web" }, { name := "web", runtimeState := { deployedUIDSet := ["rs1"] } }⟩] }
    (∀ t ∈ st₀.manifestTargets, t.state.runtimeState.pods = []) ∧
      (∀ steps : List (Time × PodAction),
        ∀ t ∈ (TrackingWorld.run { engine := st₀ } steps).engine.manifestTargets,
          (∀ p ∈ t.state.runtimeState.pods, ∃ anc,
            insertedUnder (TrackingWorld.run { engine := st₀ } steps).insertions t.manifest.name
              p.podID = some anc ∧ (anc = "" ∨ anc = t.state.runtimeState.podAncestorUID)) ∧
          (t.state.runtimeState.podAncestorUID = "" → t.state.runtimeState.pods.length ≤ 1)) := by
  intro st₀
  exact ⟨by decide, (tracked_pods_share_ancestor st₀ (by decide)).1⟩

/-- Pod `web-1` is added under ancestor `rs1`. A change for pod `web-2` through the deployed
ancestor `rs2` is matched to `web`, but `web-2` carries a template hash that was never
deployed: no pod is replaced, and `web-1` stays tracked, added under `rs1`. -/
theorem older_deploy_keeps_tracked_pods :
    let st₀ : EngineState := { manifestTargets :=
      [⟨{ name := "web" },
        { name := "web", runtimeState := { deployedUIDSet := ["rs1", "rs2"] } }⟩] }
    let a₁ : PodChangeAction := ⟨{ uid := "p1", name := "web-1" }, "web", "rs1"⟩
    let a₂ : PodChangeAction :=
      ⟨{ uid := "p2", name := "web-2", labels := [(tiltPodTemplateHashLabel, "old")] },
        "web", "rs2"⟩
    let s₁ := TrackingWorld.run { engine := st₀ } [(0, .change a₁)]
    let s₂ := s₁.run [(1, .change a₂)]
    (∀ t ∈ st₀.manifestTargets, t.state.runtimeState.pods = []) ∧
      (matchPodChangeToManifest s₁.engine a₂).isSome ∧
      (∀ t ∈ s₁.engine.manifestTargets, t.state.runtimeState.podAncestorUID = "rs1") ∧
      ∃ t ∈ s₂.engine.manifestTargets, ∃ p ∈ t.state.runtimeState.pods,
        insertedUnder s₂.insertions t.manifest.name p.podID = some "rs1" := by
  decide

end TiltWatch
