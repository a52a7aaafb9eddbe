import TiltWatch.Reducer.PodActions

/-! # Crash detection after the pod reducers

`checkForContainerCrash` flags a target for a crash rebuild when one of its live-updated
containers no longer runs, so after it `CrashInv` holds for the target. Only
`handlePodChangeAction` calls it, and only for a pod that lists containers. A change for
such a pod keeps `CrashInv` for every target. A change that lists none, and a deletion, drop
a pod's containers without the check: a live-updated container stops running, and nothing
flags its target.
-/

namespace TiltWatch

/-- A change action whose pod lists a container keeps `CrashInv` for every target: the target
it updates goes through `checkForContainerCrash`, and the others are left alone. -/
theorem crash_inv_after_pod_change (now : Time) (st : EngineState) (a : PodChangeAction)
    (hinv : ∀ t ∈ st.manifestTargets, CrashInv t) (hcont : a.pod.containers ≠ []) :
    ∀ t ∈ (handlePodChangeAction now st a).manifestTargets, CrashInv t := by
  rcases handlePodChangeAction_cases now st a with
    ⟨heq, -⟩ | ⟨mt, _, p, _, msF, crash, -, -, heq, -, -, -, hcr⟩
  · rwa [heq]
  · rw [heq]
    exact forall_updateManifestState (f := fun _ => msF) (fun t ht _ => hinv t ht)
      fun _ _ _ => hcr hcont

/-- A live update of container `c1` in pod `web-1`, which keeps running: the change that
reports it keeps the target clear of a crash rebuild. -/
theorem crash_inv_after_pod_change_running :
    let c : Container := { name := "app", id := "c1", running := true }
    let rt : K8sRuntimeState :=
      { pods := [{ podID := "web-1", containers := [c] }]
        podAncestorUID := "rs1"
        deployedUIDSet := ["rs1"] }
    let st : EngineState := { manifestTargets :=
      [⟨{ name := "web" },
        { name := "web", runtimeState := rt, liveUpdatedContainerIDs := ["c1"] }⟩] }
    let a : PodChangeAction := ⟨{ uid := "p1", name := "web-1", containers := [c] }, "web", "rs1"⟩
    (∀ t ∈ st.manifestTargets, CrashInv t) ∧ a.pod.containers ≠ [] ∧
      ∀ t ∈ (handlePodChangeAction 5 st a).manifestTargets, CrashInv t := by
  intro c rt st a
  exact ⟨by decide, by simp [a], crash_inv_after_pod_change 5 st a (by decide) (by simp [a])⟩

/-- Deleting pod `web-1`, whose container `c1` was live-updated, leaves `c1` in the target's
live updates although it no longer runs, and the target is not flagged. -/
theorem pod_delete_skips_crash_check :
    let c : Container := { name := "app", id := "c1", running := true }
    let rt : K8sRuntimeState := { pods := [{ podID := "web-1", containers := [c] }] }
    let st : EngineState := { manifestTargets :=
      [⟨{ name := "web" },
        { name := "web", runtimeState := rt, liveUpdatedContainerIDs := ["c1"] }⟩] }
    (∀ t ∈ st.manifestTargets, CrashInv t) ∧
      ¬ ∀ t ∈ (handlePodDeleteAction st ⟨"web-1", "default"⟩).manifestTargets, CrashInv t := by
  decide

/-- A change that reports pod `web-1` with no container statuses clears the record's
containers, and `handlePodChangeAction` returns before `checkForContainerCrash`: the
live-updated `c1` no longer runs, and the target is not flagged. -/
theorem pod_change_without_containers_skips_crash_check :
    let c : Container := { name := "app", id := "c1", running := true }
    let rt : K8sRuntimeState :=
      { pods := [{ podID := "web-1", containers := [c] }]
        podAncestorUID := "rs1"
        deployedUIDSet := ["rs1"] }
    let st : EngineState := { manifestTargets :=
      [⟨{ name := "web" },
        { name := "web", runtimeState := rt, liveUpdatedContainerIDs := ["c1"] }⟩] }
    let a : PodChangeAction := ⟨{ uid := "p1", name := "web-1" }, "web", "rs1"⟩
    (∀ t ∈ st.manifestTargets, CrashInv t) ∧ a.pod.containers = [] ∧
      ¬ ∀ t ∈ (handlePodChangeAction 5 st a).manifestTargets, CrashInv t := by
  decide

end TiltWatch
