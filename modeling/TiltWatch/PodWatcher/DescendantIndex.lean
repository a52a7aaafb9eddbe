import TiltWatch.PodWatcher.Interleaving

/-! # The descendant index of the pod watcher

`triagePodTree` records a pod under each owner of its tree but itself, and only a goroutine
of `dispatchPodChangesLoop` triages, after `upsertPod` stored the pod. Nothing deletes from
`knownPods` or from a descendant set, so every pod UID the index holds stays a key of
`knownPods`. Hence the replay of `setupNewUIDs` finds every recorded descendant: it
dispatches one action per descendant, in the set's order, or the pod itself when the
registered UID is a known pod.
-/

namespace TiltWatch

namespace PodWatcher

/-- `w'` holds every known pod and every descendant entry of `w`. -/
def Grows (w w' : PodWatcher) : Prop :=
  (∀ u, (w.knownPods u).isSome → (w'.knownPods u).isSome) ∧
    ∀ u v, v ∈ w.knownDescendentPodUIDs u → v ∈ w'.knownDescendentPodUIDs u

theorem Grows.refl (w : PodWatcher) : Grows w w := ⟨fun _ h => h, fun _ _ h => h⟩

theorem Grows.of_eq {w w' : PodWatcher} (hp : w'.knownPods = w.knownPods)
    (hd : w'.knownDescendentPodUIDs = w.knownDescendentPodUIDs) : Grows w w' :=
  ⟨fun _ h => hp ▸ h, fun _ _ h => hd ▸ h⟩

variable {w : PodWatcher}

theorem grows_upsertPod (pod : V1.Pod) : Grows w (w.upsertPod pod) := by
  refine ⟨fun u h => ?_, fun u v h => h⟩
  by_cases hu : u = pod.uid
  · subst hu; simp
  · simpa [Function.update_noteq hu] using h

theorem grows_triagePodTree (pod : V1.Pod) (tree : List UID) :
    Grows w (w.triagePodTree pod tree).1 :=
  ⟨fun u h => by simpa using h, fun u v h => by simp [mem_recordDescendant, h]⟩

/-- What one registration of `setupNewUIDs` replays, seen by pod UID, manifest and ancestor:
the pod itself when the UID is a known pod, else every recorded descendant once, provided
every descendant is a known pod. -/
theorem setupNewUID_replays (hidx : ∀ u v, v ∈ w.knownDescendentPodUIDs u → (w.knownPods v).isSome)
    (huid : ∀ u q, w.knownPods u = some q → q.uid = u) (uid : UID) (mn : ManifestName) :
    (w.setupNewUID uid mn).2.map (fun a => (a.pod.uid, a.manifestName, a.matchedAncestorUID)) =
      (if (w.knownPods uid).isSome then [uid] else w.knownDescendentPodUIDs uid).map
        (·, mn, uid) := by
  unfold setupNewUID
  split
  · rename_i q hq
    simp [hq, huid uid q hq]
  · rename_i hq
    simp only [hq, Option.isSome_none, Bool.false_eq_true, if_false, List.map_filterMap]
    refine List.filterMap_eq_map_iff_forall_eq_some.mpr fun v hv => ?_
    obtain ⟨q, hq⟩ := Option.isSome_iff_exists.mp (hidx uid v hv)
    simp [hq, huid v q hq]

theorem setupNewUIDs_replays (hidx : ∀ u v, v ∈ w.knownDescendentPodUIDs u → (w.knownPods v).isSome)
    (huid : ∀ u q, w.knownPods u = some q → q.uid = u) (newUIDs : List (UID × ManifestName)) :
    (w.setupNewUIDs newUIDs).2.map (fun a => (a.pod.uid, a.manifestName, a.matchedAncestorUID)) =
      newUIDs.flatMap fun e =>
        (if (w.knownPods e.1).isSome then [e.1] else w.knownDescendentPodUIDs e.1).map
          (·, e.2, e.1) := by
  induction newUIDs generalizing w with
  | nil => rfl
  | cons e es ih =>
    simp only [setupNewUIDs, List.map_append, List.flatMap_cons,
      setupNewUID_replays hidx huid e.1 e.2]
    exact congrArg _ (ih (by simpa using hidx) (by simpa using huid))

end PodWatcher

namespace PodWorld

variable {s : PodWorld}

theorem fold_register_grows (newUIDs : List (UID × ManifestName)) (s : PodWorld) :
    (newUIDs.foldl (fun t e => t.register e.1 e.2) s).watcher.knownPods = s.watcher.knownPods ∧
    (newUIDs.foldl (fun t e => t.register e.1 e.2) s).watcher.knownDescendentPodUIDs =
      s.watcher.knownDescendentPodUIDs := by
  induction newUIDs generalizing s with
  | nil => exact ⟨rfl, rfl⟩
  | cons e es ih => exact ih (s.register e.1 e.2)

theorem step_grows (s : PodWorld) : ∀ e, s.watcher.Grows (s.step e).watcher
  | .receive pod => PodWatcher.grows_upsertPod pod
  | .receiveDeleted _ _ => .refl _
  | .triage pod tree => by
    by_cases h : PodTask.lookup pod ∈ s.tasks
    · simp only [step, if_pos h]; exact PodWatcher.grows_triagePodTree pod tree
    · simp only [step, if_neg h]; exact .refl _
  | .lookupFailed _ => .refl _
  | .dispatch pod mn anc => by
    by_cases h : PodTask.triaged pod mn anc ∈ s.tasks
    · simp only [step, if_pos h]; exact .refl _
    · simp only [step, if_neg h]; exact .refl _
  | .dispatchDelete a => by
    by_cases h : PodTask.deleting a ∈ s.tasks
    · simp only [step, if_pos h]; exact .refl _
    · simp only [step, if_neg h]; exact .refl _
  | .onChange sels newUIDs =>
    let h := fold_register_grows newUIDs
      { s with watcher := { s.watcher with extraSelectors := sels } }
    .of_eq h.1 h.2

theorem WellFormed.descendant_known (hw : WellFormed s) {u v : UID}
    (h : v ∈ s.watcher.knownDescendentPodUIDs u) : v ≠ u ∧ (s.watcher.knownPods v).isSome := by
  obtain ⟨pod, tree, htr, rfl, -, hne⟩ := (hw.mem_descendants u v).mp h
  obtain ⟨q, hq, -⟩ := hw.knownPods_of_received (hw.triaged_received pod tree htr)
  exact ⟨hne.symm, by simp [hq]⟩

/-- The descendant index of every reachable watcher: each pod UID recorded under `u` is not
`u` and is a key of `knownPods`; no step removes a known pod or a recorded descendant; and so
`setupNewUIDs` finds the pod of every recorded descendant, replaying exactly one action per
descendant of each registered UID that is not itself a known pod. -/
theorem descendant_index_stays_known (h : Reachable s) :
    (∀ u v, v ∈ s.watcher.knownDescendentPodUIDs u → v ≠ u ∧ (s.watcher.knownPods v).isSome) ∧
    (∀ e, s.watcher.Grows (s.step e).watcher) ∧
    ∀ newUIDs : List (UID × ManifestName),
      (s.watcher.setupNewUIDs newUIDs).2.map
          (fun a => (a.pod.uid, a.manifestName, a.matchedAncestorUID)) =
        newUIDs.flatMap fun e =>
          (if (s.watcher.knownPods e.1).isSome then [e.1]
            else s.watcher.knownDescendentPodUIDs e.1).map (·, e.2, e.1) := by
  have hw := WellFormed.of_reachable h
  have hidx : ∀ u v, v ∈ s.watcher.knownDescendentPodUIDs u → (s.watcher.knownPods v).isSome :=
    fun u v hv => (hw.descendant_known hv).2
  exact ⟨fun u v hv => hw.descendant_known hv, step_grows s,
    PodWatcher.setupNewUIDs_replays hidx fun u q hq => hw.knownPods_uid hq⟩

/-- Pod `p1` of replica set `rs1` arrives and is triaged before the deploy registers `rs1`;
the registration replays it through the index. -/
theorem descendant_index_stays_known_late_deploy :
    let p₁ : V1.Pod := { uid := "p1", name := "web-1" }
    let s := run {} [.receive p₁, .triage p₁ ["p1", "rs1"]]
    Reachable s ∧ s.watcher.knownDescendentPodUIDs "rs1" = ["p1"] ∧
      (s.watcher.setupNewUIDs [("rs1", "web")]).2.map
        (fun a => (a.pod.uid, a.manifestName, a.matchedAncestorUID)) = [("p1", "web", "rs1")] := by
  intro p₁ s
  have h := descendant_index_stays_known (reachable_run [.receive p₁, .triage p₁ ["p1", "rs1"]])
  refine ⟨reachable_run _, by decide, (h.2.2 _).trans (by decide)⟩

end PodWorld

end TiltWatch
