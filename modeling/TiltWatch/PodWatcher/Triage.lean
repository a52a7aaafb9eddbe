import TiltWatch.Watch.KnownState

/-! # The pod watcher

`PodWatcher` remembers the last version of every pod its watches delivered, indexes each
pod under the owners the owner fetcher reported, and maps the UIDs the engine deployed to
manifests. Each function below is one lock section of the Go code: `upsertPod`,
`triagePodTree`, the locked dispatch at the end of `dispatchPodChange`, and the body of
`OnChange` after the namespace watches are set up. The namespace watches themselves and
the cluster clients are left out.
-/

namespace TiltWatch

structure ExtraSelector where
  name : ManifestName
  labels : Selector
  deriving DecidableEq, Repr

/-- The lock-protected state of `k8swatch.PodWatcher`. -/
structure PodWatcher where
  extraSelectors : List ExtraSelector := []
  knownDeployedUIDs : UID → Option ManifestName := fun _ => none
  knownDescendentPodUIDs : UID → List UID := fun _ => []
  knownPods : UID → Option V1.Pod := fun _ => none

namespace PodWatcher

/-- `upsertPod`: remember the latest version of the pod by UID. -/
def upsertPod (w : PodWatcher) (pod : V1.Pod) : PodWatcher :=
  { w with knownPods := Function.update w.knownPods pod.uid (some pod) }

/-- The extra-selector fallback of `triagePodTree`: the first selector matching the labels. -/
def matchExtraSelectors (sels : List ExtraSelector) (ls : Labels) : ManifestName :=
  match sels.find? (fun sel => sel.labels.test ls) with
  | some sel => sel.name
  | none => ""

/-- `triagePodTree`: index the pod under every owner but itself, then return the manifest
of the first deployed owner with that owner, or an extra-selector match with no ancestor. -/
def triagePodTree (w : PodWatcher) (pod : V1.Pod) (tree : List UID) :
    PodWatcher × ManifestName × UID :=
  let w' := { w with
    knownDescendentPodUIDs :=
      recordDescendant w.knownDescendentPodUIDs pod.uid (tree.filter (· != pod.uid)) }
  match findDeployed w.knownDeployedUIDs tree with
  | some (mn, u) => (w', mn, u)
  | none => (w', matchExtraSelectors w.extraSelectors pod.labels, "")

/-- One iteration of `setupNewUIDs`: register the UID, then replay the pod it names or,
failing that, the known pods recorded under it. -/
def setupNewUID (w : PodWatcher) (uid : UID) (mn : ManifestName) :
    PodWatcher × List PodChangeAction :=
  ({ w with knownDeployedUIDs := Function.update w.knownDeployedUIDs uid (some mn) },
    match w.knownPods uid with
    | some pod => [⟨pod, mn, uid⟩]
    | none => (w.knownDescendentPodUIDs uid).filterMap fun podUID =>
        (w.knownPods podUID).map (⟨·, mn, uid⟩))

/-- `setupNewUIDs`, with the dispatched actions in order. -/
def setupNewUIDs (w : PodWatcher) : List (UID × ManifestName) → PodWatcher × List PodChangeAction
  | [] => (w, [])
  | (uid, mn) :: rest =>
    let r := w.setupNewUID uid mn
    let r' := r.1.setupNewUIDs rest
    (r'.1, r.2 ++ r'.2)

/-- The lock section of `OnChange` that follows the namespace watches. -/
def onChange (w : PodWatcher) (sels : List ExtraSelector) (newUIDs : List (UID × ManifestName)) :
    PodWatcher × List PodChangeAction :=
  { w with extraSelectors := sels }.setupNewUIDs newUIDs

/-- The locked tail of `dispatchPodChange`: dispatch the freshest known version. -/
def freshPodChange (w : PodWatcher) (pod : V1.Pod) (mn : ManifestName) (anc : UID) :
    Option PodChangeAction :=
  (w.knownPods pod.uid).map (⟨·, mn, anc⟩)

variable {w : PodWatcher} {pod : V1.Pod} {tree : List UID}

@[simp] theorem upsertPod_knownPods :
    (w.upsertPod pod).knownPods = Function.update w.knownPods pod.uid (some pod) := rfl
@[simp] theorem upsertPod_knownDeployedUIDs :
    (w.upsertPod pod).knownDeployedUIDs = w.knownDeployedUIDs := rfl
@[simp] theorem upsertPod_knownDescendentPodUIDs :
    (w.upsertPod pod).knownDescendentPodUIDs = w.knownDescendentPodUIDs := rfl

@[simp] theorem triagePodTree_knownPods : (w.triagePodTree pod tree).1.knownPods = w.knownPods := by
  unfold triagePodTree; split <;> rfl
@[simp] theorem triagePodTree_knownDeployedUIDs :
    (w.triagePodTree pod tree).1.knownDeployedUIDs = w.knownDeployedUIDs := by
  unfold triagePodTree; split <;> rfl
@[simp] theorem triagePodTree_knownDescendentPodUIDs :
    (w.triagePodTree pod tree).1.knownDescendentPodUIDs =
      recordDescendant w.knownDescendentPodUIDs pod.uid (tree.filter (· != pod.uid)) := by
  unfold triagePodTree; split <;> rfl

theorem triagePodTree_ancestor {mn : ManifestName} {u : UID}
    (h : (w.triagePodTree pod tree).2 = (mn, u)) (hu : u ≠ "") :
    findDeployed w.knownDeployedUIDs tree = some (mn, u) := by
  unfold triagePodTree at h
  split at h
  · cases h; assumption
  · cases h; exact absurd rfl hu

theorem triagePodTree_of_findDeployed {mn : ManifestName} {u : UID}
    (h : findDeployed w.knownDeployedUIDs tree = some (mn, u)) :
    (w.triagePodTree pod tree).2 = (mn, u) := by
  simp [triagePodTree, h]

theorem triagePodTree_of_findDeployed_none (h : findDeployed w.knownDeployedUIDs tree = none) :
    (w.triagePodTree pod tree).2.2 = "" := by
  simp [triagePodTree, h]

variable {uid : UID} {mn : ManifestName}

@[simp] theorem setupNewUID_knownPods : (w.setupNewUID uid mn).1.knownPods = w.knownPods := rfl
@[simp] theorem setupNewUID_knownDescendentPodUIDs :
    (w.setupNewUID uid mn).1.knownDescendentPodUIDs = w.knownDescendentPodUIDs := rfl
@[simp] theorem setupNewUID_knownDeployedUIDs :
    (w.setupNewUID uid mn).1.knownDeployedUIDs =
      Function.update w.knownDeployedUIDs uid (some mn) := rfl

theorem mem_setupNewUID {a : PodChangeAction} (h : a ∈ (w.setupNewUID uid mn).2) :
    a.manifestName = mn ∧ a.matchedAncestorUID = uid ∧ ∃ v, w.knownPods v = some a.pod := by
  unfold setupNewUID at h
  split at h
  · rename_i q hq
    simp only [List.mem_singleton] at h
    subst h; exact ⟨rfl, rfl, uid, hq⟩
  · obtain ⟨v, -, hv⟩ := List.mem_filterMap.mp h
    obtain ⟨q, hq, rfl⟩ := Option.map_eq_some'.mp hv
    exact ⟨rfl, rfl, v, hq⟩

end PodWatcher

end TiltWatch
