import TiltWatch.Basic

/-! # The engine state the pod reducers change

`store.EngineState` with the manifest targets the reducers and the port-forward controller
read. `state.Targets()` lists the targets in definition order, and
`state.ManifestTargets[name]` is the target of that manifest, so the targets are a list
keyed by manifest name. A runtime state's `Pods` map is iterated by `prunePods`, so it is
a list keyed by `PodID`, in iteration order; every theorem holds for every order.

The `store` package is not under src/. Its helpers that the reducers call
(`MostRecentPod`, `HasOKPodTemplateSpecHash`, `AllRunningContainers`) are modelled from
the spec and say so.
-/

namespace TiltWatch

structure PortForward where
  localPort : Nat
  containerPort : Nat := 0
  host : String := ""
  deriving DecidableEq, Repr

/-- The fields of `model.Manifest` that the reducers and the port-forward controller read;
`portForwards` is `m.K8sTarget().PortForwards`. -/
structure Manifest where
  name : ManifestName
  portForwards : List PortForward := []
  deriving DecidableEq, Repr

structure K8sRuntimeState where
  pods : List Pod := []
  podAncestorUID : UID := ""
  deployedUIDSet : List UID := []
  deployedPodTemplateSpecHashSet : List String := []
  lastReadyOrSucceededTime : Time := 0
  deriving DecidableEq, Repr

/-- `store.ManifestState`, with a Kubernetes runtime state. -/
structure ManifestState where
  name : ManifestName
  runtimeState : K8sRuntimeState := {}
  liveUpdatedContainerIDs : List ContainerID := []
  needsRebuildFromCrash : Bool := false
  deriving DecidableEq, Repr

structure ManifestTarget where
  manifest : Manifest
  state : ManifestState
  deriving DecidableEq, Repr

/-- A `store.LogAction` as the log store keeps it: the manifest and the message. -/
structure LogLine where
  manifestName : ManifestName
  msg : String
  deriving DecidableEq, Repr

/-- `store.EngineState`: the targets in definition order, and the log store. -/
structure EngineState where
  manifestTargets : List ManifestTarget := []
  logs : List LogLine := []
  deriving DecidableEq, Repr

/-- `v1.PodSucceeded` or `v1.PodFailed`. -/
def Pod.isDead (p : Pod) : Bool :=
  p.phase == .succeeded || p.phase == .failed

structure ContainerInfo where
  podID : PodID
  containerID : ContainerID
  containerName : ContainerName
  ns : Namespace
  deriving DecidableEq, Repr

def tiltPodTemplateHashLabel : String := "app.tilt.dev/pod-template-hash"

namespace K8sRuntimeState

variable (s : K8sRuntimeState)

def pod? (podID : PodID) : Option Pod :=
  s.pods.find? (·.podID == podID)

/-- Modelled from the spec: `K8sRuntimeState.MostRecentPod` is not under src/. It keeps the
first pod of the iteration, then every pod that `isAfter` the one kept; the zero `Pod` when
there are none. -/
def mostRecentPod : Pod :=
  (s.pods.foldl (fun acc v => if !acc.1 || v.isAfter acc.2 then (true, v) else acc)
    (false, { podID := "" })).2

/-- Modelled from the spec: `K8sRuntimeState.HasOKPodTemplateSpecHash` is not under src/.
A pod without the template-hash label passes; a labelled pod passes when its hash was
deployed. -/
def hasOKPodTemplateSpecHash (pod : V1.Pod) : Bool :=
  match pod.labels.lookup tiltPodTemplateHashLabel with
  | none => true
  | some hash => s.deployedPodTemplateSpecHashSet.contains hash

end K8sRuntimeState

/-- Write a tracked pod's record back under its `PodID`: the record a `*store.Pod` points to,
if the map still holds it. -/
def setPod (pods : List Pod) (p : Pod) : List Pod :=
  pods.map fun q => if q.podID == p.podID then p else q

/-- `delete(runtime.Pods, podID)`. -/
def deletePod (pods : List Pod) (podID : PodID) : List Pod :=
  pods.filter (·.podID != podID)

/-- Modelled from the spec: `store.AllRunningContainers` is not under src/. The running
containers of the target's tracked pods. -/
def allRunningContainers (mt : ManifestTarget) : List ContainerInfo :=
  mt.state.runtimeState.pods.flatMap fun p =>
    (p.containers.filter (·.running)).map fun c => ⟨p.podID, c.id, c.name, p.ns⟩

namespace EngineState

variable (st : EngineState)

def manifestTarget? (mn : ManifestName) : Option ManifestTarget :=
  st.manifestTargets.find? (·.manifest.name == mn)

def updateManifestState (mn : ManifestName) (f : ManifestState → ManifestState) : EngineState :=
  { st with
    manifestTargets := st.manifestTargets.map fun mt =>
      if mt.manifest.name == mn then { mt with state := f mt.state } else mt }

def trackedPods : List Pod :=
  st.manifestTargets.flatMap (·.state.runtimeState.pods)

end EngineState

section Lemmas

variable {pods : List Pod} {p q : Pod} {podID : PodID}

theorem mem_setPod : q ∈ setPod pods p ↔ (∃ r ∈ pods, r.podID = p.podID ∧ q = p) ∨
    (q ∈ pods ∧ q.podID ≠ p.podID) := by
  simp only [setPod, List.mem_map]
  constructor
  · rintro ⟨r, hr, rfl⟩
    by_cases h : r.podID = p.podID
    · exact .inl ⟨r, hr, h, by simp [h]⟩
    · exact .inr ⟨by simpa [h] using hr, by simp [h]⟩
  · rintro (⟨r, hr, h, rfl⟩ | ⟨hq, h⟩)
    · exact ⟨r, hr, by simp [h]⟩
    · exact ⟨q, hq, by simp [h]⟩

theorem map_podID_setPod : (setPod pods p).map (·.podID) = pods.map (·.podID) := by
  simp only [setPod, List.map_map]
  congr 1
  funext q
  by_cases h : q.podID = p.podID <;> simp [h]

@[simp] theorem mem_deletePod : q ∈ deletePod pods podID ↔ q ∈ pods ∧ q.podID ≠ podID := by
  simp [deletePod]

theorem deletePod_sublist : (deletePod pods podID).Sublist pods :=
  List.filter_sublist _

theorem K8sRuntimeState.pod?_eq_some {r : K8sRuntimeState} (h : r.pod? podID = some p) :
    p ∈ r.pods ∧ p.podID = podID :=
  ⟨List.mem_of_find?_eq_some h, by simpa using List.find?_some h⟩

theorem K8sRuntimeState.pod?_eq_none {r : K8sRuntimeState} :
    r.pod? podID = none ↔ ∀ p ∈ r.pods, p.podID ≠ podID := by
  simp [K8sRuntimeState.pod?, List.find?_eq_none]

variable {st : EngineState} {mn : ManifestName} {f : ManifestState → ManifestState}
  {mt : ManifestTarget}

@[simp] theorem updateManifestState_logs : (st.updateManifestState mn f).logs = st.logs := rfl

theorem mem_updateManifestState : mt ∈ (st.updateManifestState mn f).manifestTargets ↔
    ∃ t ∈ st.manifestTargets, (t.manifest.name = mn ∧ mt = { t with state := f t.state }) ∨
      (t.manifest.name ≠ mn ∧ mt = t) := by
  simp only [EngineState.updateManifestState, List.mem_map]
  constructor
  · rintro ⟨t, ht, rfl⟩
    by_cases h : t.manifest.name = mn
    · exact ⟨t, ht, .inl ⟨h, by simp [h]⟩⟩
    · exact ⟨t, ht, .inr ⟨h, by simp [h]⟩⟩
  · rintro ⟨t, ht, ⟨h, rfl⟩ | ⟨h, he⟩⟩
    · exact ⟨t, ht, by simp [h]⟩
    · subst he; exact ⟨mt, ht, by simp [h]⟩

theorem forall_updateManifestState {P : ManifestTarget → Prop}
    (hold : ∀ t ∈ st.manifestTargets, t.manifest.name ≠ mn → P t)
    (hnew : ∀ t ∈ st.manifestTargets, t.manifest.name = mn → P { t with state := f t.state }) :
    ∀ t ∈ (st.updateManifestState mn f).manifestTargets, P t := by
  intro t ht
  obtain ⟨t₀, ht₀, ⟨h, he⟩ | ⟨h, he⟩⟩ := mem_updateManifestState.mp ht <;> subst he
  · exact hnew t₀ ht₀ h
  · exact hold t ht₀ h

theorem manifestTarget?_mem (h : st.manifestTarget? mn = some mt) :
    mt ∈ st.manifestTargets ∧ mt.manifest.name = mn := by
  have := List.find?_some h
  exact ⟨List.mem_of_find?_eq_some h, by simpa using this⟩

end Lemmas

end TiltWatch
