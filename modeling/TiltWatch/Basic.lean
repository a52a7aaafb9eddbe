import Mathlib.Logic.Function.Basic
import Mathlib.Data.List.Basic
import Mathlib.Data.String.Basic
import Mathlib.Algebra.Ring.Int.Defs

/-! # Cluster objects, tracked pods and store actions

The data the Kubernetes watchers and the pod reducers exchange. Identifiers are the
strings of the Go code, and the empty string is the code's own "none" (an unmatched
manifest name, an ancestor UID missing after a label-selector match). Times are
natural numbers, with `0` the zero `time.Time`. A Go map that the code only reads and
writes by key is a function into `Option`; a map the code iterates is a list.
-/

namespace TiltWatch

/-- `types.UID` of a cluster object. -/
abbrev UID := String

abbrev ManifestName := String

/-- `k8s.PodID`, the pod's name. -/
abbrev PodID := String

abbrev Namespace := String

abbrev ContainerID := String

abbrev ContainerName := String

/-- `time.Time`, with `0` for the zero time. -/
abbrev Time := Nat

/-- Pod labels, a `map[string]string`. -/
abbrev Labels := List (String × String)

/-- An equality-based label selector, `labels.SelectorFromSet`. -/
abbrev Selector := List (String × String)

/-- `Selector.Matches`: every required label is set to the required value. -/
def Selector.test (sel : Selector) (ls : Labels) : Bool :=
  sel.all fun kv => ls.lookup kv.1 == some kv.2

/-- `store.Container`, one entry of `k8sconv.PodContainers`. -/
structure Container where
  name : ContainerName := ""
  id : ContainerID := ""
  ports : List Nat := []
  ready : Bool := false
  running : Bool := false
  terminated : Bool := false
  restarts : Int := 0
  deriving DecidableEq, Repr

namespace V1

/-- `v1.PodPhase`; `unset` is the zero value. -/
inductive PodPhase
  | unset | pending | running | succeeded | failed | unknown
  deriving DecidableEq, Repr

/-- The fields of a `v1.Pod` that the watchers and reducers read. The two container lists
are `k8sconv.PodContainers` of the init and main container statuses. -/
structure Pod where
  uid : UID
  name : String
  ns : Namespace := ""
  labels : Labels := []
  creationTimestamp : Time := 0
  deletionTimestamp : Option Time := none
  phase : PodPhase := .unset
  initContainers : List Container := []
  containers : List Container := []
  deriving DecidableEq, Repr

/-- `pod.DeletionTimestamp != nil && !pod.DeletionTimestamp.IsZero()`. -/
def Pod.isDeleting (pod : Pod) : Bool :=
  match pod.deletionTimestamp with
  | some t => t != 0
  | none => false

/-- The fields of a `v1.Event` that the event watcher reads. -/
structure Event where
  uid : UID
  name : String
  creationTimestamp : Time := 0
  eventType : String := "Normal"
  reason : String := ""
  deriving DecidableEq, Repr

end V1

/-- `store.Pod`, the runtime record of a tracked pod. -/
structure Pod where
  podID : PodID
  ns : Namespace := ""
  startedAt : Time := 0
  deleting : Bool := false
  phase : V1.PodPhase := .unset
  initContainers : List Container := []
  containers : List Container := []
  baselineRestarts : Int := 0
  deriving DecidableEq, Repr

namespace Pod

/-- Modelled from the spec: `store.Pod.AllContainerRestarts` is not under src/; the restart
counts of the pod's containers, summed. -/
def allContainerRestarts (p : Pod) : Int :=
  (p.containers.map (·.restarts)).sum

/-- Modelled from the spec: `store.Pod.VisibleContainerRestarts`, the restarts counted
since the baseline. -/
def visibleContainerRestarts (p : Pod) : Int :=
  p.allContainerRestarts - p.baselineRestarts

/-- Modelled from the spec: `store.Pod.AllContainersReady`. -/
def allContainersReady (p : Pod) : Bool :=
  !p.containers.isEmpty && p.containers.all (·.ready)

/-- Modelled from the spec: `store.Pod.AllContainerPorts`, the ports of every container. -/
def allContainerPorts (p : Pod) : List Nat :=
  p.containers.flatMap (·.ports)

/-- Modelled from the spec: `store.Pod.isAfter`, the order of `MostRecentPod`, is not under
src/: later start time, then larger name. -/
def isAfter (p q : Pod) : Bool :=
  q.startedAt < p.startedAt || (p.startedAt == q.startedAt && decide (q.podID < p.podID))

end Pod

structure PodChangeAction where
  pod : V1.Pod
  manifestName : ManifestName
  matchedAncestorUID : UID
  deriving DecidableEq, Repr

/-- `k8swatch.PodDeleteAction`: only the pod's name and namespace. -/
structure PodDeleteAction where
  podID : PodID
  ns : Namespace
  deriving DecidableEq, Repr

structure PodResetRestartsAction where
  podID : PodID
  manifestName : ManifestName
  visibleRestarts : Int
  deriving DecidableEq, Repr

/-- The store actions the pod reducers handle. -/
inductive PodAction
  | change (a : PodChangeAction)
  | delete (a : PodDeleteAction)
  | resetRestarts (a : PodResetRestartsAction)
  deriving DecidableEq, Repr

structure K8sEventAction where
  event : V1.Event
  manifestName : ManifestName
  deriving DecidableEq, Repr

end TiltWatch
