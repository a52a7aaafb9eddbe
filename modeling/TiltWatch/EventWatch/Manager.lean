import TiltWatch.Watch.KnownState

/-! # The event watch manager

`EventWatchManager` mirrors the pod watcher for Kubernetes events, with three differences
in the code: an event is remembered when it is triaged rather than when it is received, it
is indexed under every UID of its involved object's owner tree (its own UID is not
skipped), and the triage goroutine dispatches the event it holds, outside the lock. There
is no label-selector fallback.
-/

namespace TiltWatch

/-- The lock-protected state of `k8swatch.EventWatchManager`. -/
structure EventWatchManager where
  knownDeployedUIDs : UID → Option ManifestName := fun _ => none
  knownDescendentEventUIDs : UID → List UID := fun _ => []
  knownEvents : UID → Option V1.Event := fun _ => none

def imagePullingReason : String := "Pulling"

def imagePulledReason : String := "Pulled"

/-- `ShouldLogEvent`: every non-normal event, and the normal image-pull events. -/
def shouldLogEvent (e : V1.Event) : Bool :=
  e.eventType != "Normal" || e.reason == imagePullingReason || e.reason == imagePulledReason

/-- The filter of `dispatchEventsLoop`: events created before Tilt started, and events not
worth logging, spawn no goroutine. -/
def admitsEvent (tiltStartTime : Time) (e : V1.Event) : Bool :=
  !decide (e.creationTimestamp < tiltStartTime) && shouldLogEvent e

namespace EventWatchManager

/-- `triageEventUpdate`: remember the event, index it under every owner of its involved
object, and return the manifest of the first deployed owner, or `""`. -/
def triageEventUpdate (m : EventWatchManager) (event : V1.Event) (tree : List UID) :
    EventWatchManager × ManifestName :=
  ({ m with
      knownEvents := Function.update m.knownEvents event.uid (some event)
      knownDescendentEventUIDs := recordDescendant m.knownDescendentEventUIDs event.uid tree },
    match findDeployed m.knownDeployedUIDs tree with
    | some (mn, _) => mn
    | none => "")

/-- One iteration of `setupNewUIDs`: register the UID and replay the known events under it. -/
def setupNewUID (m : EventWatchManager) (uid : UID) (mn : ManifestName) :
    EventWatchManager × List K8sEventAction :=
  ({ m with knownDeployedUIDs := Function.update m.knownDeployedUIDs uid (some mn) },
    (m.knownDescendentEventUIDs uid).filterMap fun e => (m.knownEvents e).map (⟨·, mn⟩))

/-- `setupNewUIDs`, with the dispatched actions in order. -/
def setupNewUIDs (m : EventWatchManager) :
    List (UID × ManifestName) → EventWatchManager × List K8sEventAction
  | [] => (m, [])
  | (uid, mn) :: rest =>
    let r := m.setupNewUID uid mn
    let r' := r.1.setupNewUIDs rest
    (r'.1, r.2 ++ r'.2)

variable {m : EventWatchManager} {event : V1.Event} {tree : List UID}

@[simp] theorem triageEventUpdate_knownEvents : (m.triageEventUpdate event tree).1.knownEvents =
    Function.update m.knownEvents event.uid (some event) := rfl
@[simp] theorem triageEventUpdate_knownDeployedUIDs :
    (m.triageEventUpdate event tree).1.knownDeployedUIDs = m.knownDeployedUIDs := rfl
@[simp] theorem triageEventUpdate_knownDescendentEventUIDs :
    (m.triageEventUpdate event tree).1.knownDescendentEventUIDs =
      recordDescendant m.knownDescendentEventUIDs event.uid tree := rfl

theorem triageEventUpdate_of_findDeployed {mn : ManifestName} {u : UID}
    (h : findDeployed m.knownDeployedUIDs tree = some (mn, u)) :
    (m.triageEventUpdate event tree).2 = mn := by
  simp [triageEventUpdate, h]

theorem triageEventUpdate_of_findDeployed_none (h : findDeployed m.knownDeployedUIDs tree = none) :
    (m.triageEventUpdate event tree).2 = "" := by
  simp [triageEventUpdate, h]

variable {uid : UID} {mn : ManifestName}

@[simp] theorem setupNewUID_knownEvents : (m.setupNewUID uid mn).1.knownEvents = m.knownEvents :=
  rfl
@[simp] theorem setupNewUID_knownDescendentEventUIDs :
    (m.setupNewUID uid mn).1.knownDescendentEventUIDs = m.knownDescendentEventUIDs := rfl
@[simp] theorem setupNewUID_knownDeployedUIDs :
    (m.setupNewUID uid mn).1.knownDeployedUIDs =
      Function.update m.knownDeployedUIDs uid (some mn) := rfl

end EventWatchManager

end TiltWatch
