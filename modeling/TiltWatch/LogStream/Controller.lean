import TiltWatch.Basic
import TiltWatch.Store.KeyedMap

/-! # The pod log stream controller

`PodLogStreamController` keeps `watches`, a map from a `podLogKey` (stream, pod, container ID)
to the `PodLogWatch` whose `consumeLogs` goroutine tails that container's log; the keys whose
stream has closed once; and a status per stream. `Reconcile` of a stream looks the stream and
its pod up, then starts, keeps, restarts or cancels the stream's watches. The controller runs
one `Reconcile` at a time, and `consumeLogs` goroutines end between two of them. A goroutine's
end sends the time on its watch's termination channel, which has room for one value, and then
cancels the watch's context. When `Reconcile` waits on a channel that no goroutine will send
on again, it never returns; the model returns `none`.

A ghost counter numbers the contexts `Reconcile` makes, as for port forwards. The world
records every watch made, the goroutines that ended, the contexts cancelled, and the times
sent and not yet received. `podSource.handleReconcileRequest`, which decides which pods the
informer cache holds, is left out: the lookups `Reconcile` makes are its inputs.
-/

namespace TiltWatch

namespace Runtimelog

structure NamespacedName where
  ns : Namespace
  name : String
  deriving DecidableEq, Repr

/-- The fields of a `PodLogStreamSpec` that `Reconcile` reads. -/
structure PodLogStreamSpec where
  pod : PodID
  ns : Namespace
  sinceTime : Option Time := none
  onlyContainers : List ContainerName := []
  ignoreContainers : List ContainerName := []
  deriving DecidableEq, Repr

structure PodLogKey where
  streamName : NamespacedName
  podID : PodID
  cID : ContainerID
  deriving DecidableEq, Repr

/-- `PodLogWatch`. `ctx` numbers its context, and stands for the context, its `cancel` and its
`terminationTime` channel. -/
structure PodLogWatch where
  streamName : NamespacedName
  ctx : Nat
  podID : PodID
  cName : ContainerName
  ns : Namespace
  startWatchTime : Time
  shouldPrefix : Bool
  deriving DecidableEq, Repr

structure ContainerLogStreamStatus where
  name : String
  active : Bool := false
  terminated : Bool := false
  error : String := ""
  deriving DecidableEq, Repr

/-- `filterContainers`: the containers `OnlyContainers` names, else those `IgnoreContainers`
does not name, else all. -/
def filterContainers (spec : PodLogStreamSpec) (containers : List Container) : List Container :=
  if !spec.onlyContainers.isEmpty then containers.filter (spec.onlyContainers.contains ·.name)
  else if !spec.ignoreContainers.isEmpty then
    containers.filter fun c => !spec.ignoreContainers.contains c.name
  else containers

/-- `PodLogStreamController`: `watches`, the keys set in `hasClosedStream`, `statuses` as each
stream's container statuses, and the number of contexts made so far. -/
structure PodLogStreamController where
  watches : KeyedMap PodLogKey (PodLogKey × PodLogWatch) Prod.fst := {}
  hasClosedStream : List PodLogKey := []
  statuses : KeyedMap NamespacedName (NamespacedName × List ContainerLogStreamStatus)
    Prod.fst := {}
  nextCtx : Nat := 0

namespace PodLogStreamController

variable (m : PodLogStreamController)

/-- `shouldStreamContainerLogs`: a container with an ID that runs, or that terminated and
whose key has not closed a stream yet. -/
def shouldStreamContainerLogs (c : Container) (key : PodLogKey) : Bool :=
  if c.id == "" then false
  else if c.terminated && m.hasClosedStream.contains key then false
  else if !(c.running || c.terminated) then false
  else true

/-- `ensureStatus`: the stream's container statuses are kept when they name the containers
in order, and made afresh otherwise. -/
def ensureStatus (streamName : NamespacedName) (containers : List Container) :
    PodLogStreamController :=
  let fresh := containers.map fun c => ({ name := c.name } : ContainerLogStreamStatus)
  match m.statuses.get? streamName with
  | some (_, status) =>
    if status.map (·.name) == containers.map (·.name) then m
    else { m with statuses := m.statuses.set (streamName, fresh) }
  | none => { m with statuses := m.statuses.set (streamName, fresh) }

/-- `mutateStatus`: change the statuses of the stream's containers of that name. -/
def mutateStatus (streamName : NamespacedName) (containerName : ContainerName)
    (mutate : ContainerLogStreamStatus → ContainerLogStreamStatus) : PodLogStreamController :=
  match m.statuses.get? streamName with
  | some (_, status) =>
    let status := status.map fun cs => if cs.name == containerName then mutate cs else cs
    { m with statuses := m.statuses.set (streamName, status) }
  | none => m

end PodLogStreamController

/-- The controller with ghost records: every watch made, the contexts cancelled, the watches
whose `consumeLogs` returned, and the times sent on termination channels and not received. -/
structure LogWorld where
  ctrl : PodLogStreamController := {}
  created : List PodLogWatch := []
  cancelled : List Nat := []
  ended : List Nat := []
  terminationTimes : List (Nat × Time) := []

/-- What `client.Get` finds for the stream. -/
inductive StreamLookup
  | found (spec : PodLogStreamSpec)
  | notFound
  | failed
  deriving DecidableEq, Repr

/-- An error of `PodFromInformerCache`. -/
inductive LookupError
  | notFound
  | other
  deriving DecidableEq, Repr

/-- What `PodFromInformerCache` returns: a pod or nil, and an error or nil. -/
structure PodLookup where
  pod : Option V1.Pod
  err : Option LookupError := none
  deriving DecidableEq, Repr

namespace LogWorld

variable (w : LogWorld)

/-- Cancel the watches of `dropped` and delete them: the map left is `watches`. -/
def cancelWatches (watches : KeyedMap PodLogKey (PodLogKey × PodLogWatch) Prod.fst)
    (dropped : List (PodLogKey × PodLogWatch)) : LogWorld :=
  { w with
    ctrl := { w.ctrl with watches := watches }
    cancelled := w.cancelled ++ dropped.map (·.2.ctx) }

/-- `deleteStreams`: cancel and delete the stream's watches, and delete its status. -/
def deleteStreams (streamName : NamespacedName) : LogWorld :=
  let keep := fun k : PodLogKey => k.streamName != streamName
  let w := w.cancelWatches (w.ctrl.watches.filter keep) (w.ctrl.watches.dropped keep)
  { w with ctrl := { w.ctrl with statuses := w.ctrl.statuses.filter (· != streamName) } }

/-- `r.watches[key] = watch; go r.consumeLogs(watch)`, for a watch with the next context. -/
def startWatch (key : PodLogKey) (watch : PodLogWatch) : LogWorld :=
  { w with
    ctrl := { w.ctrl with
      watches := w.ctrl.watches.set (key, watch)
      nextCtx := w.ctrl.nextCtx + 1 }
    created := w.created ++ [watch] }

/-- `<-existing.terminationTime`, then `r.hasClosedStream[key] = true`; `none` when the channel
is empty, where `Reconcile` waits forever. -/
def receiveTermination (ctx : Nat) (key : PodLogKey) : Option (Time × LogWorld) :=
  (w.terminationTimes.lookup ctx).map fun t =>
    (t, { w with
      terminationTimes := w.terminationTimes.filter (·.1 != ctx)
      ctrl := { w.ctrl with hasClosedStream := w.ctrl.hasClosedStream.insert key } })

/-- One pass of `Reconcile`'s loop over the containers, `i` the container's index and `nInit`,
`nRun` the numbers of init and run containers; the state is the world and the keys of
`containerWatches`. -/
def reconcileContainer (streamName : NamespacedName) (spec : PodLogStreamSpec) (nInit nRun : Nat)
    (acc : LogWorld × List PodLogKey) (ic : Nat × Container) :
    Option (LogWorld × List PodLogKey) :=
  let (w, containerWatches) := acc
  let (i, c) := ic
  let key : PodLogKey := ⟨streamName, spec.pod, c.id⟩
  if !w.ctrl.shouldStreamContainerLogs c key then some (w, containerWatches)
  else
    let shouldPrefix := decide (i < nInit) || decide (nRun > 1)
    let containerWatches := containerWatches ++ [key]
    let watch (startWatchTime : Time) : PodLogWatch :=
      ⟨streamName, w.ctrl.nextCtx, spec.pod, c.name, spec.ns, startWatchTime, shouldPrefix⟩
    match w.ctrl.watches.get? key with
    | none => some (w.startWatch key (watch (spec.sinceTime.getD 0)), containerWatches)
    | some (_, existing) =>
      if existing.ctx ∉ w.cancelled then some (w, containerWatches)
      else
        (w.receiveTermination existing.ctx key).map fun (t, w) =>
          if c.terminated then
            ({ w with ctrl := w.ctrl.mutateStatus streamName c.name fun cs =>
                { cs with terminated := true, active := false, error := "" } }, containerWatches)
          else (w.startWatch key (watch t), containerWatches)

/-- `Reconcile` of stream `streamName`, given what the two lookups return. -/
def reconcile (streamName : NamespacedName) (stream : StreamLookup) (podLookup : PodLookup) :
    Option LogWorld :=
  match stream with
  | .notFound => some (w.deleteStreams streamName)
  | .failed => some w
  | .found spec =>
    if podLookup.err == some .notFound || podLookup.pod.any (·.isDeleting) then
      some (w.deleteStreams streamName)
    else if podLookup.err.isSome then some w
    else
      match podLookup.pod with
      | none => some w
      | some pod =>
        let initContainers := filterContainers spec pod.initContainers
        let runContainers := filterContainers spec pod.containers
        let containers := initContainers ++ runContainers
        let w := { w with ctrl := w.ctrl.ensureStatus streamName containers }
        (containers.enum.foldlM
          (reconcileContainer streamName spec initContainers.length runContainers.length)
          (w, [])).map fun (w, containerWatches) =>
            let keep := fun k : PodLogKey =>
              containerWatches.contains k || k.streamName != streamName
            w.cancelWatches (w.ctrl.watches.filter keep) (w.ctrl.watches.dropped keep)

/-- The end of the `consumeLogs` goroutine of the watch with context `ctx`, at time `now`: it
sends the time on the watch's termination channel and cancels the context. It happens once,
to a watch that was started. -/
def consumeLogsEnd (ctx : Nat) (now : Time) : LogWorld :=
  if ctx ∈ w.created.map (·.ctx) ∧ ctx ∉ w.ended then
    { w with
      ended := w.ended ++ [ctx]
      terminationTimes := w.terminationTimes ++ [(ctx, now)]
      cancelled := w.cancelled ++ [ctx] }
  else w

end LogWorld

/-- A step of the controller: a `Reconcile` call with what its lookups return, or the end of a
`consumeLogs` goroutine. -/
inductive LogStep
  | reconcile (streamName : NamespacedName) (stream : StreamLookup) (pod : PodLookup)
  | consumeLogsEnd (ctx : Nat) (now : Time)

/-- One step; `none` when a `Reconcile` never returns. -/
def LogWorld.step (w : LogWorld) : LogStep → Option LogWorld
  | .reconcile streamName stream pod => w.reconcile streamName stream pod
  | .consumeLogsEnd ctx now => some (w.consumeLogsEnd ctx now)

def LogWorld.run (w : LogWorld) (steps : List LogStep) : Option LogWorld :=
  steps.foldlM LogWorld.step w

end Runtimelog

end TiltWatch
