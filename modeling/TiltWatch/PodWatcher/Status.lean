import TiltWatch.Basic

/-! # The status column of a pod

`PodStatusToString` is the status column of `kubectl get pods`. It starts from the pod's
reason, or its phase. The loop over the init containers skips each one that terminated with
exit code 0 and lets the first other one set an `Init:` reason; while some init container has
not finished that way, this is the status. Otherwise the loop over the main containers runs
from the last container to the first, and each one whose state gives a reason overwrites the
status, so the first such container in declared order decides it.

`PodStatusErrorMessages` collects the messages of the init containers while the pod is still
initializing, then those of the main containers from last to first. A container gives the
message of its last termination and of its waiting state while it waits, and the message of
its own termination when it failed; an empty message is never taken.

`k8sconv.ErrorWaitingReasons` is not under src/: it is a parameter.
-/

namespace TiltWatch

namespace V1

structure ContainerStateWaiting where
  reason : String := ""
  message : String := ""
  deriving DecidableEq, Repr

structure ContainerStateTerminated where
  exitCode : Int := 0
  signal : Int := 0
  reason : String := ""
  message : String := ""
  deriving DecidableEq, Repr

/-- `v1.ContainerState`, its `Waiting` and `Terminated` pointers; `Running` is not read. -/
structure ContainerState where
  waiting : Option ContainerStateWaiting := none
  terminated : Option ContainerStateTerminated := none
  deriving DecidableEq, Repr

/-- `v1.ContainerStatus`, the two states the status column reads. -/
structure ContainerStatus where
  state : ContainerState := {}
  lastTerminationState : ContainerState := {}
  deriving DecidableEq, Repr

/-- The part of a `v1.Pod` the status column reads: `len(Spec.InitContainers)` and
`Status`. -/
structure PodWithStatus where
  initContainers : Nat := 0
  phase : PodPhase := .unset
  reason : String := ""
  initContainerStatuses : List ContainerStatus := []
  containerStatuses : List ContainerStatus := []
  deriving DecidableEq, Repr

/-- `string(phase)`. -/
def PodPhase.str : PodPhase → String
  | .unset => ""
  | .pending => "Pending"
  | .running => "Running"
  | .succeeded => "Succeeded"
  | .failed => "Failed"
  | .unknown => "Unknown"

/-- `isFinished` of `isPodStillInitializing`: terminated with exit code 0. -/
def ContainerStatus.isFinished (c : ContainerStatus) : Bool :=
  c.state.terminated.any (·.exitCode == 0)

end V1

/-- `isPodStillInitializing`: some init container has not finished. -/
def isPodStillInitializing (pod : V1.PodWithStatus) : Bool :=
  pod.initContainerStatuses.any fun c => !c.isFinished

/-- The reason `PodStatusToString` starts from: the pod's reason, else its phase. -/
def podReason (pod : V1.PodWithStatus) : String :=
  if pod.reason != "" then pod.reason else pod.phase.str

/-- The `switch` of the init-container loop, for container `c` at index `i`: `none` when the
loop goes on past a container that terminated with exit code 0, else the reason it sets
before it breaks. -/
def initContainerReason (initContainers i : Nat) (c : V1.ContainerStatus) : Option String :=
  match c.state.terminated with
  | some t =>
    if t.exitCode = 0 then none
    else if t.reason.length = 0 then
      if t.signal ≠ 0 then some ("Init:Signal:" ++ toString t.signal)
      else some ("Init:ExitCode:" ++ toString t.exitCode)
    else some ("Init:" ++ t.reason)
  | none =>
    match c.state.waiting with
    | some w =>
      if w.reason.length > 0 ∧ w.reason ≠ "PodInitializing" then some ("Init:" ++ w.reason)
      else some ("Init:" ++ toString i ++ "/" ++ toString initContainers)
    | none => some ("Init:" ++ toString i ++ "/" ++ toString initContainers)

/-- The body of the main-container loop: the reason a container's state gives, if any. -/
def containerReason (c : V1.ContainerStatus) : Option String :=
  let state := c.state
  if state.waiting.any (·.reason != "") then state.waiting.map (·.reason)
  else
    match state.terminated with
    | some t =>
      if t.reason != "" then some t.reason
      else if t.signal ≠ 0 then some ("Signal:" ++ toString t.signal)
      else some ("ExitCode:" ++ toString t.exitCode)
    | none => none

/-- `PodStatusToString`. The init-container loop ends at the first container the `switch`
does not skip; the main-container loop runs from the last container to the first, each
reason overwriting the one before. -/
def podStatusToString (pod : V1.PodWithStatus) : String :=
  let reason := podReason pod
  let reason := (pod.initContainerStatuses.enum.findSome? fun ic =>
    initContainerReason pod.initContainers ic.1 ic.2).getD reason
  if isPodStillInitializing pod then reason
  else pod.containerStatuses.reverse.foldl (fun reason c => (containerReason c).getD reason) reason

def containerStatusErrorMessages (errorWaitingReasons : String → Bool)
    (c : V1.ContainerStatus) : List String :=
  let state := c.state
  match state.waiting with
  | some w =>
    let lastState := c.lastTerminationState
    (match lastState.terminated with
      | some t => if t.exitCode ≠ 0 ∧ t.message ≠ "" then [t.message] else []
      | none => []) ++
    (if w.message ≠ "" ∧ errorWaitingReasons w.reason = true then [w.message] else [])
  | none =>
    match state.terminated with
    | some t => if t.exitCode ≠ 0 ∧ t.message ≠ "" then [t.message] else []
    | none => []

/-- `PodStatusErrorMessages`: the init containers' messages while the pod is still
initializing, then the main containers' from the last to the first. -/
def podStatusErrorMessages (errorWaitingReasons : String → Bool) (pod : V1.PodWithStatus) :
    List String :=
  (if isPodStillInitializing pod then
    pod.initContainerStatuses.flatMap (containerStatusErrorMessages errorWaitingReasons)
  else []) ++
  pod.containerStatuses.reverse.flatMap (containerStatusErrorMessages errorWaitingReasons)

section Column

variable {n i : Nat} {c : V1.ContainerStatus} {r : String}

theorem initContainerReason_eq_none_iff :
    initContainerReason n i c = none ↔ c.isFinished = true := by
  obtain ⟨⟨w, t⟩, _⟩ := c
  cases t with
  | none =>
    cases w <;> simp only [initContainerReason] <;> (try split_ifs) <;>
      simp [V1.ContainerStatus.isFinished]
  | some t =>
    simp only [initContainerReason, V1.ContainerStatus.isFinished, Option.any_some, beq_iff_eq]
    split_ifs <;> simp_all

theorem initContainerReason_init (h : initContainerReason n i c = some r) :
    ∃ s, r = "Init:" ++ s := by
  have hidx : ∃ s, "Init:" ++ toString i ++ "/" ++ toString n = "Init:" ++ s :=
    ⟨toString i ++ "/" ++ toString n, by simp only [String.append_assoc]⟩
  obtain ⟨⟨w, t⟩, _⟩ := c
  cases t with
  | none =>
    cases w <;> simp only [initContainerReason] at h <;> (try split_ifs at h) <;> cases h <;>
      first | exact hidx | exact ⟨_, rfl⟩
  | some t =>
    simp only [initContainerReason] at h
    split_ifs at h <;> cases h
    · exact ⟨_, by rw [← String.append_assoc]; rfl⟩
    · exact ⟨_, by rw [← String.append_assoc]; rfl⟩
    · exact ⟨_, rfl⟩

theorem findSome?_initContainerReason_of_finished {l : List V1.ContainerStatus} {m : Nat}
    (h : ∀ d ∈ l, d.isFinished = true) :
    (l.enumFrom m).findSome? (fun ic => initContainerReason n ic.1 ic.2) = none :=
  List.findSome?_eq_none_iff.mpr fun _ hic =>
    initContainerReason_eq_none_iff.mpr (h _ (List.snd_mem_of_mem_enumFrom hic))

theorem reverse_foldl_getD {α β : Type} (f : α → Option β) (b : β) (l : List α) :
    l.reverse.foldl (fun r a => (f a).getD r) b = (l.findSome? f).getD b := by
  rw [List.foldl_reverse]
  induction l with
  | nil => rfl
  | cons a l ih => simp only [List.foldr_cons, List.findSome?_cons, ih]; cases f a <;> rfl

theorem podStatusToString_of_pending {done rest : List V1.ContainerStatus} {c : V1.ContainerStatus}
    {pod : V1.PodWithStatus} (hsplit : pod.initContainerStatuses = done ++ c :: rest)
    (hdone : ∀ d ∈ done, d.isFinished = true) (hc : c.isFinished = false) :
    some (podStatusToString pod) = initContainerReason pod.initContainers done.length c ∧
      isPodStillInitializing pod = true := by
  have hne : initContainerReason pod.initContainers done.length c ≠ none := fun h => by
    simp [initContainerReason_eq_none_iff.mp h] at hc
  obtain ⟨r, hr⟩ := Option.ne_none_iff_exists'.mp hne
  have hinit : isPodStillInitializing pod = true :=
    List.any_eq_true.mpr ⟨c, by simp [hsplit], by simp [hc]⟩
  have hloop : (pod.initContainerStatuses.enum.findSome? fun ic =>
      initContainerReason pod.initContainers ic.1 ic.2) = some r := by
    rw [hsplit, List.enum_append, List.findSome?_append, List.enum,
      findSome?_initContainerReason_of_finished hdone, List.enumFrom_cons, List.findSome?_cons,
      hr]
    rfl
  refine ⟨?_, hinit⟩
  simp only [podStatusToString, hinit, if_true, hloop, Option.getD_some]
  exact hr.symm

/-- The status column. Behind init containers that all finished, the first one that has not
sets it, and it starts with `Init:`. When every init container has finished, it is the reason
of the first main container in declared order whose state gives one, else the pod's reason or
phase. -/
theorem status_column_reports_first_pending_container (pod : V1.PodWithStatus) :
    (∀ done c rest, pod.initContainerStatuses = done ++ c :: rest →
      (∀ d ∈ done, d.isFinished = true) → c.isFinished = false →
      some (podStatusToString pod) = initContainerReason pod.initContainers done.length c ∧
        ∃ s, podStatusToString pod = "Init:" ++ s) ∧
    (isPodStillInitializing pod = false →
      podStatusToString pod =
        (pod.containerStatuses.findSome? containerReason).getD (podReason pod)) := by
  constructor
  · intro done c rest hsplit hdone hc
    have hcol := (podStatusToString_of_pending hsplit hdone hc).1
    exact ⟨hcol, initContainerReason_init hcol.symm⟩
  · intro hinit
    have hloop : (pod.initContainerStatuses.enum.findSome? fun ic =>
        initContainerReason pod.initContainers ic.1 ic.2) = none :=
      findSome?_initContainerReason_of_finished (by simpa [isPodStillInitializing] using hinit)
    simp only [podStatusToString, hinit, hloop, Option.getD_none, Bool.false_eq_true, if_false,
      reverse_foldl_getD]

/-- An init container that finished, then one in `CrashLoopBackOff`: the status names the
second. -/
theorem status_column_reports_first_pending_container_crash :
    let done : V1.ContainerStatus := { state := { terminated := some { exitCode := 0 } } }
    let crash : V1.ContainerStatus :=
      { state := { waiting := some { reason := "CrashLoopBackOff" } } }
    let pod : V1.PodWithStatus :=
      { initContainers := 2, phase := .pending, initContainerStatuses := [done, crash] }
    some (podStatusToString pod) = some "Init:CrashLoopBackOff" :=
  ((status_column_reports_first_pending_container _).1 [_] _ [] rfl (by decide)
    (by decide)).1.trans (by decide)

end Column

section Messages

variable {errorWaitingReasons : String → Bool} {c : V1.ContainerStatus} {m : String}

/-- A failed init container behind finished ones is named twice: the status column gives its
reason, or its signal or exit code, and the error messages give its termination message. Both
read it only while the pod is still initializing, and that holds here. -/
theorem failed_init_container_in_column_and_messages (errorWaitingReasons : String → Bool)
    (pod : V1.PodWithStatus) {done rest : List V1.ContainerStatus} {c : V1.ContainerStatus}
    {t : V1.ContainerStateTerminated} (hsplit : pod.initContainerStatuses = done ++ c :: rest)
    (hdone : ∀ d ∈ done, d.isFinished = true) (hwait : c.state.waiting = none)
    (hterm : c.state.terminated = some t) (hcode : t.exitCode ≠ 0) (hmsg : t.message ≠ "") :
    podStatusToString pod =
        (if t.reason.length = 0 then
          if t.signal ≠ 0 then "Init:Signal:" ++ toString t.signal
          else "Init:ExitCode:" ++ toString t.exitCode
        else "Init:" ++ t.reason) ∧
      t.message ∈ podStatusErrorMessages errorWaitingReasons pod := by
  have hc : c.isFinished = false := by simp [V1.ContainerStatus.isFinished, hterm, hcode]
  obtain ⟨hcol, hinit⟩ := podStatusToString_of_pending hsplit hdone hc
  have hown : containerStatusErrorMessages errorWaitingReasons c = [t.message] := by
    simp [containerStatusErrorMessages, hwait, hterm, hcode, hmsg]
  constructor
  · simp only [initContainerReason, hterm, hcode, if_false] at hcol
    split_ifs at hcol ⊢ <;> exact Option.some.inj hcol
  · simp only [podStatusErrorMessages, hinit, if_true, hsplit, List.mem_append,
      List.mem_flatMap]
    exact .inl ⟨c, .inr (List.mem_cons_self _ _), by simp [hown]⟩

/-- An init container that exited with code 1 and reason `Error` behind a finished one: the
column shows `Init:Error` and the messages hold its message. -/
theorem failed_init_container_in_column_and_messages_error :
    let done : V1.ContainerStatus := { state := { terminated := some { exitCode := 0 } } }
    let t : V1.ContainerStateTerminated :=
      { exitCode := 1, reason := "Error", message := "config.yaml: no such file" }
    let failed : V1.ContainerStatus := { state := { terminated := some t } }
    let pod : V1.PodWithStatus :=
      { initContainers := 2, phase := .pending, initContainerStatuses := [done, failed] }
    podStatusToString pod = "Init:Error" ∧
      t.message ∈ podStatusErrorMessages (fun _ => false) pod := by
  intro done t failed pod
  have h := @failed_init_container_in_column_and_messages (fun _ => false) pod [done] [] failed
    t rfl (by decide) rfl rfl (by decide) (by decide)
  exact ⟨h.1.trans (by decide), h.2⟩

end Messages

end TiltWatch
