import TiltWatch.Store.Engine

/-! # The pod reducers

`handlePodChangeAction`, `handlePodDeleteAction` and `handlePodResetRestartsAction`, with
the helpers they call. The `*store.Pod` that `maybeTrackPod` returns aliases the record in
the runtime's map: the writes made before `prunePods` land in the map, and those made after
it land there only if pruning kept the pod. The model keeps the pointer's record as a local
value and writes it back under its `PodID` with `setPod`, which changes nothing once the pod
is gone.

`time.Now()` is the argument `now`. The status text, status messages, conditions and span
ID that `handlePodChangeAction` copies for display are left out: no modelled code reads
them. So is the warning that `PortForwardsAreValid` makes the handler log to the context
logger, which leaves the state alone.
-/

namespace TiltWatch

/-- `matchPodChangeToManifest`: the action's target, unless it names an ancestor that is not
deployed any more. -/
def matchPodChangeToManifest (state : EngineState) (action : PodChangeAction) :
    Option ManifestTarget :=
  match state.manifestTarget? action.manifestName with
  | none => none
  | some mt =>
    let isAncestorMatched := action.matchedAncestorUID != ""
    if isAncestorMatched &&
        !mt.state.runtimeState.deployedUIDSet.contains action.matchedAncestorUID then
      none
    else some mt

/-- Case 1 of `maybeTrackPod`: a runtime without an ancestor, or an action matched through
another ancestor, drops every tracked pod and takes the action's ancestor. -/
def K8sRuntimeState.forAncestor (runtime : K8sRuntimeState) (matchedAncestorUID : UID) :
    K8sRuntimeState :=
  let isAncestorMatch := matchedAncestorUID != ""
  if runtime.podAncestorUID == "" ||
      (isAncestorMatch && runtime.podAncestorUID != matchedAncestorUID) then
    { runtime with pods := [], podAncestorUID := matchedAncestorUID }
  else runtime

/-- `maybeTrackPod`: the manifest state after tracking, and the tracked record with
`isNew`, or `none` for a pod that is not tracked. A pod that is not from the current deploy
is never added. -/
def maybeTrackPod (ms : ManifestState) (action : PodChangeAction) :
    ManifestState × Option (Pod × Bool) :=
  let podID := action.pod.name
  if !ms.runtimeState.hasOKPodTemplateSpecHash action.pod then
    (ms, (ms.runtimeState.pod? podID).map (·, false))
  else
    let runtime := ms.runtimeState.forAncestor action.matchedAncestorUID
    match runtime.pod? podID with
    | none =>
      ({ ms with runtimeState := { runtime with pods := runtime.pods ++ [{ podID := podID }] } },
        some ({ podID := podID }, true))
    | some podInfo => ({ ms with runtimeState := runtime }, some (podInfo, false))

/-- `prunePods`: drop the deleting pods; then, if more than one pod is left, drop the first
terminated pod of the iteration that is not the most recent one, and return. -/
def prunePods (ms : ManifestState) : ManifestState :=
  let runtime := ms.runtimeState
  let pods := runtime.pods.filter (!·.deleting)
  let pods :=
    if pods.length > 1 then
      let bestPod := ({ runtime with pods := pods } : K8sRuntimeState).mostRecentPod
      match pods.find? (fun pod => pod.isDead && pod.podID != bestPod.podID) with
      | some pod => deletePod pods pod.podID
      | none => pods
    else pods
  { ms with runtimeState := { runtime with pods := pods } }

/-- `restartedContainerNames`: the containers, position by position, that kept their name
and restarted more often. -/
def restartedContainerNames (existingContainers newContainers : List Container) :
    List ContainerName :=
  (newContainers.zip existingContainers).filterMap fun (c, existing) =>
    if existing.name != c.name then none
    else if c.restarts > existing.restarts then some c.name
    else none

/-- The message of a restart that `handlePodChangeAction` logs. -/
def containerRestartMsg (podID : PodID) (name : ContainerName) : String :=
  "Detected container restart. Pod: " ++ podID ++ ". Container: " ++ name ++ "."

/-- The message `checkForContainerCrash` logs. -/
def containerChangeMsg (mn : ManifestName) : String :=
  "Detected a container change for " ++ mn ++
    ". We could be running stale code. Rebuilding and deploying a new image.\n"

def ManifestState.setPod (ms : ManifestState) (p : Pod) : ManifestState :=
  { ms with
    runtimeState := { ms.runtimeState with pods := TiltWatch.setPod ms.runtimeState.pods p } }

/-- The fields `handlePodChangeAction` copies from the pod before pruning. -/
def Pod.withStatus (podInfo : Pod) (pod : V1.Pod) : Pod :=
  { podInfo with
    startedAt := pod.creationTimestamp
    ns := pod.ns
    deleting := pod.isDeleting
    phase := pod.phase }

/-- The fields `handlePodChangeAction` writes after pruning; a new pod's restarts so far
become its baseline. -/
def Pod.withContainers (podInfo : Pod) (pod : V1.Pod) (isNew : Bool) : Pod :=
  let p := { podInfo with initContainers := pod.initContainers, containers := pod.containers }
  if isNew then { p with baselineRestarts := p.allContainerRestarts } else p

/-- The tracked pod's update: its status written before `prunePods`, its containers after. -/
def updateTrackedPod (ms : ManifestState) (podInfo : Pod) (pod : V1.Pod) (isNew : Bool) :
    ManifestState :=
  (prunePods (ms.setPod podInfo)).setPod (podInfo.withContainers pod isNew)

def EngineState.setManifestState (st : EngineState) (mn : ManifestName) (ms : ManifestState) :
    EngineState :=
  st.updateManifestState mn fun _ => ms

/-- What `checkForContainerCrash` establishes for a target: it is flagged for a crash
rebuild, or every live-updated container is still running. -/
def CrashInv (mt : ManifestTarget) : Prop :=
  mt.state.needsRebuildFromCrash = true ∨
    ∀ cID ∈ mt.state.liveUpdatedContainerIDs, cID ∈ (allRunningContainers mt).map (·.containerID)

instance : DecidablePred CrashInv := fun _ => inferInstanceAs (Decidable (_ ∨ _))

/-- `checkForContainerCrash`: flag the target for a crash rebuild, and forget its live
updates, when a live-updated container is no longer running. -/
def checkForContainerCrash (state : EngineState) (mt : ManifestTarget) : EngineState :=
  let ms := mt.state
  if ms.needsRebuildFromCrash then state
  else
    let runningContainers := allRunningContainers mt
    let hitList := ms.liveUpdatedContainerIDs.filter fun cID =>
      !runningContainers.any (·.containerID == cID)
    if hitList.isEmpty then state
    else
      { state.updateManifestState mt.manifest.name
          (fun ms => { ms with needsRebuildFromCrash := true, liveUpdatedContainerIDs := [] }) with
        logs := state.logs ++ [⟨ms.name, containerChangeMsg ms.name⟩] }

/-- The restarts `handlePodChangeAction` logs for a pod it tracked before: init containers
first, then the others. -/
def restartLogs (mn : ManifestName) (podInfo : Pod) (pod : V1.Pod) (isNew : Bool) :
    List LogLine :=
  if isNew then []
  else
    (restartedContainerNames podInfo.initContainers pod.initContainers ++
      restartedContainerNames podInfo.containers pod.containers).map fun name =>
        ⟨mn, containerRestartMsg podInfo.podID name⟩

/-- The ready time `handlePodChangeAction` records when every container is ready or the pod
succeeded. -/
def recordReadyTime (now : Time) (ms : ManifestState) (podInfo : Pod) : ManifestState :=
  if podInfo.allContainersReady || podInfo.phase == .succeeded then
    { ms with runtimeState := { ms.runtimeState with lastReadyOrSucceededTime := now } }
  else ms

def handlePodChangeAction (now : Time) (state : EngineState) (action : PodChangeAction) :
    EngineState :=
  match matchPodChangeToManifest state action with
  | none => state
  | some mt =>
    let pod := action.pod
    match maybeTrackPod mt.state action with
    | (_, none) => state
    | (ms, some (podInfo, isNew)) =>
      let podInfo := podInfo.withStatus pod
      let ms := updateTrackedPod ms podInfo pod isNew
      let state := { state.setManifestState mt.manifest.name ms with
        logs := state.logs ++ restartLogs mt.manifest.name podInfo pod isNew }
      let podInfo := podInfo.withContainers pod isNew
      if podInfo.containers.isEmpty then state
      else
        let ms := recordReadyTime now ms podInfo
        checkForContainerCrash (state.setManifestState mt.manifest.name ms) { mt with state := ms }

/-- `handlePodDeleteAction`: the action carries only the pod's name, so every target drops
its pod of that name. -/
def handlePodDeleteAction (state : EngineState) (action : PodDeleteAction) : EngineState :=
  { state with
    manifestTargets := state.manifestTargets.map fun mt =>
      { mt with state := { mt.state with runtimeState := { mt.state.runtimeState with
        pods := deletePod mt.state.runtimeState.pods action.podID } } } }

/-- `handlePodResetRestartsAction`: move the baseline so that the visible restarts drop by
the count the action saw, whatever restarts came since. -/
def handlePodResetRestartsAction (state : EngineState) (action : PodResetRestartsAction) :
    EngineState :=
  match state.manifestTarget? action.manifestName with
  | none => state
  | some mt =>
    match mt.state.runtimeState.pod? action.podID with
    | none => state
    | some podInfo =>
      let delta := podInfo.visibleContainerRestarts - action.visibleRestarts
      state.updateManifestState action.manifestName fun ms =>
        ms.setPod { podInfo with baselineRestarts := podInfo.allContainerRestarts - delta }

/-- The store's reducer for the pod actions. -/
def handlePodAction (now : Time) (state : EngineState) : PodAction → EngineState
  | .change a => handlePodChangeAction now state a
  | .delete a => handlePodDeleteAction state a
  | .resetRestarts a => handlePodResetRestartsAction state a

section EngineLemmas

variable {st : EngineState} {mn : ManifestName} {ms ms' : ManifestState}
  {g : ManifestState → ManifestState}

theorem updateManifestState_setManifestState :
    (st.setManifestState mn ms).updateManifestState mn g = st.setManifestState mn (g ms) := by
  simp only [EngineState.setManifestState, EngineState.updateManifestState, List.map_map]
  congr 2
  funext t
  by_cases h : t.manifest.name = mn <;> simp [h]

theorem setManifestState_setManifestState :
    (st.setManifestState mn ms).setManifestState mn ms' = st.setManifestState mn ms' :=
  updateManifestState_setManifestState

@[simp] theorem setManifestState_logs : (st.setManifestState mn ms).logs = st.logs := rfl

theorem setManifestState_with_logs {logs : List LogLine} :
    ({ st with logs := logs } : EngineState).setManifestState mn ms =
      { st.setManifestState mn ms with logs := logs } := rfl

end EngineLemmas

section CrashCheck

theorem checkForContainerCrash_setManifestState (st : EngineState) (mt : ManifestTarget) :
    ∃ ms' crash, checkForContainerCrash (st.setManifestState mt.manifest.name mt.state) mt =
      { st.setManifestState mt.manifest.name ms' with logs := st.logs ++ crash } ∧
      crash.Sublist [⟨mt.state.name, containerChangeMsg mt.state.name⟩] ∧
      ms'.name = mt.state.name ∧ ms'.runtimeState = mt.state.runtimeState ∧
      CrashInv { mt with state := ms' } := by
  unfold checkForContainerCrash
  by_cases hn : mt.state.needsRebuildFromCrash = true
  · refine ⟨mt.state, [], ?_, List.nil_sublist _, rfl, rfl, .inl hn⟩
    simp only [hn, if_true, List.append_nil]; rfl
  by_cases hh : (mt.state.liveUpdatedContainerIDs.filter fun cID =>
      !(allRunningContainers mt).any (·.containerID == cID)).isEmpty
  · refine ⟨mt.state, [], ?_, List.nil_sublist _, rfl, rfl, .inr fun cID hc => ?_⟩
    · simp only [hn, hh, if_true, Bool.false_eq_true, if_false, List.append_nil]; rfl
    have := List.isEmpty_iff.mp hh
    rw [List.filter_eq_nil_iff] at this
    simpa using this cID hc
  · refine ⟨{ mt.state with needsRebuildFromCrash := true, liveUpdatedContainerIDs := [] },
      [⟨mt.state.name, containerChangeMsg mt.state.name⟩], ?_, .refl _, rfl, rfl, .inl rfl⟩
    simp only [hn, hh, Bool.false_eq_true, if_false, updateManifestState_setManifestState,
      setManifestState_logs]

end CrashCheck

section Tracking

variable {ms : ManifestState} {a : PodChangeAction} {p q : Pod} {pod : V1.Pod} {isNew : Bool}

@[simp] theorem Pod.withStatus_podID : (p.withStatus pod).podID = p.podID := rfl
@[simp] theorem Pod.withStatus_deleting : (p.withStatus pod).deleting = pod.isDeleting := rfl
@[simp] theorem Pod.withContainers_podID : (p.withContainers pod isNew).podID = p.podID := by
  unfold Pod.withContainers; split <;> rfl
@[simp] theorem Pod.withContainers_containers :
    (p.withContainers pod isNew).containers = pod.containers := by
  unfold Pod.withContainers; split <;> rfl

@[simp] theorem maybeTrackPod_name : (maybeTrackPod ms a).1.name = ms.name := by
  unfold maybeTrackPod; split
  · rfl
  · dsimp only; split <;> rfl

theorem forAncestor_cases (r : K8sRuntimeState) (anc : UID) :
    r.forAncestor anc = { r with pods := [], podAncestorUID := anc } ∨
      (r.forAncestor anc = r ∧ r.podAncestorUID ≠ "" ∧ (anc = "" ∨ anc = r.podAncestorUID)) := by
  unfold K8sRuntimeState.forAncestor
  dsimp only
  split
  · exact .inl rfl
  · rename_i h
    simp only [Bool.or_eq_true, beq_iff_eq, Bool.and_eq_true, bne_iff_ne, ne_eq, not_or,
      not_and, not_not] at h
    refine .inr ⟨rfl, h.1, ?_⟩
    by_cases ha : anc = ""
    · exact .inl ha
    · exact .inr (h.2 ha).symm

theorem forAncestor_ancestor (r : K8sRuntimeState) (anc : UID) :
    anc = "" ∨ anc = (r.forAncestor anc).podAncestorUID := by
  rcases forAncestor_cases r anc with h | ⟨h, -, h'⟩ <;> rw [h]
  · exact .inr rfl
  · exact h'

theorem maybeTrackPod_cases (ms : ManifestState) (a : PodChangeAction) :
    ((maybeTrackPod ms a).1 = ms ∧ ∀ p isNew, (maybeTrackPod ms a).2 = some (p, isNew) →
      isNew = false ∧ p ∈ ms.runtimeState.pods ∧ p.podID = a.pod.name) ∨
    (ms.runtimeState.hasOKPodTemplateSpecHash a.pod = true ∧
      (ms.runtimeState.forAncestor a.matchedAncestorUID).pod? a.pod.name = none ∧
      maybeTrackPod ms a =
        ({ ms with runtimeState := { ms.runtimeState.forAncestor a.matchedAncestorUID with
            pods := (ms.runtimeState.forAncestor a.matchedAncestorUID).pods ++
              [{ podID := a.pod.name }] } },
          some ({ podID := a.pod.name }, true))) := by
  unfold maybeTrackPod
  split
  · refine .inl ⟨rfl, fun p isNew h => ?_⟩
    simp only [Option.map_eq_some', Prod.mk.injEq] at h
    obtain ⟨q, hq, rfl, rfl⟩ := h
    exact ⟨rfl, K8sRuntimeState.pod?_eq_some hq⟩
  · rename_i hok
    dsimp only
    split
    · rename_i hn
      exact .inr ⟨by simpa using hok, hn, rfl⟩
    · rename_i podInfo hp
      rcases forAncestor_cases ms.runtimeState a.matchedAncestorUID with hr | ⟨hr, -⟩
      · rw [hr] at hp
        simp [K8sRuntimeState.pod?] at hp
      · rw [hr] at hp ⊢
        refine .inl ⟨rfl, fun p isNew h => ?_⟩
        simp only [Option.some.injEq, Prod.mk.injEq] at h
        obtain ⟨rfl, rfl⟩ := h
        exact ⟨rfl, K8sRuntimeState.pod?_eq_some hp⟩

theorem maybeTrackPod_of_new_ancestor (hok : ms.runtimeState.hasOKPodTemplateSpecHash a.pod = true)
    (hA : a.matchedAncestorUID ≠ "") (hne : a.matchedAncestorUID ≠ ms.runtimeState.podAncestorUID) :
    ms.runtimeState.forAncestor a.matchedAncestorUID =
        { ms.runtimeState with pods := [], podAncestorUID := a.matchedAncestorUID } ∧
      (maybeTrackPod ms a).2 = some ({ podID := a.pod.name }, true) := by
  have hr : ms.runtimeState.forAncestor a.matchedAncestorUID =
      { ms.runtimeState with pods := [], podAncestorUID := a.matchedAncestorUID } := by
    rcases forAncestor_cases ms.runtimeState a.matchedAncestorUID with h | ⟨-, -, h | h⟩
    · exact h
    · exact absurd h hA
    · exact absurd h hne
  refine ⟨hr, ?_⟩
  simp [maybeTrackPod, hok, hr, K8sRuntimeState.pod?]

theorem prunePods_eq (ms : ManifestState) :
    ∃ pods, prunePods ms = { ms with runtimeState := { ms.runtimeState with pods := pods } } ∧
      pods.Sublist ms.runtimeState.pods ∧ ∀ p ∈ pods, p.deleting = false := by
  refine ⟨_, rfl, ?_, ?_⟩
  · split
    · dsimp only
      split
      · exact deletePod_sublist.trans (List.filter_sublist _)
      · exact List.filter_sublist _
    · exact List.filter_sublist _
  · have hkeep : ∀ p ∈ ms.runtimeState.pods.filter (!·.deleting), p.deleting = false := by
      simp
    intro p hp
    split at hp
    · dsimp only at hp
      split at hp
      · exact hkeep p (mem_deletePod.mp hp).1
      · exact hkeep p hp
    · exact hkeep p hp

theorem updateTrackedPod_eq (ms : ManifestState) (q : Pod) (pod : V1.Pod) (isNew : Bool) :
    ∃ pods, updateTrackedPod ms q pod isNew =
        { ms with runtimeState := { ms.runtimeState with pods := pods } } ∧
      (pods.map (·.podID)).Sublist (ms.runtimeState.pods.map (·.podID)) ∧
      (q.deleting = true → ∀ r ∈ pods, r.podID ≠ q.podID) := by
  obtain ⟨pods₁, h₁, hsub, hdel⟩ := prunePods_eq (ms.setPod q)
  refine ⟨setPod pods₁ (q.withContainers pod isNew), by rw [updateTrackedPod, h₁]; rfl, ?_, ?_⟩
  · rw [map_podID_setPod]
    simpa [ManifestState.setPod, map_podID_setPod] using hsub.map (·.podID)
  · intro hq r hr
    rcases mem_setPod.mp hr with ⟨r₀, hr₀, hid, rfl⟩ | ⟨-, hne⟩
    · have hmem : r₀ ∈ TiltWatch.setPod ms.runtimeState.pods q := hsub.subset hr₀
      rcases mem_setPod.mp hmem with ⟨-, -, -, rfl⟩ | ⟨-, hne⟩
      · exact absurd (hdel _ hr₀) (by simp [hq])
      · exact absurd (by simpa using hid) hne
    · simpa using hne

end Tracking

section Handlers

variable {now : Time} {st : EngineState} {a : PodChangeAction} {mt : ManifestTarget}

theorem matchPodChangeToManifest_some (h : matchPodChangeToManifest st a = some mt) :
    mt ∈ st.manifestTargets ∧ mt.manifest.name = a.manifestName ∧
      (a.matchedAncestorUID = "" ∨
        a.matchedAncestorUID ∈ mt.state.runtimeState.deployedUIDSet) := by
  unfold matchPodChangeToManifest at h
  split at h
  · cases h
  · rename_i mt' hmt
    dsimp only at h
    split at h
    · cases h
    · rename_i hc
      cases h
      refine ⟨(manifestTarget?_mem hmt).1, (manifestTarget?_mem hmt).2, ?_⟩
      by_cases he : a.matchedAncestorUID = ""
      · exact .inl he
      · exact .inr (by simpa [he] using hc)

/-- What `handlePodChangeAction` can do. It leaves the state alone when no target matches or
the pod is not tracked. Otherwise the matched manifest's state becomes one of the same name
whose runtime is that of `updateTrackedPod`, up to the ready time, and which satisfies
`CrashInv` whenever the pod reports containers; the other targets are left alone. The logs
gain the restarts of `restartLogs`, then at most the message of `checkForContainerCrash`. -/
theorem handlePodChangeAction_cases (now : Time) (st : EngineState) (a : PodChangeAction) :
    (handlePodChangeAction now st a = st ∧ ∀ mt, matchPodChangeToManifest st a = some mt →
      (maybeTrackPod mt.state a).2 = none) ∨
    ∃ mt ms p isNew msF crash, matchPodChangeToManifest st a = some mt ∧
      maybeTrackPod mt.state a = (ms, some (p, isNew)) ∧
      handlePodChangeAction now st a =
        { st.setManifestState mt.manifest.name msF with
          logs := st.logs ++ restartLogs mt.manifest.name (p.withStatus a.pod) a.pod isNew ++
            crash } ∧
      crash.Sublist [⟨mt.state.name, containerChangeMsg mt.state.name⟩] ∧
      msF.name = mt.state.name ∧
      (∃ t, msF.runtimeState = { (updateTrackedPod ms (p.withStatus a.pod) a.pod isNew).runtimeState
        with lastReadyOrSucceededTime := t }) ∧
      (a.pod.containers ≠ [] → CrashInv { mt with state := msF }) := by
  unfold handlePodChangeAction
  rcases h₁ : matchPodChangeToManifest st a with _ | mt
  · exact .inl ⟨rfl, fun _ h => by cases h⟩
  dsimp only
  rcases h₂ : maybeTrackPod mt.state a with ⟨ms, _ | ⟨p, isNew⟩⟩
  · exact .inl ⟨rfl, fun _ h => by cases h; rw [h₂]⟩
  right
  dsimp only
  have hname : ms.name = mt.state.name :=
    (congrArg (fun r => r.1.name) h₂).symm.trans maybeTrackPod_name
  set msU := updateTrackedPod ms (p.withStatus a.pod) a.pod isNew
  set st₁ : EngineState := { st.setManifestState mt.manifest.name msU with
    logs := st.logs ++ restartLogs mt.manifest.name (p.withStatus a.pod) a.pod isNew }
  by_cases hc : a.pod.containers = []
  · refine ⟨mt, ms, p, isNew, msU, [], rfl, h₂, ?_, List.nil_sublist _, hname, ⟨_, rfl⟩,
      fun h => absurd hc h⟩
    simp [hc, st₁]
  · set ms₃ := recordReadyTime now msU ((p.withStatus a.pod).withContainers a.pod isNew)
    have h₃ : ms₃.name = mt.state.name := by
      simp only [ms₃, recordReadyTime]; split <;> exact hname
    obtain ⟨ms', crash, heq, hcrash, hn', hrt, hinv⟩ :=
      checkForContainerCrash_setManifestState st₁ { mt with state := ms₃ }
    refine ⟨mt, ms, p, isNew, ms', crash, rfl, h₂, ?_, h₃ ▸ hcrash, hn'.trans h₃, ?_,
      fun _ => hinv⟩
    · simp only [Pod.withContainers_containers]
      rw [if_neg (by simpa [List.isEmpty_iff] using hc), heq, setManifestState_with_logs,
        setManifestState_setManifestState]
    · rw [hrt]
      simp only [ms₃, recordReadyTime]
      split
      · exact ⟨now, rfl⟩
      · exact ⟨_, rfl⟩

end Handlers

end TiltWatch
