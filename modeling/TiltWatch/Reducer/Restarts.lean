import TiltWatch.Reducer.Removal

/-! # Restart detection along the changes of one pod

`handlePodChangeAction` compares a tracked pod's containers with the new observation
position by position, logs a restart for each container that kept its name and restarted
more often, and freezes the baseline of restarts when it first tracks the pod. A change
reaches the pod's record only while case 1 of `maybeTrackPod` keeps the tracked pods. Case 1
drops them when the manifest has no ancestor, and a pod matched by an extra selector brings
the empty ancestor, so each change of such a pod finds no ancestor again and tracks the pod
as new, although `maybeTrackPod`'s comment says `isNew` marks the first sighting: no restart
is logged, and the baseline follows the restarts. Pruning keeps the pod while it is neither
deleting nor terminated.

Along changes of one pod that keep its record, each change logs the restarts the spec counts
position by position, then at most the crash check's message, and the visible restarts are
those gained since the first observation.
-/

namespace TiltWatch

/-- The restarts the spec counts between two observations of a pod's containers: the name at
each position where both observations have a container of the same name and the restart
count grew. -/
def restartedAt (existing new : List Container) : List ContainerName :=
  (List.range new.length).filterMap fun i =>
    match existing[i]?, new[i]? with
    | some e, some c => if e.name = c.name ∧ e.restarts < c.restarts then some c.name else none
    | _, _ => none

/-- The restart logs the spec expects for observation `cur` of pod `n` after `prev`: one per
restarted position, init containers first. -/
def restartLines (mn : ManifestName) (n : PodID) (prev cur : V1.Pod) : List LogLine :=
  (restartedAt prev.initContainers cur.initContainers ++
    restartedAt prev.containers cur.containers).map fun name => ⟨mn, containerRestartMsg n name⟩

/-- The record manifest `mn` keeps for its tracked pod `podID`. -/
def EngineState.trackedPod? (st : EngineState) (mn : ManifestName) (podID : PodID) :
    Option Pod :=
  (st.manifestTarget? mn).bind (·.state.runtimeState.pod? podID)

/-- An observation that pruning keeps: neither deleting nor terminated. -/
def V1.Pod.Live (pod : V1.Pod) : Prop :=
  pod.isDeleting = false ∧ pod.phase ≠ .succeeded ∧ pod.phase ≠ .failed

instance : DecidablePred V1.Pod.Live := fun _ => inferInstanceAs (Decidable (_ ∧ _ ∧ _))

section Positions

theorem restartedContainerNames_eq_restartedAt (existing new : List Container) :
    restartedContainerNames existing new = restartedAt existing new := by
  induction new generalizing existing with
  | nil => rfl
  | cons c cs ih =>
    cases existing with
    | nil =>
      refine (List.filterMap_eq_nil_iff.mpr fun i _ => ?_).symm
      simp
    | cons e es =>
      -- the first position, then the rest shifted by one
      have hhead : (if (e.name != c.name) = true then none
          else if c.restarts > e.restarts then some c.name else none) =
          if e.name = c.name ∧ e.restarts < c.restarts then some c.name else none := by
        by_cases hn : e.name = c.name <;> simp [hn]
      rw [restartedAt, List.length_cons, List.range_succ_eq_map, List.filterMap_cons,
        List.filterMap_map]
      simp only [restartedContainerNames, List.zip_cons_cons, List.filterMap_cons] at ih ⊢
      rw [ih es, restartedAt, hhead]
      simp only [Function.comp_def, List.getElem?_cons_succ, List.getElem?_cons_zero]

theorem restartLogs_eq_restartLines (mn : ManifestName) (r : Pod) (prev cur : V1.Pod)
    (hi : r.initContainers = prev.initContainers) (hc : r.containers = prev.containers) :
    restartLogs mn (r.withStatus cur) cur false = restartLines mn r.podID prev cur := by
  simp [restartLogs, restartLines, Pod.withStatus, hi, hc, restartedContainerNames_eq_restartedAt]

end Positions

section Records

variable {st : EngineState} {mn : ManifestName} {mt : ManifestTarget} {ms : ManifestState}
  {r : K8sRuntimeState} {A : UID} {pods : List Pod} {p q : Pod} {pod : V1.Pod} {isNew : Bool}

theorem manifestTarget?_updateManifestState {f : ManifestState → ManifestState}
    (h : st.manifestTarget? mn = some mt) :
    (st.updateManifestState mn f).manifestTarget? mn = some { mt with state := f mt.state } := by
  have hmn := (manifestTarget?_mem h).2
  simp only [EngineState.manifestTarget?, EngineState.updateManifestState, List.find?_map] at h ⊢
  have hp : ((fun t : ManifestTarget => t.manifest.name == mn) ∘
      fun t : ManifestTarget =>
        if t.manifest.name == mn then { t with state := f t.state } else t) =
      fun t => t.manifest.name == mn := by
    funext t; by_cases ht : t.manifest.name = mn <;> simp [ht]
  rw [hp, h]
  simp [hmn]

theorem manifestTarget?_setManifestState (h : st.manifestTarget? mn = some mt) :
    (st.setManifestState mn ms).manifestTarget? mn = some { mt with state := ms } :=
  manifestTarget?_updateManifestState h

@[simp] theorem forAncestor_deployedUIDSet :
    (r.forAncestor A).deployedUIDSet = r.deployedUIDSet := by
  unfold K8sRuntimeState.forAncestor; dsimp only; split <;> rfl

@[simp] theorem forAncestor_deployedPodTemplateSpecHashSet :
    (r.forAncestor A).deployedPodTemplateSpecHashSet = r.deployedPodTemplateSpecHashSet := by
  unfold K8sRuntimeState.forAncestor; dsimp only; split <;> rfl

theorem forAncestor_pod?_none {n : PodID} (h : r.pod? n = none) :
    (r.forAncestor A).pod? n = none := by
  rcases forAncestor_cases r A with h' | ⟨h', -⟩ <;> rw [h']
  · rfl
  · exact h

theorem forAncestor_of_ancestor (h : r.podAncestorUID ≠ "" ∧ (A = "" ∨ A = r.podAncestorUID)) :
    r.forAncestor A = r := by
  unfold K8sRuntimeState.forAncestor
  rw [if_neg]
  rcases h with ⟨h₁, h₂ | h₂⟩ <;> simp [h₁, h₂]

theorem forAncestor_keeps (h : A ≠ "" ∨ r.podAncestorUID ≠ "") :
    (r.forAncestor A).podAncestorUID ≠ "" ∧ (A = "" ∨ A = (r.forAncestor A).podAncestorUID) := by
  unfold K8sRuntimeState.forAncestor
  dsimp only
  split
  · rename_i hc
    refine ⟨fun hA => ?_, .inr rfl⟩
    dsimp only at hA
    subst hA
    simp at hc h
    exact h hc
  · rename_i hc
    simp only [Bool.or_eq_true, beq_iff_eq, Bool.and_eq_true, bne_iff_ne, ne_eq, not_or,
      not_and, not_not] at hc
    refine ⟨hc.1, ?_⟩
    by_cases hA : A = ""
    · exact .inl hA
    · exact .inr (hc.2 hA).symm

theorem matchPodChangeToManifest_of_accepted {a : PodChangeAction}
    (hmt : st.manifestTarget? a.manifestName = some mt)
    (hacc : a.matchedAncestorUID = "" ∨
      a.matchedAncestorUID ∈ mt.state.runtimeState.deployedUIDSet) :
    matchPodChangeToManifest st a = some mt := by
  simp only [matchPodChangeToManifest, hmt]
  rcases hacc with h | h <;> simp [h]

theorem maybeTrackPod_of_ok {a : PodChangeAction}
    (hok : ms.runtimeState.hasOKPodTemplateSpecHash a.pod = true)
    (hp : (ms.runtimeState.forAncestor a.matchedAncestorUID).pod? a.pod.name = some p ∧
        isNew = false ∨
      (ms.runtimeState.forAncestor a.matchedAncestorUID).pod? a.pod.name = none ∧
        p = { podID := a.pod.name } ∧ isNew = true) :
    ∃ pods, maybeTrackPod ms a = ({ ms with runtimeState :=
        { ms.runtimeState.forAncestor a.matchedAncestorUID with pods := pods } }, some (p, isNew)) ∧
      ∃ r ∈ pods, r.podID = p.podID := by
  unfold maybeTrackPod
  simp only [hok, Bool.not_true, Bool.false_eq_true, if_false]
  rcases hp with ⟨h, rfl⟩ | ⟨h, rfl, rfl⟩ <;> rw [h]
  · exact ⟨_, rfl, p, K8sRuntimeState.pod?_eq_some h |>.1, rfl⟩
  · exact ⟨_, rfl, _, List.mem_append_right _ (List.mem_singleton_self _), rfl⟩

theorem pod?_setPod (h : ∃ q ∈ pods, q.podID = p.podID) :
    ({ r with pods := setPod pods p } : K8sRuntimeState).pod? p.podID = some p := by
  obtain ⟨q, hq, hqp⟩ := h
  cases hf : ({ r with pods := setPod pods p } : K8sRuntimeState).pod? p.podID with
  | none =>
    exact absurd rfl
      (K8sRuntimeState.pod?_eq_none.mp hf p (mem_setPod.mpr (.inl ⟨q, hq, hqp, rfl⟩)))
  | some q' =>
    obtain ⟨hm, hid⟩ := K8sRuntimeState.pod?_eq_some hf
    rcases mem_setPod.mp hm with ⟨-, -, -, rfl⟩ | ⟨-, hne⟩
    · rfl
    · exact absurd hid hne

theorem updateTrackedPod_pod? (hq : ∃ r ∈ ms.runtimeState.pods, r.podID = q.podID)
    (hdel : q.deleting = false) (hdead : q.isDead = false) :
    (updateTrackedPod ms q pod isNew).runtimeState.pod? q.podID =
      some (q.withContainers pod isNew) := by
  obtain ⟨r₀, hr₀, hid⟩ := hq
  have hmem : q ∈ (ms.setPod q).runtimeState.pods := mem_setPod.mpr (.inl ⟨r₀, hr₀, hid, rfl⟩)
  have hkept := mem_prunePods hmem hdel fun r hr hrq => by
    rcases mem_setPod.mp hr with ⟨-, -, -, rfl⟩ | ⟨-, hne⟩
    · exact hdead
    · exact absurd hrq hne
  rw [← @Pod.withContainers_podID q pod isNew]
  exact pod?_setPod ⟨q, hkept, Pod.withContainers_podID.symm⟩

/-- A change of the current deploy, accepted and neither deleting nor terminated, reaches its
pod's record: the record case 1 kept, or a new one. The matched target keeps its manifest,
name and runtime but for the pods, the ancestor of case 1 and the ready time, and holds the
record updated with the observation; the logs gain the restarts of `restartLogs`, then at
most the crash check's message. -/
theorem handlePodChangeAction_applies (now : Time) {a : PodChangeAction}
    (hmt : st.manifestTarget? a.manifestName = some mt)
    (hacc : a.matchedAncestorUID = "" ∨ a.matchedAncestorUID ∈ mt.state.runtimeState.deployedUIDSet)
    (hok : mt.state.runtimeState.hasOKPodTemplateSpecHash a.pod = true) (hlive : a.pod.Live)
    (hp : (mt.state.runtimeState.forAncestor a.matchedAncestorUID).pod? a.pod.name = some p ∧
        isNew = false ∨
      (mt.state.runtimeState.forAncestor a.matchedAncestorUID).pod? a.pod.name = none ∧
        p = { podID := a.pod.name } ∧ isNew = true) :
    ∃ mt' crash, (handlePodChangeAction now st a).manifestTarget? a.manifestName = some mt' ∧
      mt'.manifest = mt.manifest ∧ mt'.state.name = mt.state.name ∧
      (∃ pods t, mt'.state.runtimeState =
        { mt.state.runtimeState.forAncestor a.matchedAncestorUID with
          pods := pods, lastReadyOrSucceededTime := t }) ∧
      mt'.state.runtimeState.pod? a.pod.name =
        some ((p.withStatus a.pod).withContainers a.pod isNew) ∧
      (handlePodChangeAction now st a).logs =
        st.logs ++ restartLogs a.manifestName (p.withStatus a.pod) a.pod isNew ++ crash ∧
      crash.Sublist [⟨mt.state.name, containerChangeMsg mt.state.name⟩] := by
  have hname := (manifestTarget?_mem hmt).2
  have h₁ := matchPodChangeToManifest_of_accepted hmt hacc
  obtain ⟨pods₀, h₂, hrec⟩ := maybeTrackPod_of_ok hok hp
  have hpid : p.podID = a.pod.name := by
    rcases hp with ⟨h, -⟩ | ⟨-, rfl, -⟩
    · exact (K8sRuntimeState.pod?_eq_some h).2
    · rfl
  rcases handlePodChangeAction_cases now st a with ⟨-, hnone⟩ |
    ⟨mt₁, ms, p₁, isNew₁, msF, crash, h₁', h₂', heq, hcrash, hnF, ⟨t, hrt⟩, -⟩
  · have h := hnone mt h₁
    rw [h₂] at h
    cases h
  rw [h₁, Option.some.injEq] at h₁'
  subst h₁'
  rw [h₂, Prod.mk.injEq, Option.some.injEq, Prod.mk.injEq] at h₂'
  obtain ⟨hms, rfl, rfl⟩ := h₂'
  obtain ⟨pods, hU, -, -⟩ := updateTrackedPod_eq ms (p.withStatus a.pod) a.pod isNew
  have hq : ∃ r ∈ ms.runtimeState.pods, r.podID = (p.withStatus a.pod).podID := by
    rw [← hms]; exact hrec
  have hpod := @updateTrackedPod_pod? ms (p.withStatus a.pod) a.pod isNew hq
    (by simpa using hlive.1) (by simp [Pod.isDead, Pod.withStatus, hlive.2.1, hlive.2.2])
  rw [Pod.withStatus_podID, hpid] at hpod
  refine ⟨{ mt with state := msF }, crash, ?_, rfl, hnF, ⟨pods, t, by rw [hrt, hU, ← hms]⟩, ?_,
    by rw [heq, hname], hcrash⟩
  · rw [heq, ← hname]
    exact manifestTarget?_setManifestState (hname ▸ hmt)
  · rw [hrt]; exact hpod

end Records

section Run

variable {mt₀ mt : ManifestTarget} {A : UID} {r p : Pod} {prev cur : V1.Pod}

@[simp] theorem Pod.withContainers_initContainers {isNew : Bool} :
    (p.withContainers cur isNew).initContainers = cur.initContainers := by
  unfold Pod.withContainers; split <;> rfl

@[simp] theorem Pod.withContainers_false_baselineRestarts :
    (p.withContainers cur false).baselineRestarts = p.baselineRestarts := rfl

theorem Pod.withContainers_true_baselineRestarts :
    (p.withContainers cur true).baselineRestarts = (cur.containers.map (·.restarts)).sum := rfl

/-- Target `mt` is still `mt₀`'s, with the same name and deploy, an ancestor that a change
through `A` keeps, and record `r` of pod `prev.name` with the containers of observation
`prev`. -/
structure KeepsPod (mt₀ mt : ManifestTarget) (A : UID) (r : Pod) (prev : V1.Pod) : Prop where
  name : mt.state.name = mt₀.state.name
  deployed : mt.state.runtimeState.deployedUIDSet = mt₀.state.runtimeState.deployedUIDSet
  hashes : mt.state.runtimeState.deployedPodTemplateSpecHashSet =
    mt₀.state.runtimeState.deployedPodTemplateSpecHashSet
  ancestor : mt.state.runtimeState.podAncestorUID ≠ "" ∧
    (A = "" ∨ A = mt.state.runtimeState.podAncestorUID)
  record : mt.state.runtimeState.pod? prev.name = some r
  initContainers : r.initContainers = prev.initContainers
  containers : r.containers = prev.containers

theorem hasOKPodTemplateSpecHash_congr {r r' : K8sRuntimeState}
    (h : r'.deployedPodTemplateSpecHashSet = r.deployedPodTemplateSpecHashSet) (pod : V1.Pod) :
    r'.hasOKPodTemplateSpecHash pod = r.hasOKPodTemplateSpecHash pod := by
  simp only [K8sRuntimeState.hasOKPodTemplateSpecHash, h]

/-- A change of a pod whose record the target keeps is applied to that record: it logs the
restarts the spec counts and at most the crash check's message, keeps the baseline, and
leaves the record with the containers of the new observation. -/
theorem KeepsPod.change (now : Time) {st : EngineState}
    (hmt : st.manifestTarget? mt₀.manifest.name = some mt) (hk : KeepsPod mt₀ mt A r prev)
    (hacc : A = "" ∨ A ∈ mt₀.state.runtimeState.deployedUIDSet) (hname : cur.name = prev.name)
    (hok : mt₀.state.runtimeState.hasOKPodTemplateSpecHash cur = true) (hlive : cur.Live) :
    ∃ mt' crash, (handlePodChangeAction now st ⟨cur, mt₀.manifest.name, A⟩).manifestTarget?
        mt₀.manifest.name = some mt' ∧
      KeepsPod mt₀ mt' A ((r.withStatus cur).withContainers cur false) cur ∧
      (handlePodChangeAction now st ⟨cur, mt₀.manifest.name, A⟩).logs =
        st.logs ++ restartLines mt₀.manifest.name prev.name prev cur ++ crash ∧
      crash.Sublist [⟨mt₀.state.name, containerChangeMsg mt₀.state.name⟩] := by
  have hkeep := forAncestor_of_ancestor hk.ancestor
  obtain ⟨mt', crash, hmt', hman, hnm, ⟨pods, t, hrt⟩, hrec, hlogs, hcrash⟩ :=
    @handlePodChangeAction_applies _ _ r false now ⟨cur, mt₀.manifest.name, A⟩ hmt
      (hk.deployed ▸ hacc)
      (by rw [hasOKPodTemplateSpecHash_congr hk.hashes]; exact hok) hlive
      (.inl ⟨by rw [hkeep, hname]; exact hk.record, rfl⟩)
  have hrid : r.podID = prev.name := (K8sRuntimeState.pod?_eq_some hk.record).2
  rw [hkeep] at hrt
  refine ⟨mt', crash, hmt', ⟨hnm.trans hk.name, by rw [hrt]; exact hk.deployed,
    by rw [hrt]; exact hk.hashes, by rw [hrt]; exact hk.ancestor, hrec, by simp, by simp⟩, ?_,
    hk.name ▸ hcrash⟩
  rw [hlogs, restartLogs_eq_restartLines _ r prev cur hk.initContainers hk.containers, hrid]

/-- Along changes of a pod whose record the target keeps, each change logs the restarts the
spec counts against the previous observation, then at most the crash check's message, and the
baseline stays. -/
theorem KeepsPod.run (now : Time) (hacc : A = "" ∨ A ∈ mt₀.state.runtimeState.deployedUIDSet) :
    ∀ (rest : List V1.Pod) (st : EngineState) (mt : ManifestTarget) (r : Pod) (prev : V1.Pod),
      st.manifestTarget? mt₀.manifest.name = some mt → KeepsPod mt₀ mt A r prev →
      (∀ pod ∈ rest, pod.name = prev.name ∧
        mt₀.state.runtimeState.hasOKPodTemplateSpecHash pod = true ∧ pod.Live) →
      let st' := (rest.map fun pod => (⟨pod, mt₀.manifest.name, A⟩ : PodChangeAction)).foldl
        (handlePodChangeAction now) st
      (∃ crashes : List (List LogLine), crashes.length = rest.length ∧
        (∀ c ∈ crashes, c.Sublist [⟨mt₀.state.name, containerChangeMsg mt₀.state.name⟩]) ∧
        st'.logs = st.logs ++ (((prev :: rest).zip rest).zip crashes).flatMap
          (fun o => restartLines mt₀.manifest.name prev.name o.1.1 o.1.2 ++ o.2)) ∧
      ∃ mt' r', st'.manifestTarget? mt₀.manifest.name = some mt' ∧
        KeepsPod mt₀ mt' A r' ((prev :: rest).getLast (List.cons_ne_nil _ _)) ∧
        r'.baselineRestarts = r.baselineRestarts
  | [], st, mt, r, _, hmt, hk, _ => ⟨⟨[], rfl, by simp, by simp⟩, mt, r, hmt, hk, rfl⟩
  | cur :: rest, st, mt, r, prev, hmt, hk, hobs => by
    obtain ⟨hname, hok, hlive⟩ := hobs cur (List.mem_cons_self _ _)
    obtain ⟨mt₁, crash, hmt₁, hk₁, hlogs, hcrash⟩ := hk.change now hmt hacc hname hok hlive
    obtain ⟨⟨cs, hlen, hcs, ih⟩, mt', r', hmt', hk', hbase⟩ :=
      KeepsPod.run now hacc rest _ mt₁ _ cur hmt₁ hk₁
        fun pod hp => hname ▸ hobs pod (List.mem_cons_of_mem _ hp)
    refine ⟨⟨crash :: cs, by simp [hlen], fun c hc => ?_, ?_⟩, mt', r', hmt', by simpa using hk',
      by simpa using hbase⟩
    · rcases List.mem_cons.mp hc with rfl | hc
      · exact hcrash
      · exact hcs c hc
    · simp only [List.map_cons, List.foldl_cons, List.zip_cons_cons, List.flatMap_cons] at ih ⊢
      rw [ih, hlogs, hname]
      simp only [List.append_assoc]

theorem keepsPod_first (now : Time) {st : EngineState} {first : V1.Pod}
    (hmt : st.manifestTarget? mt₀.manifest.name = some mt₀)
    (hacc : A = "" ∨ A ∈ mt₀.state.runtimeState.deployedUIDSet)
    (hanc : A ≠ "" ∨ mt₀.state.runtimeState.podAncestorUID ≠ "")
    (hnew : mt₀.state.runtimeState.pod? first.name = none)
    (hok : mt₀.state.runtimeState.hasOKPodTemplateSpecHash first = true) (hlive : first.Live) :
    ∃ mt' crash, (handlePodChangeAction now st ⟨first, mt₀.manifest.name, A⟩).manifestTarget?
        mt₀.manifest.name = some mt' ∧
      KeepsPod mt₀ mt' A (({ podID := first.name } : Pod).withStatus first |>.withContainers first
        true) first ∧
      (handlePodChangeAction now st ⟨first, mt₀.manifest.name, A⟩).logs = st.logs ++ crash ∧
      crash.Sublist [⟨mt₀.state.name, containerChangeMsg mt₀.state.name⟩] := by
  obtain ⟨mt', crash, hmt', -, hnm, ⟨pods, t, hrt⟩, hrec, hlogs, hcrash⟩ :=
    @handlePodChangeAction_applies _ _ { podID := first.name } true now
      ⟨first, mt₀.manifest.name, A⟩ hmt hacc hok hlive (.inr ⟨forAncestor_pod?_none hnew, rfl, rfl⟩)
  refine ⟨mt', crash, hmt', ⟨hnm, by simp [hrt], by simp [hrt],
    by rw [hrt]; exact forAncestor_keeps hanc, hrec, by simp, by simp⟩,
    by simpa [restartLogs] using hlogs, hcrash⟩

/-- Take changes of one pod of a manifest, each accepted by `matchPodChangeToManifest`, of the
current deploy, neither deleting nor terminated, through one ancestor that is not empty or
meets a runtime with an ancestor, starting where the manifest does not track the pod. The
first change logs no restart, only at most the crash check's message; each later one logs
exactly the restarts the spec counts against the previous observation, then at most the crash
check's message; and the pod's visible restarts are those gained since the first
observation. -/
theorem restart_logs_follow_observations (now : Time) (st : EngineState) (mt : ManifestTarget)
    (hmt : st.manifestTarget? mt.manifest.name = some mt) (A : UID)
    (hacc : A = "" ∨ A ∈ mt.state.runtimeState.deployedUIDSet)
    (hanc : A ≠ "" ∨ mt.state.runtimeState.podAncestorUID ≠ "") (first : V1.Pod)
    (rest : List V1.Pod) (hnew : mt.state.runtimeState.pod? first.name = none)
    (hobs : ∀ pod ∈ first :: rest, pod.name = first.name ∧
      mt.state.runtimeState.hasOKPodTemplateSpecHash pod = true ∧ pod.Live) :
    let st' := ((first :: rest).map fun pod => (⟨pod, mt.manifest.name, A⟩ : PodChangeAction)).foldl
      (handlePodChangeAction now) st
    (∃ (crash₀ : List LogLine) (crashes : List (List LogLine)), crashes.length = rest.length ∧
      (∀ c ∈ crash₀ :: crashes, c.Sublist [⟨mt.state.name, containerChangeMsg mt.state.name⟩]) ∧
      st'.logs = st.logs ++ crash₀ ++ (((first :: rest).zip rest).zip crashes).flatMap
        (fun o => restartLines mt.manifest.name first.name o.1.1 o.1.2 ++ o.2)) ∧
    ∃ r, st'.trackedPod? mt.manifest.name first.name = some r ∧
      r.visibleContainerRestarts =
        (((first :: rest).getLast (List.cons_ne_nil _ _)).containers.map (·.restarts)).sum -
          (first.containers.map (·.restarts)).sum := by
  obtain ⟨-, hok, hlive⟩ := hobs first (List.mem_cons_self _ _)
  obtain ⟨mt₁, crash, hmt₁, hk₁, hlogs, hcrash⟩ := keepsPod_first now hmt hacc hanc hnew hok hlive
  obtain ⟨⟨cs, hlen, hcs, hrun⟩, mt', r', hmt', hk', hbase⟩ :=
    KeepsPod.run now hacc rest _ mt₁ _ first hmt₁ hk₁
      fun pod hp => hobs pod (List.mem_cons_of_mem _ hp)
  have hlast := (hobs _ (List.getLast_mem (List.cons_ne_nil first rest))).1
  refine ⟨⟨crash, cs, hlen, fun c hc => ?_, ?_⟩, r', ?_, ?_⟩
  · rcases List.mem_cons.mp hc with rfl | hc
    · exact hcrash
    · exact hcs c hc
  · simp only [List.map_cons, List.foldl_cons] at hrun ⊢
    rw [hrun, hlogs]
  · simp only [List.map_cons, List.foldl_cons] at hmt' ⊢
    rw [EngineState.trackedPod?, hmt', ← hlast]
    exact hk'.record
  · rw [Pod.visibleContainerRestarts, Pod.allContainerRestarts, hk'.containers, hbase]
    rfl

/-- A pod matched by an extra selector brings no ancestor, and its manifest has none: each
change tracks it afresh, so the second observation, with two restarts more, logs no restart
and leaves none visible. -/
theorem extra_selector_restarts_unseen :
    let c : Container := { name := "app", id := "c1", running := true }
    let p₀ : V1.Pod := { uid := "p1", name := "web-1", containers := [c] }
    let p₂ : V1.Pod := { uid := "p1", name := "web-1", containers := [{ c with restarts := 2 }] }
    let st : EngineState := { manifestTargets := [⟨{ name := "web" }, { name := "web" }⟩] }
    let st' := [p₀, p₂].foldl (fun st pod => handlePodChangeAction 0 st ⟨pod, "web", ""⟩) st
    restartedAt p₀.containers p₂.containers = ["app"] ∧ st'.logs = [] ∧
      (st'.trackedPod? "web" "web-1").map (·.visibleContainerRestarts) = some 0 := by
  decide

/-- The spec's scenario: manifest `foo` deployed `U1`, and its pod `foo-1` is seen with no
restart, then with two. -/
theorem restart_logs_follow_observations_foo :
    let c : Container := { name := "app", id := "c1", running := true }
    let p₀ : V1.Pod := { uid := "p1", name := "foo-1", containers := [c] }
    let p₂ : V1.Pod := { uid := "p1", name := "foo-1", containers := [{ c with restarts := 2 }] }
    let mt : ManifestTarget :=
      ⟨{ name := "foo" }, { name := "foo", runtimeState := { deployedUIDSet := ["U1"] } }⟩
    let st : EngineState := { manifestTargets := [mt] }
    st.manifestTarget? mt.manifest.name = some mt ∧
    ("U1" = "" ∨ "U1" ∈ mt.state.runtimeState.deployedUIDSet) ∧
    ("U1" ≠ "" ∨ mt.state.runtimeState.podAncestorUID ≠ "") ∧
    mt.state.runtimeState.pod? p₀.name = none ∧
    (∀ pod ∈ [p₀, p₂], pod.name = p₀.name ∧
      mt.state.runtimeState.hasOKPodTemplateSpecHash pod = true ∧ pod.Live) ∧
    let st' := ([p₀, p₂].map fun pod => (⟨pod, mt.manifest.name, "U1"⟩ : PodChangeAction)).foldl
      (handlePodChangeAction 0) st
    (∃ (crash₀ : List LogLine) (crashes : List (List LogLine)), crashes.length = [p₂].length ∧
      (∀ c ∈ crash₀ :: crashes, c.Sublist [⟨mt.state.name, containerChangeMsg mt.state.name⟩]) ∧
      st'.logs = st.logs ++ crash₀ ++ (([p₀, p₂].zip [p₂]).zip crashes).flatMap
        (fun o => restartLines mt.manifest.name p₀.name o.1.1 o.1.2 ++ o.2)) ∧
    ∃ r, st'.trackedPod? mt.manifest.name p₀.name = some r ∧
      r.visibleContainerRestarts =
        (([p₀, p₂].getLast (List.cons_ne_nil _ _)).containers.map (·.restarts)).sum -
          (p₀.containers.map (·.restarts)).sum := by
  intro c p₀ p₂ mt st
  exact ⟨by decide, by decide, by decide, by decide, by decide,
    restart_logs_follow_observations 0 st mt (by decide) "U1" (by decide) (by decide) p₀ [p₂]
      (by decide) (by decide)⟩

end Run

end TiltWatch
