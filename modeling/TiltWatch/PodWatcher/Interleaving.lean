import TiltWatch.PodWatcher.Triage
import TiltWatch.Watch.Trace

/-! # Interleavings of the pod watcher

`dispatchPodChangesLoop` upserts each delivered pod under the lock and hands it to a new
goroutine. The goroutine looks up the owner tree without the lock, triages under the
lock, and takes the lock again to dispatch the freshest version of the pod. Deletion keys
are dispatched from goroutines of their own, and `OnChange` registers deployed UIDs and
replays known pods under the same lock.

A `PodWorld` holds the watcher, the goroutines still waiting and a trace: the actions
dispatched to the store in order and, as ghost entries, the updates received, the triages
run and the UIDs registered. Each step is one lock section, so a list of steps is an
interleaving. The watcher's three maps are functions of the trace (`WellFormed`), and every
dispatched pod is the version received last before its dispatch.
-/

namespace TiltWatch

/-- A goroutine spawned by `dispatchPodChangesLoop`, at the point where it waits. -/
inductive PodTask
  /-- `dispatchPodChange` before its owner lookup. -/
  | lookup (pod : V1.Pod)
  /-- `dispatchPodChange` between `triagePodTree` and the dispatch lock. -/
  | triaged (pod : V1.Pod) (mn : ManifestName) (anc : UID)
  /-- `go st.Dispatch(NewPodDeleteAction(..))`. -/
  | deleting (a : PodDeleteAction)
  deriving DecidableEq, Repr

def PodTask.uid? : PodTask → Option UID
  | .lookup pod => some pod.uid
  | .triaged pod _ _ => some pod.uid
  | .deleting _ => none

/-- An entry of a pod-watcher trace. -/
inductive PodObs
  | received (pod : V1.Pod)
  | triaged (pod : V1.Pod) (tree : List UID)
  | registered (uid : UID) (mn : ManifestName)
  | dispatched (a : PodAction)
  deriving DecidableEq, Repr

/-- One lock section of the watcher or of one of its goroutines. -/
inductive PodStep
  /-- The watch loop receives a pod: `upsertPod`, then `go dispatchPodChange`. -/
  | receive (pod : V1.Pod)
  /-- The watch loop receives a deletion key. -/
  | receiveDeleted (name : String) (ns : Namespace)
  /-- A goroutine's owner lookup returned `tree`, and it runs `triagePodTree`. -/
  | triage (pod : V1.Pod) (tree : List UID)
  /-- A goroutine's owner lookup failed; it logs and ends. -/
  | lookupFailed (pod : V1.Pod)
  /-- A triaged goroutine takes the lock and dispatches. -/
  | dispatch (pod : V1.Pod) (mn : ManifestName) (anc : UID)
  /-- A deletion goroutine dispatches its action. -/
  | dispatchDelete (a : PodDeleteAction)
  /-- `OnChange` with the task list's extra selectors and new UIDs. -/
  | onChange (sels : List ExtraSelector) (newUIDs : List (UID × ManifestName))
  deriving DecidableEq, Repr

/-- The pod watcher with its waiting goroutines and its trace. -/
structure PodWorld where
  watcher : PodWatcher := {}
  tasks : List PodTask := []
  trace : List PodObs := []

/-- The versions of the pod with UID `u` the watches delivered, in order. -/
def receivedVersions (u : UID) (tr : List PodObs) : List V1.Pod :=
  tr.filterMap fun
    | .received q => if q.uid = u then some q else none
    | _ => none

/-- The manifests the UID `u` was registered to, in order. -/
def registrations (u : UID) (tr : List PodObs) : List ManifestName :=
  tr.filterMap fun
    | .registered v mn => if v = u then some mn else none
    | _ => none

namespace PodWorld

/-- One iteration of `setupNewUIDs`, recorded in the trace. -/
def register (s : PodWorld) (uid : UID) (mn : ManifestName) : PodWorld :=
  { s with
    watcher := (s.watcher.setupNewUID uid mn).1
    trace := s.trace ++ .registered uid mn ::
      (s.watcher.setupNewUID uid mn).2.map (PodObs.dispatched ∘ PodAction.change) }

def step (s : PodWorld) : PodStep → PodWorld
  | .receive pod =>
    { watcher := s.watcher.upsertPod pod
      tasks := .lookup pod :: s.tasks
      trace := s.trace ++ [.received pod] }
  | .receiveDeleted name ns => { s with tasks := .deleting ⟨name, ns⟩ :: s.tasks }
  | .triage pod tree =>
    if PodTask.lookup pod ∈ s.tasks then
      let r := s.watcher.triagePodTree pod tree
      { watcher := r.1
        tasks := (if r.2.1 = "" then [] else [.triaged pod r.2.1 r.2.2]) ++
          s.tasks.erase (.lookup pod)
        trace := s.trace ++ [.triaged pod tree] }
    else s
  | .lookupFailed pod => { s with tasks := s.tasks.erase (.lookup pod) }
  | .dispatch pod mn anc =>
    if PodTask.triaged pod mn anc ∈ s.tasks then
      { s with
        tasks := s.tasks.erase (.triaged pod mn anc)
        trace := s.trace ++
          ((s.watcher.freshPodChange pod mn anc).map
            (PodObs.dispatched ∘ PodAction.change)).toList }
    else s
  | .dispatchDelete a =>
    if PodTask.deleting a ∈ s.tasks then
      { s with tasks := s.tasks.erase (.deleting a), trace := s.trace ++ [.dispatched (.delete a)] }
    else s
  | .onChange sels newUIDs =>
    newUIDs.foldl (fun t e => t.register e.1 e.2)
      { s with watcher := { s.watcher with extraSelectors := sels } }

def run (s : PodWorld) (steps : List PodStep) : PodWorld :=
  steps.foldl step s

/-- The states some interleaving reaches from `NewPodWatcher`. -/
inductive Reachable : PodWorld → Prop
  | init : Reachable {}
  | step {s : PodWorld} (e : PodStep) : Reachable s → Reachable (s.step e)

theorem Reachable.run {s : PodWorld} (h : Reachable s) (steps : List PodStep) :
    Reachable (s.run steps) := by
  induction steps generalizing s with
  | nil => exact h
  | cons e es ih => exact ih (h.step e)

theorem reachable_run (steps : List PodStep) : Reachable (run {} steps) :=
  Reachable.init.run steps

end PodWorld

section Projections

variable {u : UID} {q : V1.Pod} {tr l : List PodObs}

@[simp] theorem receivedVersions_append (a b : List PodObs) :
    receivedVersions u (a ++ b) = receivedVersions u a ++ receivedVersions u b :=
  List.filterMap_append _ _ _

@[simp] theorem receivedVersions_nil : receivedVersions u [] = [] := rfl

@[simp] theorem receivedVersions_cons_received :
    receivedVersions u (.received q :: l) =
      if q.uid = u then q :: receivedVersions u l else receivedVersions u l := by
  by_cases h : q.uid = u <;> simp [receivedVersions, h]

@[simp] theorem receivedVersions_cons_triaged {t : List UID} :
    receivedVersions u (.triaged q t :: l) = receivedVersions u l := rfl

@[simp] theorem receivedVersions_cons_registered {v : UID} {mn : ManifestName} :
    receivedVersions u (.registered v mn :: l) = receivedVersions u l := rfl

@[simp] theorem receivedVersions_cons_dispatched {a : PodAction} :
    receivedVersions u (.dispatched a :: l) = receivedVersions u l := rfl

@[simp] theorem registrations_append (a b : List PodObs) :
    registrations u (a ++ b) = registrations u a ++ registrations u b :=
  List.filterMap_append _ _ _

@[simp] theorem registrations_nil : registrations u [] = [] := rfl

@[simp] theorem registrations_cons_registered {v : UID} {mn : ManifestName} :
    registrations u (.registered v mn :: l) =
      if v = u then mn :: registrations u l else registrations u l := by
  by_cases h : v = u <;> simp [registrations, h]

@[simp] theorem registrations_cons_received :
    registrations u (.received q :: l) = registrations u l :=
  rfl

@[simp] theorem registrations_cons_triaged {t : List UID} :
    registrations u (.triaged q t :: l) = registrations u l := rfl

@[simp] theorem registrations_cons_dispatched {a : PodAction} :
    registrations u (.dispatched a :: l) = registrations u l := rfl

@[simp] theorem receivedVersions_map_change (acts : List PodChangeAction) :
    receivedVersions u (acts.map (PodObs.dispatched ∘ PodAction.change)) = [] := by
  induction acts <;> simp_all

@[simp] theorem registrations_map_change (acts : List PodChangeAction) :
    registrations u (acts.map (PodObs.dispatched ∘ PodAction.change)) = [] := by
  induction acts <;> simp_all

theorem mem_receivedVersions : q ∈ receivedVersions u tr ↔ .received q ∈ tr ∧ q.uid = u := by
  simp only [receivedVersions, List.mem_filterMap]
  constructor
  · rintro ⟨o, ho, hf⟩
    cases o <;> simp at hf
    obtain ⟨h, rfl⟩ := hf
    exact ⟨ho, h⟩
  · rintro ⟨h, rfl⟩
    exact ⟨_, h, by simp⟩

theorem mem_registrations {mn : ManifestName} :
    mn ∈ registrations u tr ↔ .registered u mn ∈ tr := by
  simp only [registrations, List.mem_filterMap]
  constructor
  · rintro ⟨o, ho, hf⟩
    cases o <;> simp at hf
    obtain ⟨rfl, rfl⟩ := hf
    exact ho
  · intro h
    exact ⟨_, h, by simp⟩

theorem uid_of_getLast?_receivedVersions (h : (receivedVersions u tr).getLast? = some q) :
    q.uid = u :=
  (mem_receivedVersions.mp (List.mem_of_getLast?_eq_some h)).2

end Projections

namespace PodWorld

variable {s : PodWorld} {pod q : V1.Pod} {u : UID}

/-- Every dispatched pod is the version of its UID received last before the dispatch. -/
def FreshDispatches (tr : List PodObs) : Prop :=
  ∀ pre a post, tr = pre ++ .dispatched (.change a) :: post →
    (receivedVersions a.pod.uid pre).getLast? = some a.pod

theorem FreshDispatches.append {tr new : List PodObs} (h : FreshDispatches tr)
    (hrecv : ∀ q, PodObs.received q ∉ new)
    (hnew : ∀ a, PodObs.dispatched (.change a) ∈ new →
      (receivedVersions a.pod.uid tr).getLast? = some a.pod) :
    FreshDispatches (tr ++ new) := by
  intro pre a post hs
  refine forall_split_append (Q := fun pre x => ∀ a, x = .dispatched (.change a) →
    (receivedVersions a.pod.uid pre).getLast? = some a.pod) (fun pre x post hx a ha => ?_)
    (fun mid x post hx a ha => ?_) pre _ post hs a rfl
  · subst ha; exact h pre a post hx
  · subst ha
    have hmid : receivedVersions a.pod.uid mid = [] := by
      refine List.filterMap_eq_nil_iff.mpr fun o ho => ?_
      cases o with
      | received q' => exact absurd (hx ▸ List.mem_append_left _ ho) (hrecv q')
      | _ => rfl
    simpa [hmid] using hnew a (hx ▸ List.mem_append_right _ (List.mem_cons_self _ _))

theorem FreshDispatches.append_of_no_change {tr new : List PodObs} (h : FreshDispatches tr)
    (hnew : ∀ a, PodObs.dispatched (.change a) ∉ new) : FreshDispatches (tr ++ new) := by
  intro pre a post hs
  rcases split_append hs with ⟨post₀, hp, -⟩ | ⟨mid, -, hm⟩
  · exact h pre a post₀ hp
  · exact absurd (hm ▸ List.mem_append_right _ (List.mem_cons_self _ _)) (hnew a)

theorem fold_register_trace (l : List (UID × ManifestName)) (s : PodWorld) :
    ∃ new, (l.foldl (fun t e => t.register e.1 e.2) s).trace = s.trace ++ new := by
  induction l generalizing s with
  | nil => exact ⟨[], by simp⟩
  | cons e es ih =>
    obtain ⟨new, h⟩ := ih (s.register e.1 e.2)
    exact ⟨_, h.trans (List.append_assoc _ _ _)⟩

theorem step_trace (s : PodWorld) : ∀ e, ∃ new, (s.step e).trace = s.trace ++ new
  | .receive _ => ⟨_, rfl⟩
  | .receiveDeleted _ _ => ⟨[], (List.append_nil _).symm⟩
  | .triage pod _ => by
    by_cases h : PodTask.lookup pod ∈ s.tasks
    · simp only [step, if_pos h]; exact ⟨_, rfl⟩
    · simp only [step, if_neg h]; exact ⟨[], (List.append_nil _).symm⟩
  | .lookupFailed _ => ⟨[], (List.append_nil _).symm⟩
  | .dispatch pod mn anc => by
    by_cases h : PodTask.triaged pod mn anc ∈ s.tasks
    · simp only [step, if_pos h]; exact ⟨_, rfl⟩
    · simp only [step, if_neg h]; exact ⟨[], (List.append_nil _).symm⟩
  | .dispatchDelete a => by
    by_cases h : PodTask.deleting a ∈ s.tasks
    · simp only [step, if_pos h]; exact ⟨_, rfl⟩
    · simp only [step, if_neg h]; exact ⟨[], (List.append_nil _).symm⟩
  | .onChange _ newUIDs => fold_register_trace newUIDs _

/-- What every reachable state satisfies: the watcher's maps are functions of the trace,
every goroutine's pod was received, and every dispatch is fresh. -/
structure WellFormed (s : PodWorld) : Prop where
  knownPods_eq : ∀ u, s.watcher.knownPods u = (receivedVersions u s.trace).getLast?
  knownDeployedUIDs_eq : ∀ u, s.watcher.knownDeployedUIDs u = (registrations u s.trace).getLast?
  mem_descendants : ∀ u v, v ∈ s.watcher.knownDescendentPodUIDs u ↔
    ∃ pod tree, PodObs.triaged pod tree ∈ s.trace ∧ pod.uid = v ∧ u ∈ tree ∧ u ≠ v
  nodup_descendants : ∀ u, (s.watcher.knownDescendentPodUIDs u).Nodup
  task_received : ∀ t ∈ s.tasks, ∀ u, t.uid? = some u → receivedVersions u s.trace ≠ []
  triaged_received : ∀ pod tree, PodObs.triaged pod tree ∈ s.trace →
    receivedVersions pod.uid s.trace ≠ []
  fresh : FreshDispatches s.trace

namespace WellFormed

theorem knownPods_uid (hw : WellFormed s) (h : s.watcher.knownPods u = some q) : q.uid = u :=
  uid_of_getLast?_receivedVersions ((hw.knownPods_eq u).symm.trans h)

theorem knownPods_of_received (hw : WellFormed s) (h : receivedVersions u s.trace ≠ []) :
    ∃ q, s.watcher.knownPods u = some q ∧ (receivedVersions u s.trace).getLast? = some q := by
  obtain ⟨q, hq⟩ := Option.ne_none_iff_exists'.mp (mt List.getLast?_eq_none_iff.mp h)
  exact ⟨q, (hw.knownPods_eq u).trans hq, hq⟩

theorem init : WellFormed {} where
  knownPods_eq _ := rfl
  knownDeployedUIDs_eq _ := rfl
  mem_descendants _ _ := by simp
  nodup_descendants _ := List.nodup_nil
  task_received _ h := by simp at h
  triaged_received _ _ h := by simp at h
  fresh _ _ _ h := by simp at h

theorem register (hw : WellFormed s) (uid : UID) (mn : ManifestName) :
    WellFormed (s.register uid mn) where
  knownPods_eq u := by simp [PodWorld.register, hw.knownPods_eq]
  knownDeployedUIDs_eq u := by
    by_cases h : uid = u
    · subst h; simp [PodWorld.register]
    · simp [PodWorld.register, Function.update_noteq (Ne.symm h), h, hw.knownDeployedUIDs_eq]
  mem_descendants u v := by simp [PodWorld.register, hw.mem_descendants]
  nodup_descendants := hw.nodup_descendants
  task_received t ht u hu := by simpa [PodWorld.register] using hw.task_received t ht u hu
  triaged_received pod tree h := by
    simpa [PodWorld.register] using
      hw.triaged_received pod tree (by simpa [PodWorld.register] using h)
  fresh := by
    refine hw.fresh.append (by simp) fun a ha => ?_
    simp only [List.mem_cons, reduceCtorEq, false_or, List.mem_map, Function.comp_apply,
      PodObs.dispatched.injEq, PodAction.change.injEq, exists_eq_right] at ha
    obtain ⟨-, -, v, hv⟩ := PodWatcher.mem_setupNewUID ha
    rw [hw.knownPods_uid hv, ← hw.knownPods_eq]; exact hv

theorem fold_register (hw : WellFormed s) (newUIDs : List (UID × ManifestName)) :
    WellFormed (newUIDs.foldl (fun t e => t.register e.1 e.2) s) := by
  induction newUIDs generalizing s with
  | nil => exact hw
  | cons e es ih => exact ih (hw.register e.1 e.2)

theorem received_ne_nil_append {tr new : List PodObs} (h : receivedVersions u tr ≠ []) :
    receivedVersions u (tr ++ new) ≠ [] := by
  simp [h]

theorem receive (hw : WellFormed s) (pod : V1.Pod) : WellFormed (s.step (.receive pod)) where
  knownPods_eq u := by
    by_cases h : pod.uid = u
    · subst h; simp [PodWorld.step]
    · simp [PodWorld.step, Function.update_noteq (Ne.symm h), h, hw.knownPods_eq]
  knownDeployedUIDs_eq u := by simp [PodWorld.step, hw.knownDeployedUIDs_eq]
  mem_descendants u v := by simp [PodWorld.step, hw.mem_descendants]
  nodup_descendants := hw.nodup_descendants
  task_received t ht u hu := by
    simp only [PodWorld.step, List.mem_cons] at ht
    rcases ht with rfl | ht
    · cases hu; simp [PodWorld.step]
    · exact received_ne_nil_append (hw.task_received t ht u hu)
  triaged_received pod tree h := by
    simp only [PodWorld.step, List.mem_append, List.mem_singleton, reduceCtorEq, or_false] at h
    exact received_ne_nil_append (hw.triaged_received pod tree h)
  fresh := hw.fresh.append_of_no_change (by simp)

theorem triage (hw : WellFormed s) (pod : V1.Pod) (tree : List UID) :
    WellFormed (s.step (.triage pod tree)) := by
  by_cases h : PodTask.lookup pod ∈ s.tasks
  · have hpod : receivedVersions pod.uid s.trace ≠ [] := hw.task_received _ h pod.uid rfl
    simp only [PodWorld.step, if_pos h]
    exact {
      knownPods_eq := by simpa using hw.knownPods_eq
      knownDeployedUIDs_eq := by simpa using hw.knownDeployedUIDs_eq
      mem_descendants := fun u v => by
        simp only [PodWatcher.triagePodTree_knownDescendentPodUIDs, mem_recordDescendant,
          hw.mem_descendants, List.mem_filter, bne_iff_ne, List.mem_append,
          List.mem_singleton, PodObs.triaged.injEq]
        constructor
        · rintro (⟨q, t, hq, rfl, hu, hne⟩ | ⟨⟨hu, hne⟩, rfl⟩)
          · exact ⟨q, t, .inl hq, rfl, hu, hne⟩
          · exact ⟨pod, tree, .inr ⟨rfl, rfl⟩, rfl, hu, hne⟩
        · rintro ⟨q, t, hq | ⟨rfl, rfl⟩, rfl, hu, hne⟩
          · exact .inl ⟨q, t, hq, rfl, hu, hne⟩
          · exact .inr ⟨⟨hu, hne⟩, rfl⟩
      nodup_descendants := fun u => by
        simpa using nodup_recordDescendant hw.nodup_descendants u
      task_received := fun t ht u hu => by
        refine received_ne_nil_append ?_
        rcases List.mem_append.mp ht with ht | ht
        · split at ht
          · simp at ht
          · simp only [List.mem_singleton] at ht; subst ht; cases hu; exact hpod
        · exact hw.task_received t (List.mem_of_mem_erase ht) u hu
      triaged_received := fun q t hq => by
        refine received_ne_nil_append ?_
        rcases List.mem_append.mp hq with hq | hq
        · exact hw.triaged_received q t hq
        · simp only [List.mem_singleton, PodObs.triaged.injEq] at hq
          obtain ⟨rfl, -⟩ := hq; exact hpod
      fresh := hw.fresh.append_of_no_change (by simp) }
  · simpa [PodWorld.step, h] using hw

theorem dispatch (hw : WellFormed s) (pod : V1.Pod) (mn : ManifestName) (anc : UID) :
    WellFormed (s.step (.dispatch pod mn anc)) := by
  by_cases h : PodTask.triaged pod mn anc ∈ s.tasks
  · obtain ⟨v, hv, hlast⟩ := hw.knownPods_of_received (hw.task_received _ h pod.uid rfl)
    have hvu : v.uid = pod.uid := hw.knownPods_uid hv
    simp only [PodWorld.step, if_pos h, PodWatcher.freshPodChange, hv, Option.map_some',
      Option.toList_some, Function.comp_apply]
    exact {
      knownPods_eq := by simpa using hw.knownPods_eq
      knownDeployedUIDs_eq := by simpa using hw.knownDeployedUIDs_eq
      mem_descendants := by simpa using hw.mem_descendants
      nodup_descendants := hw.nodup_descendants
      task_received := fun t ht u hu => by
        simpa using hw.task_received t (List.mem_of_mem_erase ht) u hu
      triaged_received := fun q t hq => by
        simpa using hw.triaged_received q t (by simpa using hq)
      fresh := hw.fresh.append (by simp) fun a ha => by
        simp only [List.mem_singleton, PodObs.dispatched.injEq, PodAction.change.injEq] at ha
        subst ha; simpa [hvu] using hlast }
  · simpa [PodWorld.step, h] using hw

theorem step (hw : WellFormed s) : ∀ e, WellFormed (s.step e)
  | .receive pod => hw.receive pod
  | .receiveDeleted name ns => {
      knownPods_eq := hw.knownPods_eq
      knownDeployedUIDs_eq := hw.knownDeployedUIDs_eq
      mem_descendants := hw.mem_descendants
      nodup_descendants := hw.nodup_descendants
      task_received := fun t ht u hu => by
        rcases List.mem_cons.mp ht with rfl | ht
        · cases hu
        · exact hw.task_received t ht u hu
      triaged_received := hw.triaged_received
      fresh := hw.fresh }
  | .triage pod tree => hw.triage pod tree
  | .lookupFailed pod => { hw with
      task_received := fun t ht => hw.task_received t (List.mem_of_mem_erase ht) }
  | .dispatch pod mn anc => hw.dispatch pod mn anc
  | .dispatchDelete a => by
      by_cases h : PodTask.deleting a ∈ s.tasks
      · simp only [PodWorld.step, if_pos h]
        exact {
          knownPods_eq := by simpa using hw.knownPods_eq
          knownDeployedUIDs_eq := by simpa using hw.knownDeployedUIDs_eq
          mem_descendants := by simpa using hw.mem_descendants
          nodup_descendants := hw.nodup_descendants
          task_received := fun t ht u hu => by
            simpa using hw.task_received t (List.mem_of_mem_erase ht) u hu
          triaged_received := fun q t hq => by
            simpa using hw.triaged_received q t (by simpa using hq)
          fresh := hw.fresh.append_of_no_change (by simp) }
      · simpa [PodWorld.step, h] using hw
  | .onChange sels newUIDs =>
    fold_register (s := { s with watcher := { s.watcher with extraSelectors := sels } })
      ⟨hw.1, hw.2, hw.3, hw.4, hw.5, hw.6, hw.7⟩ newUIDs

theorem of_reachable (h : Reachable s) : WellFormed s := by
  induction h with
  | init => exact init
  | step e _ ih => exact ih.step e

end WellFormed

theorem getLast?_receivedVersions_index {pre : List PodObs} {u : UID} {q : V1.Pod}
    (rest : List PodObs) (h : (receivedVersions u pre).getLast? = some q) :
    ∃ k, (receivedVersions u pre).length = k + 1 ∧
      (receivedVersions u (pre ++ rest))[k]? = some q := by
  obtain ⟨ys, hys⟩ := List.getLast?_eq_some_iff.mp h
  refine ⟨ys.length, by simp [hys], ?_⟩
  rw [receivedVersions_append, hys, List.append_assoc, List.getElem?_append_right (le_refl _)]
  simp

/-- Every `PodChangeAction` dispatched for a pod, from a triage goroutine or from a replay,
carries the version received last before it, so along the store's action queue the
versions of one pod are dispatched in the order they were received: the action at a later
position carries a version with an index at least as large. -/
theorem dispatched_versions_follow_receipt (steps : List PodStep)
    {pre mid post : List PodObs} {a₁ a₂ : PodChangeAction}
    (h : (PodWorld.run {} steps).trace =
      pre ++ .dispatched (.change a₁) :: (mid ++ .dispatched (.change a₂) :: post))
    (hp : a₂.pod.uid = a₁.pod.uid) :
    ∃ k₁ k₂, k₁ ≤ k₂ ∧
      (receivedVersions a₁.pod.uid pre).length = k₁ + 1 ∧
      (receivedVersions a₁.pod.uid (pre ++ .dispatched (.change a₁) :: mid)).length = k₂ + 1 ∧
      (receivedVersions a₁.pod.uid (PodWorld.run {} steps).trace)[k₁]? = some a₁.pod ∧
      (receivedVersions a₁.pod.uid (PodWorld.run {} steps).trace)[k₂]? = some a₂.pod := by
  have hw := WellFormed.of_reachable (reachable_run steps)
  have h₂ : (PodWorld.run {} steps).trace =
      (pre ++ .dispatched (.change a₁) :: mid) ++ .dispatched (.change a₂) :: post := by simp [h]
  obtain ⟨k₁, hl₁, hk₁⟩ := getLast?_receivedVersions_index
    (.dispatched (.change a₁) :: (mid ++ .dispatched (.change a₂) :: post)) (hw.fresh _ _ _ h)
  have hf₂ := hw.fresh _ _ _ h₂
  rw [hp] at hf₂
  obtain ⟨k₂, hl₂, hk₂⟩ := getLast?_receivedVersions_index (.dispatched (.change a₂) :: post) hf₂
  refine ⟨k₁, k₂, ?_, hl₁, hl₂, h ▸ hk₁, h₂ ▸ hk₂⟩
  have : (receivedVersions a₁.pod.uid pre).length ≤
      (receivedVersions a₁.pod.uid (pre ++ .dispatched (.change a₁) :: mid)).length := by simp
  omega

/-- Two updates of pod `p1` under replica set `rs1`: the goroutine of the first update
dispatches after the second update arrived, so both actions carry the second version. -/
theorem dispatched_versions_follow_receipt_two_updates :
    let p₁ : V1.Pod := { uid := "p1", name := "web-1" }
    let p₂ : V1.Pod := { uid := "p1", name := "web-1", phase := .running }
    let steps : List PodStep :=
      [.onChange [] [("rs1", "web")], .receive p₁, .triage p₁ ["p1", "rs1"],
      .receive p₂, .dispatch p₁ "web" "rs1", .triage p₂ ["p1", "rs1"], .dispatch p₂ "web" "rs1"]
    let a : PodChangeAction := ⟨p₂, "web", "rs1"⟩
    (PodWorld.run {} steps).trace =
        [.registered "rs1" "web", .received p₁, .triaged p₁ ["p1", "rs1"], .received p₂] ++
          .dispatched (.change a) ::
            ([.triaged p₂ ["p1", "rs1"]] ++ .dispatched (.change a) :: []) ∧
      a.pod.uid = a.pod.uid ∧
      ∃ k₁ k₂, k₁ ≤ k₂ ∧
        (receivedVersions a.pod.uid
          [.registered "rs1" "web", .received p₁, .triaged p₁ ["p1", "rs1"], .received p₂]).length =
            k₁ + 1 ∧
        (receivedVersions a.pod.uid
          ([.registered "rs1" "web", .received p₁, .triaged p₁ ["p1", "rs1"], .received p₂] ++
            .dispatched (.change a) :: [.triaged p₂ ["p1", "rs1"]])).length = k₂ + 1 ∧
        (receivedVersions a.pod.uid (PodWorld.run {} steps).trace)[k₁]? = some a.pod ∧
        (receivedVersions a.pod.uid (PodWorld.run {} steps).trace)[k₂]? = some a.pod := by
  intro p₁ p₂ steps a
  have h : (PodWorld.run {} steps).trace =
      [.registered "rs1" "web", .received p₁, .triaged p₁ ["p1", "rs1"], .received p₂] ++
        .dispatched (.change a) ::
          ([.triaged p₂ ["p1", "rs1"]] ++ .dispatched (.change a) :: []) := by
    decide
  exact ⟨h, rfl, dispatched_versions_follow_receipt steps h rfl⟩

end PodWorld

end TiltWatch
