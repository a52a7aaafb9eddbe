import TiltWatch.EventWatch.Manager
import TiltWatch.Watch.ReplayCount

/-! # Interleavings of the event watch manager

`dispatchEventsLoop` hands each admitted event to a goroutine. The goroutine looks up the
owner tree of the event's involved object, triages under the lock, and dispatches the
event it holds once the lock is released. `OnChange` registers new deploy UIDs and replays
the known events under them. An `EventWorld` records the triages, the registrations and
the store's dispatched actions in a trace.

The replay law has the shape of the pod watcher's. Since an event action carries no
ancestor, the argument also has to show that registrations of UIDs outside the event's
tree never replay it.
-/

namespace TiltWatch

/-- A goroutine spawned by `dispatchEventsLoop`, at the point where it waits. -/
inductive EventTask
  /-- `dispatchEventChange` before its owner lookup. -/
  | lookup (e : V1.Event)
  /-- `dispatchEventChange` after a triage that matched a manifest. -/
  | triaged (e : V1.Event) (mn : ManifestName)
  deriving DecidableEq, Repr

/-- An entry of an event-watcher trace. -/
inductive EventObs
  | triaged (e : V1.Event) (tree : List UID)
  | registered (uid : UID) (mn : ManifestName)
  | dispatched (a : K8sEventAction)
  deriving DecidableEq, Repr

/-- One atomic step of the manager or of one of its goroutines. -/
inductive EventStep
  /-- The watch loop receives an event and, if it admits it, spawns a goroutine. -/
  | receive (e : V1.Event)
  /-- A goroutine's owner lookup returned `tree`, and it runs `triageEventUpdate`. -/
  | triage (e : V1.Event) (tree : List UID)
  /-- A goroutine's owner lookup failed; it logs and ends. -/
  | lookupFailed (e : V1.Event)
  /-- A triaged goroutine dispatches its event. -/
  | dispatch (e : V1.Event) (mn : ManifestName)
  /-- `OnChange` with the task list's new UIDs. -/
  | onChange (newUIDs : List (UID × ManifestName))
  deriving DecidableEq, Repr

/-- The event watch manager with Tilt's start time, its goroutines and its trace. -/
structure EventWorld where
  manager : EventWatchManager := {}
  tiltStartTime : Time := 0
  tasks : List EventTask := []
  trace : List EventObs := []

namespace EventWorld

/-- One iteration of `setupNewUIDs`, recorded in the trace. -/
def register (s : EventWorld) (uid : UID) (mn : ManifestName) : EventWorld :=
  { s with
    manager := (s.manager.setupNewUID uid mn).1
    trace := s.trace ++ .registered uid mn :: (s.manager.setupNewUID uid mn).2.map .dispatched }

def step (s : EventWorld) : EventStep → EventWorld
  | .receive e =>
    if admitsEvent s.tiltStartTime e then { s with tasks := .lookup e :: s.tasks } else s
  | .triage e tree =>
    if EventTask.lookup e ∈ s.tasks then
      let r := s.manager.triageEventUpdate e tree
      { s with
        manager := r.1
        tasks := (if r.2 = "" then [] else [.triaged e r.2]) ++ s.tasks.erase (.lookup e)
        trace := s.trace ++ [.triaged e tree] }
    else s
  | .lookupFailed e => { s with tasks := s.tasks.erase (.lookup e) }
  | .dispatch e mn =>
    if EventTask.triaged e mn ∈ s.tasks then
      { s with tasks := s.tasks.erase (.triaged e mn), trace := s.trace ++ [.dispatched ⟨e, mn⟩] }
    else s
  | .onChange newUIDs => newUIDs.foldl (fun t e => t.register e.1 e.2) s

def run (s : EventWorld) (steps : List EventStep) : EventWorld :=
  steps.foldl step s

/-- The states some interleaving reaches from `NewEventWatchManager` at a start time. -/
inductive Reachable : EventWorld → Prop
  | init (t : Time) : Reachable { tiltStartTime := t }
  | step {s : EventWorld} (e : EventStep) : Reachable s → Reachable (s.step e)

theorem reachable_run (t : Time) (steps : List EventStep) :
    Reachable (run { tiltStartTime := t } steps) := by
  suffices ∀ s, Reachable s → Reachable (run s steps) from this _ (.init t)
  induction steps with
  | nil => exact fun _ h => h
  | cons e es ih => exact fun s h => ih _ (h.step e)

/-- The versions of the event with UID `u` that were triaged, in order. -/
def triagedVersions (u : UID) (tr : List EventObs) : List V1.Event :=
  tr.filterMap fun
    | .triaged e _ => if e.uid = u then some e else none
    | _ => none

/-- The manifests the UID `u` was registered to, in order. -/
def registrations (u : UID) (tr : List EventObs) : List ManifestName :=
  tr.filterMap fun
    | .registered v mn => if v = u then some mn else none
    | _ => none

section Projections

variable {u : UID} {e : V1.Event} {tr l : List EventObs}

@[simp] theorem triagedVersions_append (a b : List EventObs) :
    triagedVersions u (a ++ b) = triagedVersions u a ++ triagedVersions u b :=
  List.filterMap_append _ _ _

@[simp] theorem triagedVersions_nil : triagedVersions u [] = [] := rfl

@[simp] theorem triagedVersions_cons_triaged {t : List UID} :
    triagedVersions u (.triaged e t :: l) =
      if e.uid = u then e :: triagedVersions u l else triagedVersions u l := by
  by_cases h : e.uid = u <;> simp [triagedVersions, h]

@[simp] theorem triagedVersions_cons_registered {v : UID} {mn : ManifestName} :
    triagedVersions u (.registered v mn :: l) = triagedVersions u l := rfl

@[simp] theorem triagedVersions_cons_dispatched {a : K8sEventAction} :
    triagedVersions u (.dispatched a :: l) = triagedVersions u l := rfl

@[simp] theorem registrations_append (a b : List EventObs) :
    registrations u (a ++ b) = registrations u a ++ registrations u b :=
  List.filterMap_append _ _ _

@[simp] theorem registrations_nil : registrations u [] = [] := rfl

@[simp] theorem registrations_cons_registered {v : UID} {mn : ManifestName} :
    registrations u (.registered v mn :: l) =
      if v = u then mn :: registrations u l else registrations u l := by
  by_cases h : v = u <;> simp [registrations, h]

@[simp] theorem registrations_cons_triaged {t : List UID} :
    registrations u (.triaged e t :: l) = registrations u l := rfl

@[simp] theorem registrations_cons_dispatched {a : K8sEventAction} :
    registrations u (.dispatched a :: l) = registrations u l := rfl

@[simp] theorem triagedVersions_map_dispatched (acts : List K8sEventAction) :
    triagedVersions u (acts.map .dispatched) = [] := by
  induction acts <;> simp_all

@[simp] theorem registrations_map_dispatched (acts : List K8sEventAction) :
    registrations u (acts.map .dispatched) = [] := by
  induction acts <;> simp_all

theorem mem_triagedVersions : e ∈ triagedVersions u tr ↔ (∃ t, .triaged e t ∈ tr) ∧ e.uid = u := by
  simp only [triagedVersions, List.mem_filterMap]
  constructor
  · rintro ⟨o, ho, hf⟩
    cases o <;> simp at hf
    obtain ⟨h, rfl⟩ := hf
    exact ⟨⟨_, ho⟩, h⟩
  · rintro ⟨⟨t, h⟩, rfl⟩
    exact ⟨_, h, by simp⟩

theorem mem_registrations {mn : ManifestName} :
    mn ∈ registrations u tr ↔ .registered u mn ∈ tr := by
  simp only [registrations, List.mem_filterMap]
  constructor
  · rintro ⟨o, ho, hf⟩
    cases o <;> simp at hf
    obtain ⟨rfl, rfl⟩ := hf
    exact ho
  · intro h
    exact ⟨_, h, by simp⟩

end Projections

variable {s : EventWorld} {u : UID}

theorem fold_register_trace (l : List (UID × ManifestName)) (s : EventWorld) :
    ∃ new, (l.foldl (fun t e => t.register e.1 e.2) s).trace = s.trace ++ new := by
  induction l generalizing s with
  | nil => exact ⟨[], by simp⟩
  | cons e es ih =>
    obtain ⟨new, h⟩ := ih (s.register e.1 e.2)
    exact ⟨_, h.trans (List.append_assoc _ _ _)⟩

theorem step_trace (s : EventWorld) : ∀ e, ∃ new, (s.step e).trace = s.trace ++ new
  | .receive e => by
    by_cases h : admitsEvent s.tiltStartTime e
    · simp only [step, if_pos h]; exact ⟨[], (List.append_nil _).symm⟩
    · simp only [step, h]; exact ⟨[], (List.append_nil _).symm⟩
  | .triage e _ => by
    by_cases h : EventTask.lookup e ∈ s.tasks
    · simp only [step, if_pos h]; exact ⟨_, rfl⟩
    · simp only [step, if_neg h]; exact ⟨[], (List.append_nil _).symm⟩
  | .lookupFailed _ => ⟨[], (List.append_nil _).symm⟩
  | .dispatch e mn => by
    by_cases h : EventTask.triaged e mn ∈ s.tasks
    · simp only [step, if_pos h]; exact ⟨_, rfl⟩
    · simp only [step, if_neg h]; exact ⟨[], (List.append_nil _).symm⟩
  | .onChange newUIDs => fold_register_trace newUIDs _

/-- The manager's maps are functions of the trace. -/
structure WellFormed (s : EventWorld) : Prop where
  knownEvents_eq : ∀ u, s.manager.knownEvents u = (triagedVersions u s.trace).getLast?
  knownDeployedUIDs_eq : ∀ u, s.manager.knownDeployedUIDs u = (registrations u s.trace).getLast?
  mem_descendants : ∀ u v, v ∈ s.manager.knownDescendentEventUIDs u ↔
    ∃ e t, EventObs.triaged e t ∈ s.trace ∧ e.uid = v ∧ u ∈ t
  nodup_descendants : ∀ u, (s.manager.knownDescendentEventUIDs u).Nodup

theorem WellFormed.with_tasks (hw : WellFormed s) (tasks : List EventTask) :
    WellFormed { s with tasks := tasks } :=
  ⟨hw.1, hw.2, hw.3, hw.4⟩

theorem WellFormed.append_quiet (hw : WellFormed s) {tasks : List EventTask} {new : List EventObs}
    (hnew : ∀ o ∈ new, ∃ a, o = .dispatched a) :
    WellFormed { s with tasks := tasks, trace := s.trace ++ new } := by
  have hv : ∀ u, triagedVersions u new = [] ∧ registrations u new = [] := fun u => by
    constructor <;> refine List.filterMap_eq_nil_iff.mpr fun o ho => ?_ <;>
      obtain ⟨a, rfl⟩ := hnew o ho <;> rfl
  have ht : ∀ e t, EventObs.triaged e t ∉ new := fun e t h => by
    obtain ⟨a, ha⟩ := hnew _ h; cases ha
  exact {
    knownEvents_eq := fun u => by simp [(hv u).1, hw.knownEvents_eq]
    knownDeployedUIDs_eq := fun u => by simp [(hv u).2, hw.knownDeployedUIDs_eq]
    mem_descendants := fun u v => by simp [hw.mem_descendants, ht]
    nodup_descendants := hw.nodup_descendants }

theorem WellFormed.register (hw : WellFormed s) (uid : UID) (mn : ManifestName) :
    WellFormed (s.register uid mn) where
  knownEvents_eq u := by simp [EventWorld.register, hw.knownEvents_eq]
  knownDeployedUIDs_eq u := by
    by_cases h : uid = u
    · subst h; simp [EventWorld.register]
    · simp [EventWorld.register, Function.update_noteq (Ne.symm h), h, hw.knownDeployedUIDs_eq]
  mem_descendants u v := by simp [EventWorld.register, hw.mem_descendants]
  nodup_descendants := hw.nodup_descendants

theorem WellFormed.fold_register (hw : WellFormed s) (newUIDs : List (UID × ManifestName)) :
    WellFormed (newUIDs.foldl (fun t e => t.register e.1 e.2) s) := by
  induction newUIDs generalizing s with
  | nil => exact hw
  | cons e es ih => exact ih (hw.register e.1 e.2)

theorem WellFormed.triage (hw : WellFormed s) (e : V1.Event) (tree : List UID) :
    WellFormed (s.step (.triage e tree)) := by
  by_cases h : EventTask.lookup e ∈ s.tasks
  · simp only [EventWorld.step, if_pos h]
    exact {
      knownEvents_eq := fun u => by
        by_cases he : e.uid = u
        · subst he; simp
        · simp [Function.update_noteq (Ne.symm he), he, hw.knownEvents_eq]
      knownDeployedUIDs_eq := by simpa using hw.knownDeployedUIDs_eq
      mem_descendants := fun u v => by
        simp only [EventWatchManager.triageEventUpdate_knownDescendentEventUIDs,
          mem_recordDescendant, hw.mem_descendants, List.mem_append, List.mem_singleton,
          EventObs.triaged.injEq]
        constructor
        · rintro (⟨e', t, he, rfl, hu⟩ | ⟨hu, rfl⟩)
          · exact ⟨e', t, .inl he, rfl, hu⟩
          · exact ⟨e, tree, .inr ⟨rfl, rfl⟩, rfl, hu⟩
        · rintro ⟨e', t, he | ⟨rfl, rfl⟩, rfl, hu⟩
          · exact .inl ⟨e', t, he, rfl, hu⟩
          · exact .inr ⟨hu, rfl⟩
      nodup_descendants := fun u => by simpa using nodup_recordDescendant hw.nodup_descendants u }
  · simpa [EventWorld.step, h] using hw

theorem WellFormed.step (hw : WellFormed s) : ∀ e, WellFormed (s.step e)
  | .receive e => by
    by_cases h : admitsEvent s.tiltStartTime e
    · simpa only [EventWorld.step, if_pos h] using hw.with_tasks (.lookup e :: s.tasks)
    · simpa [EventWorld.step, h] using hw
  | .triage e tree => hw.triage e tree
  | .lookupFailed e => hw.with_tasks (s.tasks.erase (.lookup e))
  | .dispatch e mn => by
    by_cases h : EventTask.triaged e mn ∈ s.tasks
    · simp only [EventWorld.step, if_pos h]
      exact hw.append_quiet (by simp)
    · simpa [EventWorld.step, h] using hw
  | .onChange newUIDs => hw.fold_register newUIDs

theorem WellFormed.of_reachable (h : Reachable s) : WellFormed s := by
  induction h with
  | init t => exact ⟨fun _ => rfl, fun _ => rfl, fun _ _ => by simp, fun _ => List.nodup_nil⟩
  | step e _ ih => exact ih.step e

theorem WellFormed.knownEvents_uid (hw : WellFormed s) {e : V1.Event}
    (h : s.manager.knownEvents u = some e) : e.uid = u :=
  (mem_triagedVersions.mp (List.mem_of_getLast?_eq_some ((hw.knownEvents_eq u).symm.trans h))).2

theorem WellFormed.knownEvents_of_mem (hw : WellFormed s) {v w : UID}
    (h : v ∈ s.manager.knownDescendentEventUIDs w) : ∃ e, s.manager.knownEvents v = some e := by
  obtain ⟨e, t, he, rfl, -⟩ := (hw.mem_descendants w v).mp h
  rw [hw.knownEvents_eq]
  exact Option.ne_none_iff_exists'.mp (mt List.getLast?_eq_none_iff.mp
    (List.ne_nil_of_mem (mem_triagedVersions.mpr ⟨⟨t, he⟩, rfl⟩)))

end EventWorld

namespace EventObs

/-- Whether an entry is a triage of the event with UID `E`. -/
def isTriageOf (E : UID) : EventObs → Bool
  | .triaged e _ => decide (e.uid = E)
  | _ => false

/-- Whether an entry dispatches a `K8sEventAction` for the event `E` with manifest `R`. -/
def isMatchOf (E : UID) (R : ManifestName) : EventObs → Bool
  | .dispatched a => decide (a.event.uid = E ∧ a.manifestName = R)
  | _ => false

end EventObs

/-- Whether a goroutine of `E` was triaged to `R` and waits to dispatch. -/
def EventTask.isPendingOf (E : UID) (R : ManifestName) : EventTask → Bool
  | .triaged e mn => decide (e.uid = E ∧ mn = R)
  | _ => false

namespace EventWorld

def triageCount (E : UID) (tr : List EventObs) : Nat :=
  tr.countP (EventObs.isTriageOf E)

/-- The actions for the event `E` with manifest `R` dispatched in a trace. -/
def matchCount (E : UID) (R : ManifestName) (tr : List EventObs) : Nat :=
  tr.countP (EventObs.isMatchOf E R)

section Replay

variable {E U : UID} {T : List UID} {R : ManifestName}

/-- The conditions of the event replay law on a trace: every triage of `E` reports the tree
`T`, and the only UID of `T` ever registered is `U`, registered at most once and to `R`. -/
structure ReplayHyp (E U : UID) (T : List UID) (R : ManifestName) (tr : List EventObs) :
    Prop where
  tree : ∀ e t, EventObs.triaged e t ∈ tr → e.uid = E → t = T
  only : ∀ u mn, EventObs.registered u mn ∈ tr → u ∈ T → u = U ∧ mn = R
  once : tr.count (.registered U R) ≤ 1

theorem ReplayHyp.of_append {tr new : List EventObs} (h : ReplayHyp E U T R (tr ++ new)) :
    ReplayHyp E U T R tr where
  tree e t ht := h.tree e t (List.mem_append_left _ ht)
  only u mn hu := h.only u mn (List.mem_append_left _ hu)
  once := le_trans (by simp) h.once

theorem ReplayHyp.only_registrations {tr : List EventObs} (hh : ReplayHyp E U T R tr) :
    ∀ u ∈ T, ∀ mn ∈ registrations u tr, u = U ∧ mn = R :=
  fun u hu mn hmn => hh.only u mn (mem_registrations.mp hmn) hu

/-- The replay count of the actions for `E` with `R` in an event world. -/
def ReplayInv (E U : UID) (R : ManifestName) (s : EventWorld) : Prop :=
  ReplayCount (EventObs.registered U R) (EventObs.isMatchOf E R) (EventObs.isTriageOf E)
    (EventTask.isPendingOf E R) s.trace s.tasks

variable {s : EventWorld} {u : UID} {mn : ManifestName}

theorem countP_isPendingOf_erase {t : EventTask} (ht : t.isPendingOf E R = false)
    (tasks : List EventTask) :
    (tasks.erase t).countP (EventTask.isPendingOf E R) =
      tasks.countP (EventTask.isPendingOf E R) := by
  by_cases hm : t ∈ tasks
  · simpa [ht] using countP_erase_add (p := EventTask.isPendingOf E R) hm
  · rw [List.erase_of_not_mem hm]

theorem countP_isPendingOf_triage {e : V1.Event} (rest : List EventTask) :
    ((if mn = "" then [] else [EventTask.triaged e mn]) ++ rest).countP
        (EventTask.isPendingOf E R) =
      rest.countP (EventTask.isPendingOf E R) + if mn ≠ "" ∧ e.uid = E ∧ mn = R then 1 else 0 := by
  by_cases h : mn = "" <;> simp [h, EventTask.isPendingOf, List.countP_cons]

theorem mem_setupNewUID (hw : WellFormed s) {a : K8sEventAction}
    (ha : a ∈ (s.manager.setupNewUID u mn).2) :
    a.manifestName = mn ∧ a.event.uid ∈ s.manager.knownDescendentEventUIDs u := by
  simp only [EventWatchManager.setupNewUID, List.mem_filterMap, Option.map_eq_some'] at ha
  obtain ⟨v, hv, e, he, rfl⟩ := ha
  exact ⟨rfl, hw.knownEvents_uid he ▸ hv⟩

theorem replay_matchCount (hU : U ∈ T) (hw : WellFormed s) (hh : ReplayHyp E U T R s.trace) :
    ((s.manager.setupNewUID U R).2.map .dispatched).countP (EventObs.isMatchOf E R) =
      if 0 < s.trace.countP (EventObs.isTriageOf E) then 1 else 0 := by
  have hmem : E ∈ s.manager.knownDescendentEventUIDs U ↔
      0 < s.trace.countP (EventObs.isTriageOf E) := by
    rw [hw.mem_descendants, List.countP_pos_iff]
    constructor
    · rintro ⟨e, t, he, rfl, -⟩
      exact ⟨_, he, by simp [EventObs.isTriageOf]⟩
    · rintro ⟨o, ho, hE⟩
      cases o <;> simp only [EventObs.isTriageOf, decide_eq_true_eq, Bool.false_eq_true] at hE
      rename_i e t
      exact ⟨e, t, ho, hE, hh.tree e t ho hE ▸ hU⟩
  simp only [EventWatchManager.setupNewUID, List.countP_map, List.countP_filterMap]
  rw [List.countP_congr (q := (· == E)) fun v hv => by
      obtain ⟨e, he⟩ := hw.knownEvents_of_mem hv
      simp [he, EventObs.isMatchOf, hw.knownEvents_uid he],
    ← List.count_eq_countP]
  split
  · exact List.count_eq_one_of_mem (hw.nodup_descendants U) (hmem.mpr ‹_›)
  · exact List.count_eq_zero_of_not_mem (mt hmem.mp ‹_›)

theorem ReplayInv.register (hU : U ∈ T) (hw : WellFormed s) (hi : ReplayInv E U R s)
    (hh : ReplayHyp E U T R (s.register u mn).trace) : ReplayInv E U R (s.register u mn) := by
  have hh₀ : ReplayHyp E U T R s.trace :=
    (show ReplayHyp E U T R (s.trace ++ _) from hh).of_append
  have hreg_acts : EventObs.registered U R ∉ (s.manager.setupNewUID u mn).2.map .dispatched := by
    simp
  have htri : (EventObs.registered u mn :: (s.manager.setupNewUID u mn).2.map .dispatched).countP
      (EventObs.isTriageOf E) = 0 := by
    simp [EventObs.isTriageOf]
  by_cases hUR : u = U ∧ mn = R
  · obtain ⟨rfl, rfl⟩ := hUR
    have hnot : EventObs.registered u mn ∉ s.trace := by
      have := hh.once
      simp only [EventWorld.register, List.count_append, List.count_cons_self] at this
      exact List.count_eq_zero.mp (by omega)
    refine hi.start hnot hreg_acts ?_ htri rfl
    rw [List.countP_cons, if_neg (by simp [EventObs.isMatchOf]), Nat.add_zero]
    exact replay_matchCount hU hw hh₀
  · have hu : u ∉ T := fun hu => hUR (hh.only u mn (by simp [EventWorld.register]) hu)
    refine hi.quiet ?_ ?_ htri rfl
    · simp only [List.mem_cons, EventObs.registered.injEq, hreg_acts, or_false]
      rintro ⟨rfl, -⟩
      exact hu hU
    · simp only [List.countP_eq_zero, List.mem_cons, List.mem_map]
      rintro o (rfl | ⟨a, ha, rfl⟩)
      · simp [EventObs.isMatchOf]
      · obtain ⟨e, t, he, hE, hut⟩ := (hw.mem_descendants u _).mp (mem_setupNewUID hw ha).2
        simp only [EventObs.isMatchOf, decide_eq_true_eq, not_and]
        intro hEa
        exact absurd (hh₀.tree e t he (hE.trans hEa) ▸ hut) hu

theorem ReplayInv.triage (hU : U ∈ T) (hR : R ≠ "") (hw : WellFormed s) (hi : ReplayInv E U R s)
    {e : V1.Event} {tree : List UID} (hh : ReplayHyp E U T R (s.step (.triage e tree)).trace) :
    ReplayInv E U R (s.step (.triage e tree)) := by
  by_cases h : EventTask.lookup e ∈ s.tasks
  swap
  · simpa [EventWorld.step, h] using hi
  have hh₀ : ReplayHyp E U T R s.trace := by
    simp only [EventWorld.step, if_pos h] at hh; exact hh.of_append
  have hpend := countP_isPendingOf_erase (E := E) (R := R) (t := .lookup e) rfl s.tasks
  simp only [EventWorld.step, if_pos h] at hh ⊢
  by_cases he : e.uid = E
  · obtain rfl : tree = T := hh.tree e tree (by simp) he
    by_cases hold : EventObs.registered U R ∈ s.trace
    · have hr : (s.manager.triageEventUpdate e tree).2 = R :=
        EventWatchManager.triageEventUpdate_of_findDeployed (findDeployed_of_registered
          hw.knownDeployedUIDs_eq hh₀.only_registrations hU (mem_registrations.mpr hold))
      refine hi.extend hold (by simp) ?_
      dsimp only
      rw [countP_isPendingOf_triage, hpend]
      simp [hr, hR, he, EventObs.isMatchOf, EventObs.isTriageOf]
    · have hr : (s.manager.triageEventUpdate e tree).2 = "" :=
        EventWatchManager.triageEventUpdate_of_findDeployed_none (findDeployed_of_unregistered
          hw.knownDeployedUIDs_eq hh₀.only_registrations (mt mem_registrations.mp hold))
      have hb := hi.before hold
      refine ReplayCount.of_unregistered (by simp [hold]) ?_ ?_
      · simpa [EventObs.isMatchOf] using hb.1
      · dsimp only
        rw [countP_isPendingOf_triage, hpend]
        simp [hr, hb.2]
  · refine hi.quiet (by simp) (by simp [EventObs.isMatchOf]) (by simp [EventObs.isTriageOf, he]) ?_
    dsimp only
    rw [countP_isPendingOf_triage, hpend]
    simp [he]

theorem ReplayInv.dispatch (hi : ReplayInv E U R s) {e : V1.Event} :
    ReplayInv E U R (s.step (.dispatch e mn)) := by
  by_cases h : EventTask.triaged e mn ∈ s.tasks
  swap
  · simpa [EventWorld.step, h] using hi
  have hc := countP_erase_add (p := EventTask.isPendingOf E R) h
  have hmatch : [EventObs.dispatched ⟨e, mn⟩].countP (EventObs.isMatchOf E R) =
      if (EventTask.triaged e mn).isPendingOf E R then 1 else 0 := by
    simp [EventObs.isMatchOf, EventTask.isPendingOf, List.countP_cons]
  have htri : [EventObs.dispatched ⟨e, mn⟩].countP (EventObs.isTriageOf E) = 0 := rfl
  simp only [EventWorld.step, if_pos h]
  by_cases hold : EventObs.registered U R ∈ s.trace
  · refine hi.extend hold (by simp) ?_
    dsimp only
    rw [hmatch, htri]
    omega
  · have hb := hi.before hold
    cases hcb : (EventTask.triaged e mn).isPendingOf E R
    · simp only [hcb] at hc hmatch
      refine ReplayCount.of_unregistered (by simp [hold]) ?_ (by dsimp only; omega)
      simp [List.countP_append, hb.1, hmatch]
    · have := List.countP_pos_iff.mpr ⟨_, h, hcb⟩
      omega

theorem ReplayInv.fold_register (hU : U ∈ T) (hw : WellFormed s) (hi : ReplayInv E U R s)
    (l : List (UID × ManifestName))
    (hh : ReplayHyp E U T R (l.foldl (fun t e => t.register e.1 e.2) s).trace) :
    ReplayInv E U R (l.foldl (fun t e => t.register e.1 e.2) s) := by
  induction l generalizing s with
  | nil => exact hi
  | cons e es ih =>
    obtain ⟨new, hnew⟩ := fold_register_trace es (s.register e.1 e.2)
    exact ih (hw.register _ _) (hi.register hU hw (hnew ▸ hh).of_append) hh

theorem ReplayInv.step (hU : U ∈ T) (hR : R ≠ "") (hw : WellFormed s) (hi : ReplayInv E U R s)
    (e : EventStep) (hh : ReplayHyp E U T R (s.step e).trace) : ReplayInv E U R (s.step e) := by
  cases e with
  | receive e =>
    by_cases h : admitsEvent s.tiltStartTime e
    · simp only [EventWorld.step, if_pos h]
      exact hi.of_tasks (by simp [EventTask.isPendingOf, List.countP_cons])
    · simpa [EventWorld.step, h] using hi
  | triage e tree => exact hi.triage hU hR hw hh
  | lookupFailed e => exact hi.of_tasks (countP_isPendingOf_erase (t := .lookup e) rfl s.tasks)
  | dispatch e mn => exact hi.dispatch
  | onChange newUIDs => exact hi.fold_register hU hw newUIDs hh

theorem ReplayInv.of_reachable (hU : U ∈ T) (hR : R ≠ "") (h : Reachable s)
    (hh : ReplayHyp E U T R s.trace) : ReplayInv E U R s := by
  induction h with
  | init t => exact ReplayCount.init
  | @step s e hs ih =>
    obtain ⟨new, hnew⟩ := s.step_trace e
    exact (ih (hnew ▸ hh).of_append).step hU hR (WellFormed.of_reachable hs) e hh

end Replay

/-- The event replay law: take a run from any start time, an event `E` whose triages all
report the owner tree `T`, and a UID `U` of `T` that is the only UID of `T` ever registered,
registered once, to `R`. When no goroutine of `E` is left between its triage and its
dispatch, the store holds one action for `E` with `R` per triage of `E` after the
registration, plus one from the replay if `E` was triaged before it. -/
theorem replayed_events_match_once (t₀ : Time) (steps : List EventStep) {E U : UID}
    {T : List UID} {R : ManifestName} (hU : U ∈ T) (hR : R ≠ "") {pre post : List EventObs}
    (hsplit : (run { tiltStartTime := t₀ } steps).trace = pre ++ .registered U R :: post)
    (honly : ∀ u mn, EventObs.registered u mn ∈ pre ++ post → u ∉ T)
    (htree : ∀ e t, EventObs.triaged e t ∈ (run { tiltStartTime := t₀ } steps).trace →
      e.uid = E → t = T)
    (hdone : ∀ e mn, EventTask.triaged e mn ∈ (run { tiltStartTime := t₀ } steps).tasks →
      e.uid ≠ E) :
    matchCount E R (run { tiltStartTime := t₀ } steps).trace =
      triageCount E post + if 0 < triageCount E pre then 1 else 0 := by
  have hnot : EventObs.registered U R ∉ pre ++ post := fun h => honly U R h hU
  have hh : ReplayHyp E U T R (run { tiltStartTime := t₀ } steps).trace := {
    tree := htree
    only := fun u mn h hu => by
      by_cases he : EventObs.registered u mn = .registered U R
      · exact EventObs.registered.inj he
      · refine absurd hu (honly u mn ?_)
        rw [hsplit] at h
        simp only [List.mem_append, List.mem_cons] at h ⊢
        tauto
    once := by
      rw [hsplit, List.count_append, List.count_cons_self,
        List.count_eq_zero.mpr fun h => hnot (List.mem_append_left _ h),
        List.count_eq_zero.mpr fun h => hnot (List.mem_append_right _ h)] }
  have hi := ReplayInv.of_reachable hU hR (reachable_run t₀ steps) hh
  have hp : (run { tiltStartTime := t₀ } steps).tasks.countP (EventTask.isPendingOf E R) = 0 := by
    rw [List.countP_eq_zero]
    intro t ht
    cases t <;> simp only [EventTask.isPendingOf, decide_eq_true_eq, Bool.false_eq_true,
      not_false_eq_true]
    exact fun h => absurd h.1 (hdone _ _ ht)
  have := hi.after pre post hsplit
  simp only [matchCount, triageCount]
  omega

/-- A warning about `web-1` is triaged before the deploy of `rs1` is registered: the replay
logs it once, and the triage of its next delivery logs it once more. -/
theorem replayed_events_match_once_late_deploy :
    let ev : V1.Event := { uid := "e1", name := "web-1.17f", eventType := "Warning" }
    let steps : List EventStep := [.receive ev, .triage ev ["web-1", "rs1"],
      .onChange [("rs1", "web")], .receive ev, .triage ev ["web-1", "rs1"], .dispatch ev "web"]
    let a : K8sEventAction := ⟨ev, "web"⟩
    matchCount "e1" "web" (run { tiltStartTime := 0 } steps).trace =
      triageCount "e1" [.dispatched a, .triaged ev ["web-1", "rs1"], .dispatched a] +
        if 0 < triageCount "e1" [.triaged ev ["web-1", "rs1"]] then 1 else 0 := by
  intro ev steps a
  have h : (run { tiltStartTime := 0 } steps).trace =
      [.triaged ev ["web-1", "rs1"]] ++ .registered "rs1" "web" ::
        [.dispatched a, .triaged ev ["web-1", "rs1"], .dispatched a] := by decide
  have htasks : (run { tiltStartTime := 0 } steps).tasks = [] := by decide
  exact replayed_events_match_once (T := ["web-1", "rs1"]) 0 steps (by decide) (by decide) h
    (by simp) (by rw [h]; simp) (by simp [htasks])

end EventWorld

end TiltWatch