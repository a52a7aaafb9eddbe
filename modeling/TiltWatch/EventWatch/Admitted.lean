import TiltWatch.EventWatch.Replay

/-! # Only admitted events are logged

`dispatchEventsLoop` spawns a goroutine only for an event created no earlier than Tilt's
start and worth logging (`ShouldLogEvent`). The goroutine triages the event it holds, and
the triage remembers that event in `knownEvents`; the replays of `setupNewUIDs` dispatch only
known events. So in every run, every `K8sEventAction` the store receives, from a goroutine
or from a replay, is for an event the loop admitted: the replays add no path around the
filter.
-/

namespace TiltWatch

def EventTask.event : EventTask → V1.Event
  | .lookup e => e
  | .triaged e _ => e

def EventObs.event? : EventObs → Option V1.Event
  | .triaged e _ => some e
  | .registered _ _ => none
  | .dispatched a => some a.event

namespace EventWorld

/-- Every goroutine holds an admitted event, and every entry of the trace is about one. -/
structure Admitted (s : EventWorld) : Prop where
  tasks : ∀ t ∈ s.tasks, admitsEvent s.tiltStartTime t.event = true
  trace : ∀ o ∈ s.trace, ∀ e, o.event? = some e → admitsEvent s.tiltStartTime e = true

variable {s : EventWorld}

theorem Admitted.register (hw : WellFormed s) (h : s.Admitted) (uid : UID) (mn : ManifestName) :
    (s.register uid mn).Admitted where
  tasks := h.tasks
  trace o ho e he := by
    simp only [EventWorld.register, List.mem_append, List.mem_cons, List.mem_map] at ho
    rcases ho with ho | rfl | ⟨a, ha, rfl⟩
    · exact h.trace o ho e he
    · cases he
    · simp only [EventObs.event?, Option.some.injEq] at he
      subst he
      simp only [EventWatchManager.setupNewUID, List.mem_filterMap, Option.map_eq_some'] at ha
      obtain ⟨v, -, e', hv, rfl⟩ := ha
      rw [hw.knownEvents_eq] at hv
      obtain ⟨⟨t, ht⟩, -⟩ := mem_triagedVersions.mp (List.mem_of_getLast?_eq_some hv)
      exact h.trace _ ht e' rfl

theorem Admitted.fold_register (hw : WellFormed s) (h : s.Admitted)
    (newUIDs : List (UID × ManifestName)) :
    (newUIDs.foldl (fun t e => t.register e.1 e.2) s).Admitted := by
  induction newUIDs generalizing s with
  | nil => exact h
  | cons e es ih => exact ih (hw.register e.1 e.2) (h.register hw e.1 e.2)

theorem Admitted.step (hw : WellFormed s) (h : s.Admitted) : ∀ e, (s.step e).Admitted
  | .receive e => by
    by_cases ha : admitsEvent s.tiltStartTime e
    · simp only [EventWorld.step, if_pos ha]
      refine ⟨fun t ht => ?_, h.trace⟩
      rcases List.mem_cons.mp ht with rfl | ht
      · exact ha
      · exact h.tasks t ht
    · simpa [EventWorld.step, ha] using h
  | .triage e tree => by
    by_cases hl : EventTask.lookup e ∈ s.tasks
    · have he := h.tasks _ hl
      simp only [EventWorld.step, if_pos hl]
      refine ⟨fun t ht => ?_, fun o ho e' he' => ?_⟩
      · rcases List.mem_append.mp ht with ht | ht
        · split_ifs at ht
          · cases ht
          · rw [List.mem_singleton.mp ht]; exact he
        · exact h.tasks t (List.mem_of_mem_erase ht)
      · rcases List.mem_append.mp ho with ho | ho
        · exact h.trace o ho e' he'
        · rw [List.mem_singleton.mp ho] at he'
          cases he'; exact he
    · simpa [EventWorld.step, hl] using h
  | .lookupFailed e => ⟨fun t ht => h.tasks t (List.mem_of_mem_erase ht), h.trace⟩
  | .dispatch e mn => by
    by_cases ht : EventTask.triaged e mn ∈ s.tasks
    · have he := h.tasks _ ht
      simp only [EventWorld.step, if_pos ht]
      refine ⟨fun t ht => h.tasks t (List.mem_of_mem_erase ht), fun o ho e' he' => ?_⟩
      rcases List.mem_append.mp ho with ho | ho
      · exact h.trace o ho e' he'
      · rw [List.mem_singleton.mp ho] at he'
        cases he'; exact he
    · simpa [EventWorld.step, ht] using h
  | .onChange newUIDs => h.fold_register hw newUIDs

theorem Admitted.of_reachable (h : Reachable s) : s.Admitted := by
  induction h with
  | init t => exact ⟨fun _ h => (nomatch h), fun _ h => (nomatch h)⟩
  | step e hs ih => exact ih.step (WellFormed.of_reachable hs) e

theorem run_tiltStartTime (t₀ : Time) (steps : List EventStep) :
    (run { tiltStartTime := t₀ } steps).tiltStartTime = t₀ := by
  suffices ∀ s : EventWorld, (run s steps).tiltStartTime = s.tiltStartTime from this _
  induction steps with
  | nil => exact fun _ => rfl
  | cons e es ih =>
    intro s
    have hstep : (s.step e).tiltStartTime = s.tiltStartTime := by
      cases e with
      | onChange newUIDs =>
        induction newUIDs generalizing s with
        | nil => rfl
        | cons d ds ihd => exact ihd (s.register d.1 d.2)
      | _ => simp only [EventWorld.step] <;> split_ifs <;> rfl
    exact (ih _).trans hstep

/-- In every run from Tilt's start, every `K8sEventAction` the store receives, from a triage
goroutine or from a replay of `setupNewUIDs`, is for an event created no earlier than Tilt's
start and worth logging: a warning, or a normal image pull. -/
theorem logged_events_pass_filter (t₀ : Time) (steps : List EventStep) (a : K8sEventAction)
    (ha : EventObs.dispatched a ∈ (run { tiltStartTime := t₀ } steps).trace) :
    t₀ ≤ a.event.creationTimestamp ∧ shouldLogEvent a.event = true := by
  have h := (Admitted.of_reachable (reachable_run t₀ steps)).trace _ ha a.event rfl
  rw [run_tiltStartTime] at h
  simp only [admitsEvent, Bool.and_eq_true, Bool.not_eq_true', decide_eq_false_iff_not] at h
  exact ⟨Nat.not_lt.mp h.1, h.2⟩

/-- A back-off warning created after Tilt started, triaged under a deployed UID and
dispatched. -/
theorem logged_events_pass_filter_backoff :
    let ev : V1.Event :=
      { uid := "e1", name := "web-1.back-off", creationTimestamp := 10, eventType := "Warning",
        reason := "BackOff" }
    let steps : List EventStep :=
      [.onChange [("d1", "web")], .receive ev, .triage ev ["p1", "d1"], .dispatch ev "web"]
    EventObs.dispatched ⟨ev, "web"⟩ ∈ (run { tiltStartTime := 5 } steps).trace ∧
      5 ≤ ev.creationTimestamp ∧ shouldLogEvent ev = true := by
  intro ev steps
  have hmem : EventObs.dispatched ⟨ev, "web"⟩ ∈ (run { tiltStartTime := 5 } steps).trace := by
    decide
  exact ⟨hmem, logged_events_pass_filter 5 steps _ hmem⟩

end EventWorld

end TiltWatch
