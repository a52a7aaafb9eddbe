import TiltWatch.PortForward.Controller

/-! # What `diff` and `OnChange` guarantee of the port-forward entries

`diff`'s loop keeps one invariant: an entry whose context is neither cancelled nor queued for
shutdown is the entry the map holds for its pod, and every entry has a context of its own.
The second loop shuts down every entry it deletes, and `OnChange` cancels what `diff` shuts
down, so across every run of `OnChange` an uncancelled entry, and each loop it started, is
the one the map holds for its pod.

One `diff` settles the map when targets whose forwarded pods share a `PodID` forward the same
ports: each forwarded pod has one entry, with its forwards, and a second `diff` of the same
state does nothing. Targets that forward one pod differently fight over its entry.
-/

namespace TiltWatch

namespace Portforward

/-- Every entry made so far has a context of its own, numbered below the counter. -/
def Fresh (entries : List PortForwardEntry) (next : Nat) : Prop :=
  (entries.map (·.ctx)).Nodup ∧ ∀ e ∈ entries, e.ctx < next

theorem Fresh.snoc {es : List PortForwardEntry} {n : Nat} (h : Fresh es n)
    (e : PortForwardEntry) (he : e.ctx = n) : Fresh (es ++ [e]) (n + 1) := by
  refine ⟨?_, ?_⟩
  · rw [List.map_append, List.nodup_append]
    refine ⟨h.1, List.nodup_singleton _, List.disjoint_singleton.mpr fun hn => ?_⟩
    obtain ⟨e', he', hctx⟩ := List.mem_map.mp hn
    exact absurd (hctx.trans he) (h.2 e' he').ne
  · simp only [List.mem_append, List.mem_singleton]
    rintro e' (he' | rfl)
    · exact Nat.lt_succ_of_lt (h.2 e' he')
    · omega

section DiffInv

variable {created : List PortForwardEntry} {cancelled : List Nat} {d : DiffState}
  {entry : PortForwardEntry}

/-- What `diff`'s first loop keeps, given the entries made and the contexts cancelled before
it: an entry made before or during the loop whose context is neither cancelled nor queued for
shutdown is the map's entry for its pod, and the contexts stay fresh. -/
structure DiffState.Inv (created : List PortForwardEntry) (cancelled : List Nat)
    (d : DiffState) : Prop where
  active : ∀ e ∈ created ++ d.toStart, e.ctx ∉ cancelled ++ d.toShutdown.map (·.ctx) →
    d.activeForwards.get? e.podID = some e
  fresh : Fresh (created ++ d.toStart) d.nextCtx

theorem DiffState.Inv.start (h : d.Inv created cancelled) (hctx : entry.ctx = d.nextCtx)
    (hfree : ∀ e ∈ created ++ d.toStart, e.ctx ∉ cancelled ++ d.toShutdown.map (·.ctx) →
      e.podID ≠ entry.podID) :
    (d.start entry).Inv created cancelled where
  active e he hc := by
    have he' : e ∈ (created ++ d.toStart) ++ [entry] := by rw [List.append_assoc]; exact he
    rcases List.mem_append.mp he' with he | he
    · exact (KeyedMap.get?_set_of_ne (hfree e he hc)).trans (h.active e he hc)
    · rw [List.mem_singleton.mp he]
      exact KeyedMap.get?_set_self
  fresh := by simpa [DiffState.start, ← List.append_assoc] using h.fresh.snoc entry hctx

theorem DiffState.Inv.diffTarget (h : d.Inv created cancelled) (mt : ManifestTarget) :
    (diffTarget d mt).Inv created cancelled := by
  cases hf : forwardedPod mt with
  | none => rwa [diffTarget_of_none hf]
  | some x =>
    rcases diffTarget_cases (d := d) hf with ⟨_, -, -, he⟩ | ⟨old, hg, -, he⟩ | ⟨hg, he⟩ <;>
      rw [he]
    · exact ⟨h.active, h.fresh⟩
    · -- the old entry is queued for shutdown, so only it could still hold the pod
      have hsub : cancelled ++ d.toShutdown.map (·.ctx) ⊆
          cancelled ++ (d.toShutdown ++ [old]).map (·.ctx) := by
        rw [List.map_append, ← List.append_assoc]
        exact List.subset_append_left _ _
      refine DiffState.Inv.start ⟨fun e he hc => h.active e he (hc ∘ (hsub ·)), h.fresh⟩ rfl
        fun e he hc hid => hc ?_
      have hg' := h.active e he (hc ∘ (hsub ·))
      rw [hid, hg] at hg'
      cases hg'
      simp
    · refine DiffState.Inv.start ⟨h.active, h.fresh⟩ rfl fun e he hc hid => ?_
      have hg' := h.active e he hc
      rw [hid, hg] at hg'
      cases hg'

theorem DiffState.Inv.foldl (h : d.Inv created cancelled) (targets : List ManifestTarget) :
    (targets.foldl Portforward.diffTarget d).Inv created cancelled := by
  induction targets generalizing d with
  | nil => exact h
  | cons mt targets ih => exact ih (h.diffTarget mt)

end DiffInv

namespace World

/-- The invariant of `OnChange`: an entry whose context is not cancelled is the map's entry
for its pod, every entry has a context of its own, and every loop belongs to an entry. -/
structure Inv (w : World) : Prop where
  active : ∀ e ∈ w.created, e.ctx ∉ w.cancelled →
    w.controller.activeForwards.get? e.podID = some e
  fresh : Fresh w.created w.controller.nextCtx
  loops : ∀ l ∈ w.loops, l.1 ∈ w.created

theorem inv_init : ({} : World).Inv :=
  ⟨by simp, by simp [Fresh], by simp⟩

variable {w : World}

theorem Inv.onChange (h : w.Inv) (state : EngineState) : (w.onChange state).Inv := by
  let d := state.manifestTargets.foldl diffTarget
    { activeForwards := w.controller.activeForwards, nextCtx := w.controller.nextCtx }
  have hd : d.Inv w.created w.cancelled :=
    DiffState.Inv.foldl ⟨by simpa using h.active, by simpa using h.fresh⟩ _
  have heq : w.onChange state =
      { controller := ⟨d.activeForwards.filter (d.statePods.contains ·), d.nextCtx⟩
        created := w.created ++ d.toStart
        cancelled := w.cancelled ++
          (d.toShutdown ++ d.activeForwards.dropped (d.statePods.contains ·)).map (·.ctx)
        loops := w.loops ++ d.toStart.flatMap fun entry => entry.forwards.map (entry, ·) } := rfl
  rw [heq]
  refine ⟨fun e he hc => ?_, hd.fresh, fun l hl => ?_⟩
  · have hc' : e.ctx ∉ w.cancelled ++ d.toShutdown.map (·.ctx) := fun h' =>
      hc (by simp only [List.map_append, ← List.append_assoc]; exact List.mem_append_left _ h')
    have hmem := (KeyedMap.get?_spec (hd.active e he hc')).1
    have hkeep : e.podID ∈ d.statePods := by
      by_contra hn
      exact hc (List.mem_append_right _ (List.mem_map_of_mem _
        (List.mem_append_right _ (KeyedMap.mem_dropped.mpr ⟨hmem, by simpa using hn⟩))))
    exact KeyedMap.get?_eq_some.mpr ⟨KeyedMap.mem_filter.mpr ⟨hmem, by simpa using hkeep⟩, rfl⟩
  · simp only [List.mem_append, List.mem_flatMap, List.mem_map] at hl ⊢
    rcases hl with hl | ⟨entry, he, f, -, rfl⟩
    · exact .inl (h.loops l hl)
    · exact .inr he

theorem Inv.run (h : w.Inv) (states : List EngineState) : (w.run states).Inv := by
  induction states generalizing w with
  | nil => exact h
  | cons state states ih => exact ih (h.onChange state)

end World

/-- After any run of `OnChange` from a new controller, an entry whose context is not cancelled
is the map's entry for its pod. So each pod has at most one such entry, an entry replaced or
deleted has been cancelled, and a loop whose context is live belongs to the pod's entry. -/
theorem uncancelled_entry_is_active (states : List EngineState) :
    let w := World.run {} states
    (∀ e ∈ w.created, e.ctx ∉ w.cancelled → w.controller.activeForwards.get? e.podID = some e) ∧
    (∀ e₁ ∈ w.created, ∀ e₂ ∈ w.created, e₁.ctx ∉ w.cancelled → e₂.ctx ∉ w.cancelled →
      e₁.podID = e₂.podID → e₁ = e₂) ∧
    (∀ l ∈ w.loops, l.1.ctx ∉ w.cancelled →
      w.controller.activeForwards.get? l.1.podID = some l.1) := by
  intro w
  have h : w.Inv := World.inv_init.run states
  refine ⟨h.active, fun e₁ h₁ e₂ h₂ c₁ c₂ hid => ?_, fun l hl => h.active l.1 (h.loops l hl)⟩
  have hg := h.active e₂ h₂ c₂
  rw [← hid, h.active e₁ h₁ c₁] at hg
  exact Option.some.inj hg

/-- What one `diff` leaves for a store state: one entry for each forwarded pod and no other,
each with its target's forwards, and nothing for a second `diff` of the state to do. -/
structure Settles (c : Controller) (state : EngineState) : Prop where
  keys : ∀ podID, (∃ e ∈ c.activeForwards.entries, e.podID = podID) ↔
    podID ∈ forwardedPodIDs state.manifestTargets
  forwards : ∀ mt ∈ state.manifestTargets, ∀ x ∈ forwardedPod mt,
    ∃ e, c.activeForwards.get? x.1.podID = some e ∧ e.forwards = x.2
  idempotent : (c.diff state).2 = ([], [])

/-- When targets that forward one pod forward the same ports, one `diff` settles the map, from
any map. -/
theorem diff_settles (c : Controller) (state : EngineState)
    (hagree : ForwardsAgree state.manifestTargets) : Settles (c.diff state).1 state := by
  let d := state.manifestTargets.foldl diffTarget
    { activeForwards := c.activeForwards, nextCtx := c.nextCtx }
  have hpods : d.statePods = forwardedPodIDs state.manifestTargets := by
    simp [d, foldl_statePods]
  have hmem : ∀ {e}, e ∈ (c.diff state).1.activeForwards.entries ↔
      e ∈ d.activeForwards.entries ∧ e.podID ∈ forwardedPodIDs state.manifestTargets := by
    intro e
    rw [← hpods]
    exact KeyedMap.mem_filter.trans (by simp)
  have hfwd : ∀ mt ∈ state.manifestTargets, ∀ x ∈ forwardedPod mt,
      ∃ e, (c.diff state).1.activeForwards.get? x.1.podID = some e ∧ e.forwards = x.2 := by
    intro mt hmt x hx
    obtain ⟨e, hg, hf⟩ := foldl_get?_of_forwarded _ _ hagree hmt hx
    have hspec := KeyedMap.get?_spec hg
    refine ⟨e, KeyedMap.get?_eq_some.mpr ⟨hmem.mpr ⟨hspec.1, ?_⟩, hspec.2⟩, hf⟩
    exact hspec.2 ▸ mem_forwardedPodIDs.mpr ⟨mt, hmt, x, hx, rfl⟩
  refine ⟨fun podID => ⟨?_, fun hp => ?_⟩, hfwd, ?_⟩
  · rintro ⟨e, he, rfl⟩
    exact (hmem.mp he).2
  · obtain ⟨mt, hmt, x, hx, rfl⟩ := mem_forwardedPodIDs.mp hp
    obtain ⟨e, hg, -⟩ := hfwd mt hmt x hx
    exact ⟨e, KeyedMap.get?_spec hg⟩
  · exact diff_of_settled _ _ hfwd fun e he => (hmem.mp he).2

/-- Manifests `api` and `web` forward pods of their own; `web`'s forward takes its pod's
container port. -/
theorem diff_settles_two_pods :
    let api : ManifestTarget := ⟨{ name := "api", portForwards := [⟨9000, 90, ""⟩] },
      { name := "api", runtimeState := { pods := [{ podID := "api-1", phase := .running }] } }⟩
    let web : ManifestTarget := ⟨{ name := "web", portForwards := [⟨8000, 0, ""⟩] },
      { name := "web", runtimeState :=
        { pods := [{ podID := "web-1", phase := .running, containers := [{ ports := [80] }] }] } }⟩
    let state : EngineState := { manifestTargets := [api, web] }
    ForwardsAgree state.manifestTargets ∧ Settles (({} : Controller).diff state).1 state := by
  intro api web state
  exact ⟨by decide, diff_settles {} state (by decide)⟩

/-- Manifests `api` and `web` whose most recent pod is the same `pod-1` forward it
differently. `web`, the later target, takes the entry, so the entry does not hold `api`'s
forwards, and a second `diff` of the same state restarts it. -/
theorem shared_pod_forwards_restart :
    let pod : Pod := { podID := "pod-1", phase := .running }
    let api : ManifestTarget := ⟨{ name := "api", portForwards := [⟨9000, 90, ""⟩] },
      { name := "api", runtimeState := { pods := [pod] } }⟩
    let web : ManifestTarget := ⟨{ name := "web", portForwards := [⟨8000, 80, ""⟩] },
      { name := "web", runtimeState := { pods := [pod] } }⟩
    let state : EngineState := { manifestTargets := [api, web] }
    let c := (({} : Controller).diff state).1
    forwardedPod api = some (pod, [⟨9000, 90, ""⟩]) ∧
      (c.activeForwards.get? "pod-1").map (·.forwards) = some [⟨8000, 80, ""⟩] ∧
      (c.diff state).2 ≠ ([], []) := by
  decide

end Portforward

end TiltWatch
