import TiltWatch.Reducer.Restarts

/-! # Restart resets, issued and applied later

A reset of a pod's restarts takes two steps. The UI issues a `PodResetRestartsAction` with
the visible restarts the store shows, and the store applies it later with
`handlePodResetRestartsAction`, which moves the baseline by the count the action saw and so
keeps the restarts that came since. Changes of the pod may raise its restarts in between.

`ResetWorld` is the engine with the resets of one pod that were issued and not yet applied,
each with the pod's restarts at its issue as a ghost. While at most one reset is pending,
each apply leaves visible exactly the restarts gained since its issue, and the visible
restarts are never negative. Two resets issued from the same count, as a double click makes
them, move the baseline twice, and the visible restarts turn negative.
-/

namespace TiltWatch

/-- The engine, and the resets of one pod issued and not yet applied, each with the pod's
`AllContainerRestarts` when it was issued. -/
structure ResetWorld where
  engine : EngineState
  pending : List (PodResetRestartsAction × Int) := []

/-- Issue a reset, apply the `i`-th pending reset, or apply a change action. -/
inductive ResetStep
  | issue
  | apply (i : Nat)
  | change (now : Time) (a : PodChangeAction)
  deriving DecidableEq, Repr

namespace ResetWorld

variable (mn : ManifestName) (n : PodID)

/-- Modelled from the spec: the UI's reset of pod `n` of manifest `mn` carries the visible
restarts the store shows; the pod's restarts ride along as a ghost. -/
def issueReset (st : EngineState) : Option (PodResetRestartsAction × Int) :=
  (st.trackedPod? mn n).map fun p =>
    (⟨n, mn, p.visibleContainerRestarts⟩, p.allContainerRestarts)

def step (s : ResetWorld) : ResetStep → ResetWorld
  | .issue =>
    match issueReset mn n s.engine with
    | some e => { s with pending := s.pending ++ [e] }
    | none => s
  | .apply i =>
    match s.pending[i]? with
    | some e => ⟨handlePodResetRestartsAction s.engine e.1, s.pending.eraseIdx i⟩
    | none => s
  | .change now a => { s with engine := handlePodChangeAction now s.engine a }

def run (s : ResetWorld) (steps : List ResetStep) : ResetWorld :=
  steps.foldl (step mn n) s

/-- A change of pod `n` that reaches its tracked record without tracking it afresh, and does
not lower its restarts: accepted, of the current deploy, through the runtime's ancestor or
none, and neither deleting nor terminated. -/
def RaisesRestarts (st : EngineState) (a : PodChangeAction) : Prop :=
  match st.manifestTarget? mn with
  | none => False
  | some mt =>
    match mt.state.runtimeState.pod? n with
    | none => False
    | some r =>
      a.manifestName = mn ∧ a.pod.name = n ∧ a.pod.Live ∧
      (a.matchedAncestorUID = "" ∨ a.matchedAncestorUID ∈ mt.state.runtimeState.deployedUIDSet) ∧
      mt.state.runtimeState.hasOKPodTemplateSpecHash a.pod = true ∧
      mt.state.runtimeState.podAncestorUID ≠ "" ∧
      (a.matchedAncestorUID = "" ∨ a.matchedAncestorUID = mt.state.runtimeState.podAncestorUID) ∧
      r.allContainerRestarts ≤ (a.pod.containers.map (·.restarts)).sum

instance (st : EngineState) : DecidablePred (RaisesRestarts mn n st) := fun a => by
  unfold RaisesRestarts
  cases st.manifestTarget? mn with
  | none => exact instDecidableFalse
  | some mt =>
    dsimp only
    cases mt.state.runtimeState.pod? n with
    | none => exact instDecidableFalse
    | some r => exact inferInstance

/-- The steps of a reset protocol with one reset in flight: the UI issues a reset only when
none is pending, and a change of the pod only raises the restarts of its tracked record. -/
def Admits (s : ResetWorld) : ResetStep → Prop
  | .issue => s.pending = []
  | .apply _ => True
  | .change _ a => RaisesRestarts mn n s.engine a

instance (s : ResetWorld) : DecidablePred (Admits mn n s)
  | .issue => inferInstanceAs (Decidable (_ = _))
  | .apply _ => instDecidableTrue
  | .change _ _ => inferInstanceAs (Decidable (RaisesRestarts _ _ _ _))

def Admissible : ResetWorld → List ResetStep → Prop
  | _, [] => True
  | s, e :: es => Admits mn n s e ∧ Admissible (step mn n s e) es

instance decidableAdmissible : (s : ResetWorld) → (steps : List ResetStep) →
    Decidable (Admissible mn n s steps)
  | _, [] => instDecidableTrue
  | s, e :: es =>
    have := decidableAdmissible (step mn n s e) es
    inferInstanceAs (Decidable (_ ∧ _))

end ResetWorld

section Effects

variable {st : EngineState} {mn : ManifestName} {n : PodID} {r : Pod} {a : PodChangeAction}

theorem trackedPod?_eq_some : st.trackedPod? mn n = some r ↔
    ∃ mt, st.manifestTarget? mn = some mt ∧ mt.state.runtimeState.pod? n = some r := by
  simp [EngineState.trackedPod?, Option.bind_eq_some]

theorem handlePodResetRestartsAction_trackedPod? (h : st.trackedPod? mn n = some r) (v : Int) :
    (handlePodResetRestartsAction st ⟨n, mn, v⟩).trackedPod? mn n = some { r with
      baselineRestarts := r.allContainerRestarts - (r.visibleContainerRestarts - v) } := by
  obtain ⟨mt, hmt, hr⟩ := trackedPod?_eq_some.mp h
  obtain ⟨hmem, rfl⟩ := K8sRuntimeState.pod?_eq_some hr
  have hset := @pod?_setPod mt.state.runtimeState mt.state.runtimeState.pods
    { r with baselineRestarts := r.allContainerRestarts - (r.visibleContainerRestarts - v) }
    ⟨r, hmem, rfl⟩
  simp only [handlePodResetRestartsAction, hmt, hr]
  rw [EngineState.trackedPod?, manifestTarget?_updateManifestState hmt, Option.some_bind]
  exact hset

theorem RaisesRestarts.change (h : ResetWorld.RaisesRestarts mn n st a) (now : Time) :
    ∃ r r', st.trackedPod? mn n = some r ∧
      (handlePodChangeAction now st a).trackedPod? mn n = some r' ∧
      r'.baselineRestarts = r.baselineRestarts ∧
        r.allContainerRestarts ≤ r'.allContainerRestarts := by
  unfold ResetWorld.RaisesRestarts at h
  split at h
  · exact h.elim
  rename_i mt hmt
  split at h
  · exact h.elim
  rename_i r hr
  obtain ⟨hmn, hn, hlive, hacc, hok, hanc, hA, hraise⟩ := h
  subst hmn hn
  obtain ⟨mt', -, hmt', -, -, -, hrec, -, -⟩ := @handlePodChangeAction_applies _ _ r false now a hmt
    hacc hok hlive (.inl ⟨by rw [forAncestor_of_ancestor ⟨hanc, hA⟩]; exact hr, rfl⟩)
  refine ⟨r, _, trackedPod?_eq_some.mpr ⟨mt, hmt, hr⟩, trackedPod?_eq_some.mpr ⟨mt', hmt', hrec⟩,
    rfl, ?_⟩
  simpa [Pod.allContainerRestarts] using hraise

end Effects

namespace ResetWorld

variable {mn : ManifestName} {n : PodID} {s : ResetWorld}

/-- What an admissible run keeps for pod `n`: it is tracked with visible restarts that are not
negative, and at most one reset is pending, which carries the pod's restarts at its issue
less the current baseline, from restarts the pod has not lost since. -/
structure Inv (mn : ManifestName) (n : PodID) (s : ResetWorld) : Prop where
  tracked : ∃ r, s.engine.trackedPod? mn n = some r ∧ 0 ≤ r.visibleContainerRestarts ∧
    ∀ e ∈ s.pending, e.1 = ⟨n, mn, e.2 - r.baselineRestarts⟩ ∧ e.2 ≤ r.allContainerRestarts
  single : s.pending.length ≤ 1

theorem Inv.apply (h : Inv mn n s) {i : Nat} {e : PodResetRestartsAction × Int}
    (he : s.pending[i]? = some e) :
    ∃ r, (s.step mn n (.apply i)).engine.trackedPod? mn n = some r ∧
      r.visibleContainerRestarts = r.allContainerRestarts - e.2 ∧
      0 ≤ r.visibleContainerRestarts ∧ (s.step mn n (.apply i)).pending = [] := by
  obtain ⟨r, hr, -, hpend⟩ := h.tracked
  obtain ⟨he₁, he₂⟩ := hpend e (List.getElem?_mem he)
  have hi : i < s.pending.length := (List.getElem?_eq_some_iff.mp he).1
  simp only [ResetWorld.step, he, he₁]
  refine ⟨_, handlePodResetRestartsAction_trackedPod? hr _, ?_, ?_, ?_⟩
  · simp only [Pod.visibleContainerRestarts, Pod.allContainerRestarts] at he₂ ⊢; omega
  · simp only [Pod.visibleContainerRestarts, Pod.allContainerRestarts] at he₂ ⊢; omega
  · exact List.eq_nil_of_length_eq_zero
      (by rw [List.length_eraseIdx, if_pos hi]; have := h.single; omega)

theorem Inv.step (h : Inv mn n s) : ∀ e, s.Admits mn n e → Inv mn n (s.step mn n e)
  | .issue, ha => by
    obtain ⟨r, hr, hvis, -⟩ := h.tracked
    have ha : s.pending = [] := ha
    simp only [ResetWorld.step, issueReset, hr, Option.map_some', ha, List.nil_append]
    refine ⟨⟨r, hr, hvis, fun e he => ?_⟩, by simp⟩
    rw [List.mem_singleton.mp he]
    exact ⟨rfl, le_rfl⟩
  | .apply i, _ => by
    cases he : s.pending[i]? with
    | none => simpa [ResetWorld.step, he] using h
    | some e =>
      obtain ⟨r, hr, -, hvis, hnil⟩ := h.apply he
      exact ⟨⟨r, hr, hvis, by simp [hnil]⟩, by simp [hnil]⟩
  | .change now a, ha => by
    obtain ⟨r, hr, hvis, hpend⟩ := h.tracked
    obtain ⟨r₀, r', hr₀, hr', hbase, hall⟩ := RaisesRestarts.change ha now
    obtain rfl : r₀ = r := Option.some.inj (hr₀.symm.trans hr)
    refine ⟨⟨r', hr', ?_, fun e he => ?_⟩, h.single⟩
    · simp only [Pod.visibleContainerRestarts] at hvis ⊢; omega
    · obtain ⟨he₁, he₂⟩ := hpend e he
      exact ⟨hbase ▸ he₁, he₂.trans hall⟩

theorem Inv.run (h : Inv mn n s) {steps : List ResetStep} (ha : Admissible mn n s steps) :
    Inv mn n (s.run mn n steps) := by
  induction steps generalizing s with
  | nil => exact h
  | cons e es ih => exact ih (h.step e ha.1) ha.2

/-- Take pod `n` of manifest `mn`, tracked with visible restarts that are not negative and no
reset pending, and any run of reset issues, reset applies and changes that only raise its
restarts, in which no reset is issued while another is pending. Its visible restarts stay
non-negative, and applying a pending reset leaves visible exactly the restarts the pod gained
since that reset was issued. -/
theorem reset_leaves_gained_restarts (s₀ : ResetWorld)
    (h₀ : ∃ r, s₀.engine.trackedPod? mn n = some r ∧ 0 ≤ r.visibleContainerRestarts)
    (hp₀ : s₀.pending = []) (steps : List ResetStep) (hadm : Admissible mn n s₀ steps) :
    let s := s₀.run mn n steps
    (∃ r, s.engine.trackedPod? mn n = some r ∧ 0 ≤ r.visibleContainerRestarts) ∧
    ∀ i e, s.pending[i]? = some e → ∃ r,
      (s.step mn n (.apply i)).engine.trackedPod? mn n = some r ∧
        r.visibleContainerRestarts = r.allContainerRestarts - e.2 := by
  obtain ⟨r, hr, hvis⟩ := h₀
  have h := Inv.run ⟨⟨r, hr, hvis, by simp [hp₀]⟩, by simp [hp₀]⟩ hadm
  obtain ⟨r, hr, hvis, -⟩ := h.tracked
  exact ⟨⟨r, hr, hvis⟩, fun i e he =>
    let ⟨r', hr', hv, _⟩ := h.apply he
    ⟨r', hr', hv⟩⟩

/-- Pod `web-1` of manifest `web` shows five restarts. A reset is issued; the container
restarts twice more; then the reset is applied and leaves the two visible. -/
theorem reset_leaves_gained_restarts_web :
    let c : Container := { name := "app", id := "c1", running := true, restarts := 5 }
    let pod : V1.Pod := { uid := "p1", name := "web-1", containers := [{ c with restarts := 7 }] }
    let rt : K8sRuntimeState :=
      { pods := [{ podID := "web-1", containers := [c] }]
        podAncestorUID := "rs1"
        deployedUIDSet := ["rs1"] }
    let s₀ : ResetWorld :=
      ⟨{ manifestTargets := [⟨{ name := "web" }, { name := "web", runtimeState := rt }⟩] }, []⟩
    let steps : List ResetStep := [.issue, .change 1 ⟨pod, "web", "rs1"⟩]
    (∃ r, s₀.engine.trackedPod? "web" "web-1" = some r ∧ 0 ≤ r.visibleContainerRestarts) ∧
    s₀.pending = [] ∧ Admissible "web" "web-1" s₀ steps ∧
    ((∃ r, (s₀.run "web" "web-1" steps).engine.trackedPod? "web" "web-1" = some r ∧
      0 ≤ r.visibleContainerRestarts) ∧
    ∀ i e, (s₀.run "web" "web-1" steps).pending[i]? = some e → ∃ r,
      ((s₀.run "web" "web-1" steps).step "web" "web-1" (.apply i)).engine.trackedPod?
          "web" "web-1" =
        some r ∧ r.visibleContainerRestarts = r.allContainerRestarts - e.2) ∧
    ((s₀.run "web" "web-1" (steps ++ [.apply 0])).engine.trackedPod? "web" "web-1").map
      (·.visibleContainerRestarts) = some 2 := by
  intro c pod rt s₀ steps
  have h₀ : ∃ r, s₀.engine.trackedPod? "web" "web-1" = some r ∧ 0 ≤ r.visibleContainerRestarts :=
    ⟨_, rfl, by decide⟩
  exact ⟨h₀, rfl, by decide, reset_leaves_gained_restarts s₀ h₀ rfl steps (by decide), by decide⟩

/-- A double click: two resets issued from the same five restarts. The first apply clears the
visible restarts, and the second moves the baseline again, to five below zero. -/
theorem double_reset_turns_negative :
    let c : Container := { name := "app", id := "c1", running := true, restarts := 5 }
    let rt : K8sRuntimeState :=
      { pods := [{ podID := "web-1", containers := [c] }]
        podAncestorUID := "rs1"
        deployedUIDSet := ["rs1"] }
    let s₀ : ResetWorld :=
      ⟨{ manifestTargets := [⟨{ name := "web" }, { name := "web", runtimeState := rt }⟩] }, []⟩
    let s := s₀.run "web" "web-1" [.issue, .issue, .apply 0]
    s.pending.map (·.2) = [5] ∧
      ((s.step "web" "web-1" (.apply 0)).engine.trackedPod? "web" "web-1").map
        (·.visibleContainerRestarts) = some (-5) := by
  decide

end ResetWorld

end TiltWatch
