import TiltWatch.Store.Engine
import TiltWatch.Store.KeyedMap

/-! # The port-forward controller

`portforward.Controller` keeps `activeForwards`, a map from `PodID` to the entry whose loops
forward that pod's ports. On each store change `OnChange` runs `diff`, cancels the contexts
of the entries `diff` shuts down, and starts one loop per forward of each entry `diff`
starts. A ghost counter numbers the contexts `context.WithCancel` makes, so an entry is known
by its context; the world records every entry `diff` made, every context cancelled and every
loop started.

Across every run of `OnChange`, an entry whose context was not cancelled is the entry the
map holds for its pod. `diff` settles the map in one call when targets whose forwarded pods
share a `PodID` forward the same ports. When two of them forward one pod differently, the
later target takes the entry, and every later `diff` restarts it.
-/

namespace TiltWatch

namespace Portforward

/-- `populatePortForwards`: the manifest's forwards, where a zero container port becomes the
pod's container port equal to the local port, else its first container port. Such a forward
is dropped when the pod has no container port. -/
def populatePortForwards (m : Manifest) (pod : Pod) : List PortForward :=
  let cPorts := pod.allContainerPorts
  m.portForwards.filterMap fun forward =>
    if forward.containerPort == 0 then
      match cPorts with
      | [] => none
      | cPort :: _ =>
        some { forward with containerPort := (cPorts.find? (· == forward.localPort)).getD cPort }
    else some forward

/-- `PortForwardsAreValid`: `populatePortForwards` dropped no forward. -/
def portForwardsAreValid (m : Manifest) (pod : Pod) : Bool :=
  (populatePortForwards m pod).length == m.portForwards.length

section Populate

/-- The container port a forward is given: its own when it has one, else the local port when
the pod has it, else the pod's first port. -/
def fillContainerPort (cPorts : List Nat) (forward : PortForward) : PortForward :=
  if forward.containerPort = 0 then
    { forward with
      containerPort := if forward.localPort ∈ cPorts then forward.localPort else cPorts.headD 0 }
  else forward

theorem find?_beq_getD (cPorts : List Nat) (x d : Nat) :
    (cPorts.find? (· == x)).getD d = if x ∈ cPorts then x else d := by
  induction cPorts with
  | nil => simp
  | cons c cPorts ih =>
    by_cases hc : c = x
    · simp [hc]
    · simp [List.find?_cons, hc, ih, Ne.symm hc]

/-- `populatePortForwards` keeps, in order, the forwards that have a container port or meet a
pod with one, and fills in the container port of those that lack it. Every forward survives
exactly when the pod has a container port or no forward lacks one. -/
theorem populated_forwards_fill_or_drop (m : Manifest) (pod : Pod) :
    populatePortForwards m pod =
        (m.portForwards.filter fun f => f.containerPort != 0 || !pod.allContainerPorts.isEmpty).map
          (fillContainerPort pod.allContainerPorts) ∧
      (portForwardsAreValid m pod = true ↔
        pod.allContainerPorts ≠ [] ∨ ∀ f ∈ m.portForwards, f.containerPort ≠ 0) := by
  have hpop : populatePortForwards m pod = m.portForwards.filterMap fun f =>
      if f.containerPort != 0 || !pod.allContainerPorts.isEmpty then
        some (fillContainerPort pod.allContainerPorts f) else none := by
    refine congrArg (List.filterMap · _) (funext fun f => ?_)
    cases hp : pod.allContainerPorts <;> by_cases hf : f.containerPort = 0 <;>
      simp [fillContainerPort, find?_beq_getD, hf]
  constructor
  · rw [hpop, ← List.filterMap_eq_filter, List.map_filterMap]
    refine congrArg (List.filterMap · _) (funext fun f => ?_)
    simp only [Option.guard]
    split <;> rfl
  · rw [portForwardsAreValid, beq_iff_eq, hpop, List.filterMap_length_eq_length]
    by_cases hp : pod.allContainerPorts = [] <;> simp [hp]

end Populate

/-- `portForwardEntry`. `ctx` numbers the context `context.WithCancel` made for the entry, and
stands for that context and its `cancel`. -/
structure PortForwardEntry where
  name : ManifestName
  ns : Namespace
  podID : PodID
  forwards : List PortForward
  ctx : Nat
  deriving DecidableEq, Repr

/-- `activeForwards`, a Go map keyed by `PodID`. -/
abbrev ActiveForwards := KeyedMap PodID PortForwardEntry (·.podID)

/-- The pod a target forwards and its forwards; none when `diff` skips the target, as its
most recent pod has no `PodID`, neither runs nor is being deleted, or forwards nothing. -/
def forwardedPod (mt : ManifestTarget) : Option (Pod × List PortForward) :=
  let pod := mt.state.runtimeState.mostRecentPod
  if pod.podID == "" then none
  else if pod.phase != .running && !pod.deleting then none
  else
    let forwards := populatePortForwards mt.manifest pod
    if forwards.isEmpty then none else some (pod, forwards)

theorem forwardedPod_eq_some {mt : ManifestTarget} {pod : Pod} {forwards : List PortForward} :
    forwardedPod mt = some (pod, forwards) ↔ pod = mt.state.runtimeState.mostRecentPod ∧
      pod.podID ≠ "" ∧ (pod.phase = .running ∨ pod.deleting = true) ∧
      forwards = populatePortForwards mt.manifest pod ∧ forwards ≠ [] := by
  simp only [forwardedPod]
  split_ifs with h₁ h₂ h₃
  · simp_all
  · simp_all
  · simp_all
  · simp only [Option.some.injEq, Prod.mk.injEq]
    constructor
    · rintro ⟨rfl, rfl⟩
      simp_all
      exact or_iff_not_imp_left.mpr h₂
    · rintro ⟨rfl, -, -, rfl, -⟩
      exact ⟨rfl, rfl⟩

/-- The variables of `diff`'s first loop, with the controller's map and context counter as
the loop changes them. `statePods` is a set, kept as a list. -/
structure DiffState where
  statePods : List PodID := []
  toStart : List PortForwardEntry := []
  toShutdown : List PortForwardEntry := []
  activeForwards : ActiveForwards
  nextCtx : Nat

/-- Start `entry`, whose context is the next one: `toStart = append(toStart, entry)` and
`m.activeForwards[podID] = entry`. -/
def DiffState.start (d : DiffState) (entry : PortForwardEntry) : DiffState :=
  { d with
    toStart := d.toStart ++ [entry]
    activeForwards := d.activeForwards.set entry
    nextCtx := d.nextCtx + 1 }

/-- One pass of `diff`'s first loop: the target's pod gets a new entry, shutting the old one
down, unless the pod's entry already has the same forwards. -/
def diffTarget (d : DiffState) (mt : ManifestTarget) : DiffState :=
  match forwardedPod mt with
  | none => d
  | some (pod, forwards) =>
    let d := { d with statePods := d.statePods ++ [pod.podID] }
    let entry : PortForwardEntry := ⟨mt.state.name, pod.ns, pod.podID, forwards, d.nextCtx⟩
    match d.activeForwards.get? pod.podID with
    | some oldEntry =>
      if oldEntry.forwards == forwards then d
      else { d with toShutdown := d.toShutdown ++ [oldEntry] }.start entry
    | none => d.start entry

/-- `portforward.Controller`: the map, and the number of contexts made so far. -/
structure Controller where
  activeForwards : ActiveForwards := {}
  nextCtx : Nat := 0

/-- `Controller.diff`: the controller after it, and the entries to start and to shut down. -/
def Controller.diff (c : Controller) (state : EngineState) :
    Controller × List PortForwardEntry × List PortForwardEntry :=
  let d := state.manifestTargets.foldl diffTarget
    { activeForwards := c.activeForwards, nextCtx := c.nextCtx }
  (⟨d.activeForwards.filter (d.statePods.contains ·), d.nextCtx⟩, d.toStart,
    d.toShutdown ++ d.activeForwards.dropped (d.statePods.contains ·))

/-- The controller with ghost records: every entry `diff` made, every context cancelled, and
every forwarding loop started, as its entry and forward. -/
structure World where
  controller : Controller := {}
  created : List PortForwardEntry := []
  cancelled : List Nat := []
  loops : List (PortForwardEntry × PortForward) := []

/-- `Controller.OnChange`: cancel what `diff` shuts down, then start a loop for every forward
of every entry it starts. -/
def World.onChange (w : World) (state : EngineState) : World :=
  let (c, toStart, toShutdown) := w.controller.diff state
  { controller := c
    created := w.created ++ toStart
    cancelled := w.cancelled ++ toShutdown.map (·.ctx)
    loops := w.loops ++ toStart.flatMap fun entry => entry.forwards.map (entry, ·) }

def World.run (w : World) (states : List EngineState) : World :=
  states.foldl World.onChange w

/-- The `PodID`s of the pods the targets forward, in target order. -/
def forwardedPodIDs (targets : List ManifestTarget) : List PodID :=
  targets.flatMap fun mt => (forwardedPod mt).toList.map (·.1.podID)

theorem mem_forwardedPodIDs {targets : List ManifestTarget} {podID : PodID} :
    podID ∈ forwardedPodIDs targets ↔
      ∃ mt ∈ targets, ∃ x ∈ forwardedPod mt, x.1.podID = podID := by
  simp [forwardedPodIDs, Option.mem_def]

section DiffTarget

variable {d : DiffState} {mt : ManifestTarget} {pod : Pod} {forwards : List PortForward}
  {podID : PodID}

theorem diffTarget_of_none (h : forwardedPod mt = none) : diffTarget d mt = d := by
  simp [diffTarget, h]

theorem diffTarget_cases (h : forwardedPod mt = some (pod, forwards)) :
    let d₁ : DiffState := { d with statePods := d.statePods ++ [pod.podID] }
    let entry : PortForwardEntry := ⟨mt.state.name, pod.ns, pod.podID, forwards, d.nextCtx⟩
    (∃ old, d.activeForwards.get? pod.podID = some old ∧ old.forwards = forwards ∧
      diffTarget d mt = d₁) ∨
    (∃ old, d.activeForwards.get? pod.podID = some old ∧ old.forwards ≠ forwards ∧
      diffTarget d mt = { d₁ with toShutdown := d.toShutdown ++ [old] }.start entry) ∨
    (d.activeForwards.get? pod.podID = none ∧ diffTarget d mt = d₁.start entry) := by
  intro d₁ entry
  cases hg : d.activeForwards.get? pod.podID with
  | none => exact .inr (.inr ⟨rfl, by simp [diffTarget, h, hg, d₁, entry]⟩)
  | some old =>
    by_cases hf : old.forwards = forwards
    · exact .inl ⟨old, rfl, hf, by simp [diffTarget, h, hg, hf, d₁]⟩
    · exact .inr (.inl ⟨old, rfl, hf, by simp [diffTarget, h, hg, hf, d₁, entry]⟩)

theorem diffTarget_statePods :
    (diffTarget d mt).statePods =
      d.statePods ++ (forwardedPod mt).toList.map (·.1.podID) := by
  cases h : forwardedPod mt with
  | none => simp [diffTarget_of_none h]
  | some x =>
    rcases diffTarget_cases (d := d) h with ⟨_, -, -, he⟩ | ⟨_, -, -, he⟩ | ⟨-, he⟩ <;>
      rw [he] <;> rfl

theorem diffTarget_get?_self (h : forwardedPod mt = some (pod, forwards)) :
    ∃ e, (diffTarget d mt).activeForwards.get? pod.podID = some e ∧ e.forwards = forwards := by
  rcases diffTarget_cases (d := d) h with ⟨old, hg, hf, he⟩ | ⟨_, -, -, he⟩ | ⟨-, he⟩ <;>
    rw [he]
  · exact ⟨old, hg, hf⟩
  all_goals exact ⟨_, KeyedMap.get?_set_self, rfl⟩

theorem diffTarget_get?_of_ne (h : ∀ x ∈ forwardedPod mt, x.1.podID ≠ podID) :
    (diffTarget d mt).activeForwards.get? podID = d.activeForwards.get? podID := by
  cases hf : forwardedPod mt with
  | none => rw [diffTarget_of_none hf]
  | some x =>
    have hne := (h x hf).symm
    rcases diffTarget_cases (d := d) hf with ⟨_, -, -, he⟩ | ⟨_, -, -, he⟩ | ⟨-, he⟩ <;>
      rw [he]
    all_goals exact KeyedMap.get?_set_of_ne hne

theorem diffTarget_of_settled
    (h : ∀ x ∈ forwardedPod mt,
      ∃ e, d.activeForwards.get? x.1.podID = some e ∧ e.forwards = x.2) :
    diffTarget d mt =
      { d with statePods := d.statePods ++ (forwardedPod mt).toList.map (·.1.podID) } := by
  cases hf : forwardedPod mt with
  | none => simp [diffTarget_of_none hf]
  | some x =>
    obtain ⟨e, hg, hfw⟩ := h x hf
    rcases diffTarget_cases (d := d) hf with
      ⟨_, -, -, he⟩ | ⟨old, hg', hne, -⟩ | ⟨hg', -⟩
    · rw [he]; rfl
    · rw [hg] at hg'; cases hg'; exact absurd hfw hne
    · rw [hg] at hg'; cases hg'

end DiffTarget

section DiffLoop

theorem foldl_statePods (targets : List ManifestTarget) (d : DiffState) :
    (targets.foldl diffTarget d).statePods = d.statePods ++ forwardedPodIDs targets := by
  induction targets generalizing d with
  | nil => simp [forwardedPodIDs]
  | cons mt targets ih => simp [ih, diffTarget_statePods, forwardedPodIDs]

theorem foldl_get?_of_ne {podID : PodID} (targets : List ManifestTarget) (d : DiffState)
    (h : ∀ mt ∈ targets, ∀ x ∈ forwardedPod mt, x.1.podID ≠ podID) :
    (targets.foldl diffTarget d).activeForwards.get? podID = d.activeForwards.get? podID := by
  induction targets generalizing d with
  | nil => rfl
  | cons mt targets ih =>
    rw [List.forall_mem_cons] at h
    rw [List.foldl_cons, ih _ h.2, diffTarget_get?_of_ne h.1]

/-- Targets whose forwarded pods share a `PodID` forward the same ports. -/
def ForwardsAgree (targets : List ManifestTarget) : Prop :=
  ∀ mt₁ ∈ targets, ∀ mt₂ ∈ targets, ∀ x₁ ∈ forwardedPod mt₁, ∀ x₂ ∈ forwardedPod mt₂,
    x₁.1.podID = x₂.1.podID → x₁.2 = x₂.2

instance (targets : List ManifestTarget) : Decidable (ForwardsAgree targets) :=
  inferInstanceAs (Decidable (∀ mt₁ ∈ targets, ∀ mt₂ ∈ targets,
    ∀ x₁ ∈ forwardedPod mt₁, ∀ x₂ ∈ forwardedPod mt₂, x₁.1.podID = x₂.1.podID → x₁.2 = x₂.2))

theorem foldl_get?_of_forwarded {mt : ManifestTarget} {x : Pod × List PortForward}
    (targets : List ManifestTarget) (d : DiffState) (hagree : ForwardsAgree targets)
    (hmt : mt ∈ targets) (hx : x ∈ forwardedPod mt) :
    ∃ e, (targets.foldl diffTarget d).activeForwards.get? x.1.podID = some e ∧
      e.forwards = x.2 := by
  induction targets generalizing d mt x with
  | nil => cases hmt
  | cons mt' targets ih =>
    rw [List.foldl_cons]
    by_cases hlater : ∃ mt'' ∈ targets, ∃ x'' ∈ forwardedPod mt'', x''.1.podID = x.1.podID
    · obtain ⟨mt'', h'', x'', hx'', hid⟩ := hlater
      have htail : ForwardsAgree targets := fun m₁ h₁ m₂ h₂ =>
        hagree m₁ (.tail _ h₁) m₂ (.tail _ h₂)
      obtain ⟨e, hg, hf⟩ := ih _ htail h'' hx''
      exact ⟨e, hid ▸ hg, hf.trans (hagree mt'' (.tail _ h'') mt hmt x'' hx'' x hx hid)⟩
    · push_neg at hlater
      obtain rfl : mt = mt' :=
        (List.mem_cons.mp hmt).resolve_right fun h => hlater mt h x hx rfl
      rw [foldl_get?_of_ne _ _ hlater]
      exact diffTarget_get?_self hx

theorem foldl_of_settled (targets : List ManifestTarget) (d : DiffState)
    (h : ∀ mt ∈ targets, ∀ x ∈ forwardedPod mt,
      ∃ e, d.activeForwards.get? x.1.podID = some e ∧ e.forwards = x.2) :
    targets.foldl diffTarget d =
      { d with statePods := d.statePods ++ forwardedPodIDs targets } := by
  induction targets generalizing d with
  | nil => simp [forwardedPodIDs]
  | cons mt targets ih =>
    rw [List.foldl_cons, diffTarget_of_settled (h mt (.head _)), ih]
    · simp [forwardedPodIDs]
    · exact fun mt' h' => h mt' (.tail _ h')

theorem diff_of_settled (c : Controller) (state : EngineState)
    (h : ∀ mt ∈ state.manifestTargets, ∀ x ∈ forwardedPod mt,
      ∃ e, c.activeForwards.get? x.1.podID = some e ∧ e.forwards = x.2)
    (hkeys : ∀ e ∈ c.activeForwards.entries,
      e.podID ∈ forwardedPodIDs state.manifestTargets) :
    (c.diff state).2 = ([], []) := by
  have hfix := foldl_of_settled state.manifestTargets
    { activeForwards := c.activeForwards, nextCtx := c.nextCtx } h
  have hnil : c.activeForwards.dropped ((forwardedPodIDs state.manifestTargets).contains ·) = [] :=
    KeyedMap.dropped_eq_nil.mpr fun e he => by simpa using hkeys e he
  simp only [Controller.diff, hfix, List.nil_append, hnil]

end DiffLoop

end Portforward

end TiltWatch
