import Mathlib.Data.List.Dedup
import TiltWatch.Store.KeyedMap
import TiltWatch.PodWatcher.Triage
import TiltWatch.EventWatch.Manager

/-! # Namespace watches and the deployed-UID index

Both watchers keep a `watcherKnownState`: the namespaces they watch, each with the `cancel`
of its watch, and the UIDs a deploy registered, each with its manifest. `OnChange` first
makes a task list from the store under the read locks; then, under the watcher's lock, it
cancels and deletes the watches of the namespaces to tear down, sets up a watch in each
namespace to set up, and registers the new UIDs. Setting up a watch calls the cluster; when
the call fails the watcher dispatches an error and records no watch.

`watcherKnownState` and its `createTaskList` are not under src/: they are modelled from the
spec, with the store's targets read as `DesiredResource`s. The store notifies a subscriber
after each batch of actions, and the model takes the `OnChange` calls one after the other. A
ghost counter numbers the contexts of the watches, as for port forwards, and the world
records every watch made, the contexts cancelled and the errors dispatched. The loops a
watch starts are left out.

The lock section keeps at most one live watch per namespace for any task list whose
namespaces to set up are distinct and unwatched (`Inv.onChange`), which `createTaskList`
provides. After a pass the next task list only retries the failed setups.
-/

namespace TiltWatch

/-- Modelled from the spec: a target as `createTaskList` and `PodWatcher.diff` read it: its
manifest, the namespaces it deploys into, its deploy-time UIDs, and the `ExtraPodSelectors`
of its Kubernetes target. -/
structure DesiredResource where
  name : ManifestName
  namespaces : List Namespace := []
  deployedUIDs : List UID := []
  extraPodSelectors : List Selector := []
  deriving DecidableEq, Repr

/-- `namespaceWatches`: the watch of each namespace, by the number of the context its
`cancel` cancels. -/
abbrev NamespaceWatches := KeyedMap Namespace (Namespace × Nat) Prod.fst

/-- Modelled from the spec: `watcherKnownState`. -/
structure WatcherKnownState where
  namespaceWatches : NamespaceWatches := {}
  knownDeployedUIDs : UID → Option ManifestName := fun _ => none

/-- Modelled from the spec: `watcherTaskList`, with `newUIDs` a map from UID to manifest. -/
structure WatcherTaskList where
  setupNamespaces : List Namespace
  teardownNamespaces : List Namespace
  watchableNamespaces : List Namespace
  newUIDs : KeyedMap UID (UID × ManifestName) Prod.fst

/-- Modelled from the spec: `createTaskList`. The namespaces the targets deploy into are
watchable; those with no watch are set up, and the watched ones no target needs are torn
down. Each deployed UID the index lacks is new, mapped to its target's manifest. -/
def WatcherKnownState.createTaskList (ks : WatcherKnownState)
    (resources : List DesiredResource) : WatcherTaskList :=
  let namespaces := (resources.flatMap (·.namespaces)).dedup
  let deployed := resources.flatMap fun r => r.deployedUIDs.map (·, r.name)
  { setupNamespaces := namespaces.filter fun ns => (ks.namespaceWatches.get? ns).isNone
    teardownNamespaces := (ks.namespaceWatches.entries.map (·.1)).filter (· ∉ namespaces)
    watchableNamespaces := namespaces
    newUIDs := (deployed.filter fun d => (ks.knownDeployedUIDs d.1).isNone).foldl (·.set ·) {} }

/-- `PodWatcher.diff`: the task list and, when a namespace is watchable, the non-empty extra
pod selectors of every target. -/
def PodWatcher.diff (ks : WatcherKnownState) (resources : List DesiredResource) :
    WatcherTaskList × List ExtraSelector :=
  let taskList := ks.createTaskList resources
  (taskList, if taskList.watchableNamespaces.isEmpty then []
    else resources.flatMap fun r =>
      (r.extraPodSelectors.filter (!·.isEmpty)).map (⟨r.name, ·⟩))

/-- The registrations of `setupNewUIDs`: `knownDeployedUIDs[uid] = mn` for each new UID. -/
def registerUIDs (known : UID → Option ManifestName) (newUIDs : List (UID × ManifestName)) :
    UID → Option ManifestName :=
  newUIDs.foldl (fun known d => Function.update known d.1 (some d.2)) known

/-- A watcher's known state with ghost records: the number of contexts made, every namespace
watch made, the contexts cancelled, and the errors dispatched. -/
structure ScopeWorld where
  known : WatcherKnownState := {}
  nextCtx : Nat := 0
  created : List (Namespace × Nat) := []
  cancelled : List Nat := []
  errors : List String := []

namespace ScopeWorld

variable (s : ScopeWorld)

/-- One pass of `OnChange`'s teardown loop: cancel the namespace's watch, if there is one,
and delete it. -/
def teardown (ns : Namespace) : ScopeWorld :=
  { s with
    known := { s.known with namespaceWatches := s.known.namespaceWatches.filter (· != ns) }
    cancelled := s.cancelled ++ ((s.known.namespaceWatches.get? ns).map (·.2)).toList }

/-- `setupWatch`, given the error of the cluster's watch call: dispatch that error wrapped in
`watchError ns`, or record a watch with a new context. -/
def setupWatch (watchError : Namespace → String) (err : Option String) (ns : Namespace) :
    ScopeWorld :=
  match err with
  | some e => { s with errors := s.errors ++ [watchError ns ++ ": " ++ e] }
  | none =>
    { s with
      known := { s.known with namespaceWatches := s.known.namespaceWatches.set (ns, s.nextCtx) }
      nextCtx := s.nextCtx + 1
      created := s.created ++ [(ns, s.nextCtx)] }

/-- The lock section of `OnChange` on the known state, `watchErr ns` being the error of the
watch call in `ns`: the teardown loop, the setup loop, then the registrations of
`setupNewUIDs`. -/
def onChange (watchError : Namespace → String) (taskList : WatcherTaskList)
    (watchErr : Namespace → Option String) : ScopeWorld :=
  let s := taskList.teardownNamespaces.foldl teardown s
  let s := taskList.setupNamespaces.foldl (fun s ns => s.setupWatch watchError (watchErr ns) ns) s
  { s with known := { s.known with
      knownDeployedUIDs := registerUIDs s.known.knownDeployedUIDs taskList.newUIDs.entries } }

/-- `OnChange` for a store whose targets are `resources`. -/
def step (watchError : Namespace → String) (resources : List DesiredResource)
    (watchErr : Namespace → Option String) : ScopeWorld :=
  s.onChange watchError (s.known.createTaskList resources) watchErr

end ScopeWorld

/-- `OnChange` calls in turn, each with the store's targets and the errors of its watch calls. -/
def ScopeWorld.run (watchError : Namespace → String) (s : ScopeWorld)
    (changes : List (List DesiredResource × (Namespace → Option String))) : ScopeWorld :=
  changes.foldl (fun s c => s.step watchError c.1 c.2) s

/-- The message `PodWatcher.setupWatch` wraps a failed `WatchPods` in. Go quotes the namespace
with `%q`; a namespace is a DNS label of lowercase letters, digits and `-`, which `%q` only
puts between double quotes. -/
def podWatchError (ns : Namespace) : String :=
  "Error watching pods. Are you connected to kubernetes?\n" ++
    "Try running `kubectl get pods -n \"" ++ ns ++ "\"`"

/-- The message `EventWatchManager.setupWatch` wraps a failed `WatchEvents` in, the namespace
quoted as in `podWatchError`. -/
def eventWatchError (ns : Namespace) : String :=
  "Error watching events. Are you connected to kubernetes?\n" ++
    "Try running `kubectl get events -n \"" ++ ns ++ "\"`"

def PodWatcher.setupWatch (s : ScopeWorld) : Option String → Namespace → ScopeWorld :=
  s.setupWatch podWatchError

def EventWatchManager.setupWatch (s : ScopeWorld) : Option String → Namespace → ScopeWorld :=
  s.setupWatch eventWatchError

section TaskList

variable {ks : WatcherKnownState} {resources : List DesiredResource} {ns : Namespace}

namespace WatcherKnownState

theorem mem_setupNamespaces : ns ∈ (ks.createTaskList resources).setupNamespaces ↔
    ns ∈ (ks.createTaskList resources).watchableNamespaces ∧
      ks.namespaceWatches.get? ns = none := by
  simp [createTaskList]

theorem mem_teardownNamespaces : ns ∈ (ks.createTaskList resources).teardownNamespaces ↔
    (ks.namespaceWatches.get? ns).isSome ∧
      ns ∉ (ks.createTaskList resources).watchableNamespaces := by
  simp [createTaskList, KeyedMap.isSome_get?_iff]

theorem newUIDs_eq_nil
    (h : ∀ r ∈ resources, ∀ u ∈ r.deployedUIDs, (ks.knownDeployedUIDs u).isSome) :
    (ks.createTaskList resources).newUIDs.entries = [] := by
  have hnil : ((resources.flatMap fun r => r.deployedUIDs.map (·, r.name)).filter fun d =>
      (ks.knownDeployedUIDs d.1).isNone) = [] :=
    List.filter_eq_nil_iff.mpr fun d hd => by
      obtain ⟨r, hr, u, hu, rfl⟩ :
          ∃ r ∈ resources, ∃ u ∈ r.deployedUIDs, (u, r.name) = d := by
        simpa using hd
      rw [Option.isNone_iff_eq_none]
      exact Option.isSome_iff_ne_none.mp (h r hr u hu)
  simp only [createTaskList, hnil, List.foldl_nil]

theorem nodup_setupNamespaces : (ks.createTaskList resources).setupNamespaces.Nodup :=
  (List.nodup_dedup _).filter _

theorem isSome_get?_newUIDs {r : DesiredResource} {u : UID} (hr : r ∈ resources)
    (hu : u ∈ r.deployedUIDs) (hk : ks.knownDeployedUIDs u = none) :
    ((ks.createTaskList resources).newUIDs.get? u).isSome :=
  KeyedMap.isSome_get?_foldl_set (.inr ⟨(u, r.name), List.mem_filter.mpr
    ⟨List.mem_flatMap.mpr ⟨r, hr, List.mem_map_of_mem _ hu⟩, by simp [hk]⟩, rfl⟩)

end WatcherKnownState

end TaskList

section Registrations

variable {known : UID → Option ManifestName} {newUIDs : List (UID × ManifestName)} {u : UID}

theorem isSome_registerUIDs (h : (known u).isSome ∨ ∃ d ∈ newUIDs, d.1 = u) :
    (registerUIDs known newUIDs u).isSome := by
  induction newUIDs generalizing known with
  | nil => simpa using h
  | cons d newUIDs ih =>
    refine ih ?_
    show (Function.update known d.1 (some d.2) u).isSome ∨ _
    by_cases hd : u = d.1
    · rw [hd, Function.update_same]; exact .inl rfl
    · rw [Function.update_noteq hd]
      rcases h with h | ⟨d', hd', rfl⟩
      · exact .inl h
      · rcases List.mem_cons.mp hd' with rfl | hd'
        · exact absurd rfl hd
        · exact .inr ⟨d', hd', rfl⟩

end Registrations

theorem PodWatcher.setupNewUIDs_knownDeployedUIDs (w : PodWatcher)
    (newUIDs : List (UID × ManifestName)) :
    (w.setupNewUIDs newUIDs).1.knownDeployedUIDs = registerUIDs w.knownDeployedUIDs newUIDs := by
  induction newUIDs generalizing w with
  | nil => rfl
  | cons d newUIDs ih => exact ih _

theorem EventWatchManager.setupNewUIDs_knownDeployedUIDs (m : EventWatchManager)
    (newUIDs : List (UID × ManifestName)) :
    (m.setupNewUIDs newUIDs).1.knownDeployedUIDs = registerUIDs m.knownDeployedUIDs newUIDs := by
  induction newUIDs generalizing m with
  | nil => rfl
  | cons d newUIDs ih => exact ih _

namespace ScopeWorld

variable {s : ScopeWorld} {watchError : Namespace → String} {ns k : Namespace}
  {watchErr : Namespace → Option String} {taskList : WatcherTaskList}

theorem teardown_get? : (s.teardown ns).known.namespaceWatches.get? k =
    if k = ns then none else s.known.namespaceWatches.get? k := by
  split
  · exact KeyedMap.get?_filter_of_neg (by simpa)
  · exact KeyedMap.get?_filter_of_pos (by simpa)

theorem mem_teardown_cancelled {c : Nat} : c ∈ (s.teardown ns).cancelled ↔
    c ∈ s.cancelled ∨ ∃ x, s.known.namespaceWatches.get? ns = some x ∧ x.2 = c := by
  simp [teardown]

theorem foldl_teardown_get? {L : List Namespace} :
    (L.foldl teardown s).known.namespaceWatches.get? k =
      if k ∈ L then none else s.known.namespaceWatches.get? k := by
  induction L generalizing s with
  | nil => simp
  | cons ns L ih =>
    rw [List.foldl_cons, ih, teardown_get?]
    by_cases h : k = ns <;> simp [h]

theorem foldl_teardown_frame {L : List Namespace} :
    (L.foldl teardown s).known.knownDeployedUIDs = s.known.knownDeployedUIDs ∧
      (L.foldl teardown s).errors = s.errors := by
  induction L generalizing s with
  | nil => exact ⟨rfl, rfl⟩
  | cons ns L ih => exact ih

theorem get?_setupWatch_of_ne {err : Option String} (h : k ≠ ns) :
    (s.setupWatch watchError err ns).known.namespaceWatches.get? k =
      s.known.namespaceWatches.get? k := by
  cases err with
  | some e => rfl
  | none => exact KeyedMap.get?_set_of_ne h

theorem isSome_get?_setupWatch {err : Option String} :
    ((s.setupWatch watchError err ns).known.namespaceWatches.get? k).isSome ↔
      (s.known.namespaceWatches.get? k).isSome ∨ (k = ns ∧ err = none) := by
  by_cases h : k = ns
  · subst h
    cases err with
    | some e => simp [setupWatch]
    | none => simp [setupWatch, KeyedMap.get?_set_self (v := (k, s.nextCtx))]
  · simp [get?_setupWatch_of_ne h, h]

theorem isSome_get?_foldl_setupWatch {L : List Namespace} :
    ((L.foldl (fun s ns => s.setupWatch watchError (watchErr ns) ns) s).known.namespaceWatches.get?
      k).isSome ↔
      (s.known.namespaceWatches.get? k).isSome ∨ (k ∈ L ∧ watchErr k = none) := by
  induction L generalizing s with
  | nil => simp
  | cons ns L ih =>
    rw [List.foldl_cons, ih, isSome_get?_setupWatch]
    by_cases h : k = ns
    · subst h; simp only [List.mem_cons_self, true_and]; tauto
    · simp [h]

theorem foldl_setupWatch_frame {L : List Namespace} :
    let s' := L.foldl (fun s ns => s.setupWatch watchError (watchErr ns) ns) s
    s'.known.knownDeployedUIDs = s.known.knownDeployedUIDs ∧
      s'.errors =
        s.errors ++ L.filterMap fun ns => (watchErr ns).map (watchError ns ++ ": " ++ ·) := by
  induction L generalizing s with
  | nil => simp
  | cons ns L ih =>
    refine ⟨ih.1.trans ?_, ih.2.trans ?_⟩
    · show (s.setupWatch watchError (watchErr ns) ns).known.knownDeployedUIDs = _
      cases watchErr ns <;> rfl
    · show (s.setupWatch watchError (watchErr ns) ns).errors ++ _ = _
      cases h : watchErr ns <;> simp [setupWatch, h]

theorem onChange_knownDeployedUIDs :
    (s.onChange watchError taskList watchErr).known.knownDeployedUIDs =
      registerUIDs s.known.knownDeployedUIDs taskList.newUIDs.entries := by
  rw [onChange, foldl_setupWatch_frame.1, foldl_teardown_frame.1]

theorem onChange_errors : (s.onChange watchError taskList watchErr).errors =
    s.errors ++ taskList.setupNamespaces.filterMap fun ns =>
      (watchErr ns).map (watchError ns ++ ": " ++ ·) := by
  rw [onChange, foldl_setupWatch_frame.2, foldl_teardown_frame.2]

theorem isSome_get?_onChange :
    ((s.onChange watchError taskList watchErr).known.namespaceWatches.get? k).isSome ↔
      (k ∉ taskList.teardownNamespaces ∧ (s.known.namespaceWatches.get? k).isSome) ∨
        (k ∈ taskList.setupNamespaces ∧ watchErr k = none) := by
  rw [onChange, isSome_get?_foldl_setupWatch, foldl_teardown_get?]
  split <;> simp [*]

/-- Every watch made is the map's watch of its namespace until it is cancelled; every watch
in the map was made and is not cancelled; contexts are numbered in order. -/
structure Inv (s : ScopeWorld) : Prop where
  live : ∀ x ∈ s.created, x.2 ∉ s.cancelled → s.known.namespaceWatches.get? x.1 = some x
  recorded : ∀ x ∈ s.known.namespaceWatches.entries, x ∈ s.created ∧ x.2 ∉ s.cancelled
  fresh : ∀ x ∈ s.created, x.2 < s.nextCtx
  cancelledFresh : ∀ c ∈ s.cancelled, c < s.nextCtx
  nodup : (s.created.map (·.2)).Nodup

theorem inv_init : Inv {} :=
  ⟨by simp, by simp, by simp, by simp, by simp⟩

theorem Inv.teardown (h : s.Inv) : (s.teardown ns).Inv where
  live x hx hc := by
    have hlive := h.live x hx fun h' => hc (mem_teardown_cancelled.mpr (.inl h'))
    rw [teardown_get?, if_neg]
    · exact hlive
    · rintro rfl
      exact hc (mem_teardown_cancelled.mpr (.inr ⟨x, hlive, rfl⟩))
  recorded x hx := by
    obtain ⟨hx, hne⟩ := KeyedMap.mem_filter.mp hx
    obtain ⟨hxc, hxl⟩ := h.recorded x hx
    refine ⟨hxc, fun hc => ?_⟩
    rcases mem_teardown_cancelled.mp hc with hc | ⟨y, hy, hyx⟩
    · exact hxl hc
    · obtain ⟨hye, rfl⟩ := KeyedMap.get?_spec hy
      have := List.inj_on_of_nodup_map h.nodup hxc (h.recorded y hye).1 hyx.symm
      simp [this] at hne
  fresh := h.fresh
  cancelledFresh c hc := by
    rcases mem_teardown_cancelled.mp hc with hc | ⟨y, hy, rfl⟩
    · exact h.cancelledFresh c hc
    · exact h.fresh y (h.recorded y (KeyedMap.get?_spec hy).1).1
  nodup := h.nodup

theorem Inv.foldl_teardown {L : List Namespace} (h : s.Inv) :
    (L.foldl ScopeWorld.teardown s).Inv := by
  induction L generalizing s with
  | nil => exact h
  | cons ns L ih => exact ih h.teardown

theorem Inv.setupWatch {err : Option String} (h : s.Inv)
    (hns : s.known.namespaceWatches.get? ns = none) :
    (s.setupWatch watchError err ns).Inv := by
  cases err with
  | some e => exact ⟨h.live, h.recorded, h.fresh, h.cancelledFresh, h.nodup⟩
  | none =>
    refine ⟨?live, ?recorded, ?fresh, ?cancelledFresh, ?nodup⟩
    case live =>
      intro x hx hc
      rcases List.mem_append.mp hx with hx | hx
      · have hlive := h.live x hx hc
        rw [get?_setupWatch_of_ne]
        · exact hlive
        · rintro rfl; simp [hns] at hlive
      · obtain rfl := List.mem_singleton.mp hx
        exact KeyedMap.get?_set_self
    case recorded =>
      intro x hx
      rcases KeyedMap.mem_set.mp hx with rfl | ⟨hx, -⟩
      · exact ⟨List.mem_append_right _ (List.mem_singleton_self _),
          fun hc => lt_irrefl _ (h.cancelledFresh _ hc)⟩
      · exact ⟨List.mem_append_left _ (h.recorded x hx).1, (h.recorded x hx).2⟩
    case fresh =>
      intro x hx
      rcases List.mem_append.mp hx with hx | hx
      · exact Nat.lt_succ_of_lt (h.fresh x hx)
      · obtain rfl := List.mem_singleton.mp hx
        exact Nat.lt_succ_self _
    case cancelledFresh => exact fun c hc => Nat.lt_succ_of_lt (h.cancelledFresh c hc)
    case nodup =>
      show ((s.created ++ [(ns, s.nextCtx)]).map (·.2)).Nodup
      rw [List.map_append, List.nodup_append]
      refine ⟨h.nodup, List.nodup_singleton _, List.disjoint_singleton.mpr fun hn => ?_⟩
      obtain ⟨x, hx, hxn⟩ := List.mem_map.mp hn
      exact (h.fresh x hx).ne hxn

theorem Inv.foldl_setupWatch {L : List Namespace} (h : s.Inv) (hL : L.Nodup)
    (hnone : ∀ ns ∈ L, s.known.namespaceWatches.get? ns = none) :
    (L.foldl (fun s ns => s.setupWatch watchError (watchErr ns) ns) s).Inv := by
  induction L generalizing s with
  | nil => exact h
  | cons ns L ih =>
    obtain ⟨hns, hL⟩ := List.nodup_cons.mp hL
    refine ih (h.setupWatch (hnone ns (List.mem_cons_self _ _))) hL fun ns' hns' => ?_
    rw [get?_setupWatch_of_ne fun (he : ns' = ns) => hns (he ▸ hns')]
    exact hnone ns' (List.mem_cons_of_mem _ hns')

theorem Inv.onChange (h : s.Inv) (hL : taskList.setupNamespaces.Nodup)
    (hnone : ∀ ns ∈ taskList.setupNamespaces, s.known.namespaceWatches.get? ns = none) :
    (s.onChange watchError taskList watchErr).Inv := by
  have h' : (taskList.setupNamespaces.foldl (fun s ns => s.setupWatch watchError (watchErr ns) ns)
      (taskList.teardownNamespaces.foldl ScopeWorld.teardown s)).Inv :=
    h.foldl_teardown.foldl_setupWatch hL fun ns hns => by
      rw [foldl_teardown_get?]; split
      · rfl
      · exact hnone ns hns
  exact ⟨h'.live, h'.recorded, h'.fresh, h'.cancelledFresh, h'.nodup⟩

theorem Inv.step {resources : List DesiredResource} (h : s.Inv) :
    (s.step watchError resources watchErr).Inv :=
  h.onChange WatcherKnownState.nodup_setupNamespaces fun _ hns =>
    (WatcherKnownState.mem_setupNamespaces.mp hns).2

theorem Inv.run {changes : List (List DesiredResource × (Namespace → Option String))}
    (h : s.Inv) :
    (s.run watchError changes).Inv := by
  induction changes generalizing s with
  | nil => exact h
  | cons c changes ih => exact ih h.step

/-- At most one live watch per namespace, over every run of `OnChange` from a watcher's start:
every watch made and not cancelled is the map's watch of its namespace, two such watches of one
namespace are the same, and the map holds only watches made and not cancelled. -/
theorem at_most_one_live_watch_per_namespace (watchError : Namespace → String)
    (changes : List (List DesiredResource × (Namespace → Option String))) :
    let s := ScopeWorld.run watchError {} changes
    (∀ x ∈ s.created, x.2 ∉ s.cancelled → s.known.namespaceWatches.get? x.1 = some x) ∧
    (∀ x ∈ s.created, ∀ y ∈ s.created, x.2 ∉ s.cancelled → y.2 ∉ s.cancelled →
      x.1 = y.1 → x = y) ∧
    (∀ x ∈ s.known.namespaceWatches.entries, x ∈ s.created ∧ x.2 ∉ s.cancelled) := by
  have h : (ScopeWorld.run watchError {} changes).Inv := inv_init.run
  refine ⟨h.live, fun x hx y hy hxc hyc hxy => ?_, h.recorded⟩
  have hy' := h.live y hy hyc
  rw [← hxy, h.live x hx hxc] at hy'
  exact Option.some.inj hy'

/-- The task list after `OnChange` tears nothing down, registers nothing, and sets up again
exactly the namespaces whose watch call failed: with no failure, `OnChange` is idempotent. -/
theorem onChange_retries_failed_setups (watchError : Namespace → String) (s : ScopeWorld)
    (resources : List DesiredResource) (watchErr : Namespace → Option String) :
    let taskList := s.known.createTaskList resources
    let next := (s.step watchError resources watchErr).known.createTaskList resources
    next.teardownNamespaces = [] ∧ next.newUIDs.entries = [] ∧
      ∀ ns, ns ∈ next.setupNamespaces ↔
        ns ∈ taskList.setupNamespaces ∧ (watchErr ns).isSome := by
  intro taskList next
  have hwatched : ∀ k, ((s.onChange watchError taskList watchErr).known.namespaceWatches.get?
      k).isSome ↔ _ := fun k => isSome_get?_onChange
  have ht : ∀ k, k ∈ taskList.teardownNamespaces ↔ _ := fun k =>
    WatcherKnownState.mem_teardownNamespaces
  have hs : ∀ k, k ∈ taskList.setupNamespaces ↔ _ := fun k =>
    WatcherKnownState.mem_setupNamespaces
  refine ⟨List.eq_nil_iff_forall_not_mem.mpr fun ns hns => ?_,
    WatcherKnownState.newUIDs_eq_nil fun r hr u hu => ?_, fun ns => ?_⟩
  · obtain ⟨hw, hnot⟩ := WatcherKnownState.mem_teardownNamespaces.mp hns
    rcases (hwatched ns).mp hw with ⟨hkeep, hw⟩ | ⟨hset, -⟩
    · exact hnot (by_contra fun hn => hkeep ((ht ns).mpr ⟨hw, hn⟩))
    · exact hnot ((hs ns).mp hset).1
  · rw [step, onChange_knownDeployedUIDs]
    refine isSome_registerUIDs ?_
    cases hk : s.known.knownDeployedUIDs u with
    | some mn => exact .inl rfl
    | none =>
      exact .inr (KeyedMap.isSome_get?_iff.mp (WatcherKnownState.isSome_get?_newUIDs hr hu hk))
  · rw [WatcherKnownState.mem_setupNamespaces]
    change ns ∈ taskList.watchableNamespaces ∧
      (s.onChange watchError taskList watchErr).known.namespaceWatches.get? ns = none ↔ _
    rw [← Option.not_isSome_iff_eq_none, hwatched, ht, hs]
    simp only [← Option.not_isSome_iff_eq_none]
    tauto

end ScopeWorld

theorem PodWatcher.onChange_knownDeployedUIDs (w : PodWatcher) (s : ScopeWorld)
    (resources : List DesiredResource) (watchErr : Namespace → Option String)
    (h : w.knownDeployedUIDs = s.known.knownDeployedUIDs) :
    let d := PodWatcher.diff s.known resources
    (w.onChange d.2 d.1.newUIDs.entries).1.knownDeployedUIDs =
      (s.step podWatchError resources watchErr).known.knownDeployedUIDs := by
  rw [ScopeWorld.step, ScopeWorld.onChange_knownDeployedUIDs, ← h]
  exact PodWatcher.setupNewUIDs_knownDeployedUIDs _ _

theorem EventWatchManager.setupNewUIDs_agrees (m : EventWatchManager) (s : ScopeWorld)
    (resources : List DesiredResource) (watchErr : Namespace → Option String)
    (h : m.knownDeployedUIDs = s.known.knownDeployedUIDs) :
    (m.setupNewUIDs (s.known.createTaskList resources).newUIDs.entries).1.knownDeployedUIDs =
      (s.step eventWatchError resources watchErr).known.knownDeployedUIDs := by
  rw [ScopeWorld.step, ScopeWorld.onChange_knownDeployedUIDs, ← h]
  exact EventWatchManager.setupNewUIDs_knownDeployedUIDs _ _

end TiltWatch
