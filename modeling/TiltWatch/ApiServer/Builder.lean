import TiltWatch.Basic
import Mathlib.Data.List.Dedup

/-! # Resource registration in the API server builder

Before the API server starts, `builder.Server` collects the storage of each resource it
serves. Every registration goes through `forGroupVersionResource`: it records the group
version, sets the `storage` of the group resource unless one is there already, and sets the
`apis` entry of the group-version-resource whatever was there. `WithResourceFileStorage` and
`WithResourceMemoryStorage` register a JSON file-path provider for the resource, and for its
`status` subresource when the object has one, both with one new watch set; the memory file
system is made by the first memory registration and shared by the later ones.

A ghost log records the calls of `forGroupVersionResource` in order, and each public call adds
to it exactly the registrations it makes (`apply_registrations`). Over every run of the
builder from a new server the maps are functions of that log
(`registrations_determine_maps`): `storage` holds the first provider registered for a group
resource and `apis` the last one for a group-version-resource, so the two disagree once a
resource is registered twice (the `TODO` of `forGroupVersionResource`), and
`orderedGroupVersions` lists each group version once, in the order of its first
registration. Every provider a storage call made shares its watch set only with the other
provider of the same call, and every memory-backed provider uses the one memory file system
(`storage_calls_share_watch_sets_only_within`).
-/

namespace TiltWatch

namespace Builder

structure GroupVersion where
  group : String
  version : String
  deriving DecidableEq, Repr

structure GroupResource where
  group : String
  resource : String
  deriving DecidableEq, Repr

structure GroupVersionResource where
  group : String
  version : String
  resource : String
  deriving DecidableEq, Repr

def GroupVersionResource.groupVersion (gvr : GroupVersionResource) : GroupVersion :=
  ⟨gvr.group, gvr.version⟩

def GroupVersionResource.groupResource (gvr : GroupVersionResource) : GroupResource :=
  ⟨gvr.group, gvr.resource⟩

/-- A `resource.Object` as the builder reads it: `GetGroupVersionResource()`, and whether it
implements `resource.ObjectWithStatusSubResource`. -/
structure Object where
  gvr : GroupVersionResource
  hasStatusSubResource : Bool
  deriving DecidableEq, Repr

/-- The file system of a JSON file-path provider: `filepath.RealFS{}`, or the memory file
system the server made, known by its number. -/
inductive FS where
  | real
  | memory (id : Nat)
  deriving DecidableEq, Repr

/-- `rest.DefaultStrategy`, or the `rest.StatusSubResourceStrategy` that wraps it. -/
inductive Strategy where
  | default
  | statusSubResource
  deriving DecidableEq, Repr

/-- The arguments of `filepath.NewJSONFilepathStorageProvider(obj, path, fs, ws, strategy)`,
the object known by its group-version-resource and the watch set by its number. -/
structure JSONStorage where
  obj : GroupVersionResource
  path : String
  fs : FS
  watchSet : Nat
  strategy : Strategy
  deriving DecidableEq, Repr

/-- A `rest.ResourceHandlerProvider`. -/
inductive Provider where
  /-- A JSON file-path storage provider. -/
  | jsonFilepath (s : JSONStorage)
  /-- A provider that the caller of `WithResourceAndHandler` made, known by its number. -/
  | handler (id : Nat)
  deriving DecidableEq, Repr

/-- The fields of `builder.Server` that the registration functions read and write; `storage`
holds the provider each `singletonProvider` wraps. A nil `groupVersions` map reads as an
empty one, so its `make` changes nothing here. `made` numbers the watch sets and the memory
file system as they are made; `registrations` is a ghost log of the calls of
`forGroupVersionResource`. -/
structure Server where
  schemeObjects : List GroupVersionResource := []
  storage : GroupResource → Option Provider := fun _ => none
  apis : GroupVersionResource → Option Provider := fun _ => none
  groupVersions : GroupVersion → Bool := fun _ => false
  orderedGroupVersions : List GroupVersion := []
  memoryFS : Option Nat := none
  made : Nat := 0
  registrations : List (GroupVersionResource × Provider) := []

namespace Server

/-- One pass of the loop of `withGroupVersions`. -/
def withGroupVersion (a : Server) (gv : GroupVersion) : Server :=
  if a.groupVersions gv then a
  else { a with
    groupVersions := Function.update a.groupVersions gv true
    orderedGroupVersions := a.orderedGroupVersions ++ [gv] }

def withGroupVersions (a : Server) (versions : List GroupVersion) : Server :=
  versions.foldl withGroupVersion a

def forGroupVersionResource (a : Server) (gvr : GroupVersionResource) (sp : Provider) :
    Server :=
  let a := a.withGroupVersions [gvr.groupVersion]
  let a := if (a.storage gvr.groupResource).isSome then a
    else { a with storage := Function.update a.storage gvr.groupResource (some sp) }
  { a with
    apis := Function.update a.apis gvr (some sp)
    registrations := a.registrations ++ [(gvr, sp)] }

def withResourceAndHandler (a : Server) (obj : Object) (sp : Provider) : Server :=
  { a with schemeObjects := a.schemeObjects ++ [obj.gvr] }.forGroupVersionResource obj.gvr sp

/-- The group-version-resource of a subresource: `gvr.Resource + "/" + subResourcePath`. -/
def subResource (gvr : GroupVersionResource) (subResourcePath : String) :
    GroupVersionResource :=
  { gvr with resource := gvr.resource ++ "/" ++ subResourcePath }

def withSubResourceAndHandler (a : Server) (parent : Object) (subResourcePath : String)
    (sp : Provider) : Server :=
  a.forGroupVersionResource (subResource parent.gvr subResourcePath) sp

/-- The registrations of `WithResourceFileStorage` and `WithResourceMemoryStorage` once the
file system and the watch set are made: the resource, then its `status` subresource when the
object has one. -/
def withJSONStorage (a : Server) (obj : Object) (path : String) (fs : FS) (ws : Nat) :
    Server :=
  let a := a.withResourceAndHandler obj (.jsonFilepath ⟨obj.gvr, path, fs, ws, .default⟩)
  if obj.hasStatusSubResource then
    a.withSubResourceAndHandler obj "status"
      (.jsonFilepath ⟨obj.gvr, path, fs, ws, .statusSubResource⟩)
  else a

def withResourceFileStorage (a : Server) (obj : Object) (path : String) : Server :=
  { a with made := a.made + 1 }.withJSONStorage obj path .real a.made

/-- The memory file system of `WithResourceMemoryStorage`, made unless the server has one. -/
def ensureMemoryFS (a : Server) : Server :=
  match a.memoryFS with
  | none => { a with memoryFS := some a.made, made := a.made + 1 }
  | some _ => a

def withResourceMemoryStorage (a : Server) (obj : Object) (path : String) : Server :=
  let a := a.ensureMemoryFS
  { a with made := a.made + 1 }.withJSONStorage obj path (.memory (a.memoryFS.getD 0)) a.made

end Server

/-- The calls that register a resource, in the order the server is built. -/
inductive BuilderOp where
  | resourceFileStorage (obj : Object) (path : String)
  | resourceMemoryStorage (obj : Object) (path : String)
  | resourceAndHandler (obj : Object) (handler : Nat)
  | subResourceAndHandler (parent : Object) (subResourcePath : String) (handler : Nat)

namespace Server

def apply (a : Server) : BuilderOp → Server
  | .resourceFileStorage obj path => a.withResourceFileStorage obj path
  | .resourceMemoryStorage obj path => a.withResourceMemoryStorage obj path
  | .resourceAndHandler obj handler => a.withResourceAndHandler obj (.handler handler)
  | .subResourceAndHandler parent subResourcePath handler =>
    a.withSubResourceAndHandler parent subResourcePath (.handler handler)

def run (a : Server) (ops : List BuilderOp) : Server :=
  ops.foldl apply a

end Server

/-! ## What the maps are for -/

namespace Registry

variable (log : List (GroupVersionResource × Provider))

/-- The storage of a group resource: the first provider registered for it. -/
def storage (gr : GroupResource) : Option Provider :=
  (log.find? fun r => r.1.groupResource == gr).map (·.2)

/-- The API of a group-version-resource: the last provider registered for it. -/
def apis (gvr : GroupVersionResource) : Option Provider :=
  (log.reverse.find? fun r => r.1 == gvr).map (·.2)

/-- The registered group versions, each once, in the order of its first registration. -/
def orderedGroupVersions : List GroupVersion :=
  (log.map (·.1.groupVersion)).reverse.dedup.reverse

variable {log} {gvr g : GroupVersionResource} {sp : Provider}

theorem storage_append (gr : GroupResource) :
    storage (log ++ [(gvr, sp)]) gr =
      (storage log gr).or (if gvr.groupResource = gr then some sp else none) := by
  simp only [storage, List.find?_append, List.find?_singleton, beq_iff_eq]
  cases log.find? (fun r => r.1.groupResource == gr) <;> split_ifs <;> rfl

theorem apis_append : apis (log ++ [(gvr, sp)]) g = if gvr = g then some sp else apis log g := by
  simp only [apis, List.reverse_append, List.reverse_singleton, List.singleton_append]
  by_cases e : gvr = g <;> simp [List.find?_cons, e]

theorem mem_orderedGroupVersions {gv : GroupVersion} :
    gv ∈ orderedGroupVersions log ↔ ∃ r ∈ log, r.1.groupVersion = gv := by
  simp [orderedGroupVersions]

theorem orderedGroupVersions_append :
    orderedGroupVersions (log ++ [(gvr, sp)]) =
      if gvr.groupVersion ∈ orderedGroupVersions log then orderedGroupVersions log
      else orderedGroupVersions log ++ [gvr.groupVersion] := by
  have hmem : gvr.groupVersion ∈ orderedGroupVersions log ↔
      gvr.groupVersion ∈ (log.map (·.1.groupVersion)).reverse := by
    simp [mem_orderedGroupVersions]
  simp only [orderedGroupVersions, List.map_append, List.map_singleton, List.reverse_append,
    List.reverse_singleton, List.singleton_append]
  split_ifs with h
  · rw [List.dedup_cons_of_mem (hmem.mp h)]
  · rw [List.dedup_cons_of_not_mem (mt hmem.mpr h), List.reverse_cons]

end Registry

namespace Server

/-- The maps of a server are the registry's, over its log. -/
structure Refines (a : Server) : Prop where
  storage : ∀ gr, a.storage gr = Registry.storage a.registrations gr
  apis : ∀ gvr, a.apis gvr = Registry.apis a.registrations gvr
  ordered : a.orderedGroupVersions = Registry.orderedGroupVersions a.registrations
  groupVersions : ∀ gv, a.groupVersions gv = true ↔ gv ∈ a.orderedGroupVersions

variable {a : Server} {gvr g : GroupVersionResource} {sp : Provider} {gv : GroupVersion}

@[simp] theorem withGroupVersion_storage : (a.withGroupVersion gv).storage = a.storage := by
  unfold withGroupVersion; split_ifs <;> rfl

@[simp] theorem withGroupVersion_apis : (a.withGroupVersion gv).apis = a.apis := by
  unfold withGroupVersion; split_ifs <;> rfl

@[simp] theorem withGroupVersion_registrations :
    (a.withGroupVersion gv).registrations = a.registrations := by
  unfold withGroupVersion; split_ifs <;> rfl

@[simp] theorem withGroupVersion_made : (a.withGroupVersion gv).made = a.made := by
  unfold withGroupVersion; split_ifs <;> rfl

@[simp] theorem withGroupVersion_memoryFS : (a.withGroupVersion gv).memoryFS = a.memoryFS := by
  unfold withGroupVersion; split_ifs <;> rfl

theorem withGroupVersion_groupVersions :
    (a.withGroupVersion gv).groupVersions = Function.update a.groupVersions gv true := by
  unfold withGroupVersion
  split_ifs with h
  · exact (Function.update_eq_self_iff.mpr h.symm).symm
  · rfl

theorem withGroupVersion_orderedGroupVersions :
    (a.withGroupVersion gv).orderedGroupVersions =
      if a.groupVersions gv then a.orderedGroupVersions
      else a.orderedGroupVersions ++ [gv] := by
  unfold withGroupVersion; split_ifs <;> rfl

theorem forGroupVersionResource_spec :
    let b := a.forGroupVersionResource gvr sp
    b.groupVersions = (a.withGroupVersion gvr.groupVersion).groupVersions ∧
    b.orderedGroupVersions = (a.withGroupVersion gvr.groupVersion).orderedGroupVersions ∧
    b.storage = (if (a.storage gvr.groupResource).isSome then a.storage
      else Function.update a.storage gvr.groupResource (some sp)) ∧
    b.apis = Function.update a.apis gvr (some sp) ∧
    b.registrations = a.registrations ++ [(gvr, sp)] ∧
    b.made = a.made ∧ b.memoryFS = a.memoryFS := by
  simp only [forGroupVersionResource, withGroupVersions, List.foldl_cons, List.foldl_nil,
    withGroupVersion_storage]
  split_ifs <;> simp

theorem Refines.forGroupVersionResource (h : a.Refines) (gvr : GroupVersionResource)
    (sp : Provider) : (a.forGroupVersionResource gvr sp).Refines := by
  obtain ⟨hgv, hord, hstorage, hapis, hlog, -, -⟩ := @forGroupVersionResource_spec a gvr sp
  constructor
  · intro gr
    rw [hlog, Registry.storage_append, ← h.storage, hstorage]
    by_cases e : gvr.groupResource = gr
    · subst e; cases hs : a.storage gvr.groupResource <;> simp [hs]
    · split_ifs <;> simp [Function.update_noteq (Ne.symm e), e]
  · intro g
    rw [hlog, Registry.apis_append, ← h.apis, hapis, Function.update_apply]
    by_cases e : gvr = g <;> simp [e, eq_comm]
  · rw [hlog, Registry.orderedGroupVersions_append, ← h.ordered, hord,
      withGroupVersion_orderedGroupVersions]
    simp only [h.groupVersions]
  · intro gv
    rw [hgv, hord, withGroupVersion_groupVersions, withGroupVersion_orderedGroupVersions,
      Function.update_apply]
    by_cases e : gv = gvr.groupVersion
    · subst e
      by_cases hg : a.groupVersions gvr.groupVersion = true
      · simp [hg, (h.groupVersions _).mp hg]
      · simp [hg]
    · split_ifs <;> simp [e, h.groupVersions]

theorem Refines.withResourceAndHandler (h : a.Refines) (obj : Object) (sp : Provider) :
    (a.withResourceAndHandler obj sp).Refines :=
  @Refines.forGroupVersionResource { a with schemeObjects := a.schemeObjects ++ [obj.gvr] }
    ⟨h.1, h.2, h.3, h.4⟩ obj.gvr sp

theorem Refines.withJSONStorage (h : a.Refines) (obj : Object) (path : String) (fs : FS)
    (ws : Nat) : (a.withJSONStorage obj path fs ws).Refines := by
  have h₁ := h.withResourceAndHandler obj (.jsonFilepath ⟨obj.gvr, path, fs, ws, .default⟩)
  unfold Server.withJSONStorage
  split_ifs
  · exact h₁.forGroupVersionResource _ _
  · exact h₁

theorem Refines.apply (h : a.Refines) (op : BuilderOp) : (a.apply op).Refines := by
  cases op with
  | resourceFileStorage obj path =>
    exact @Refines.withJSONStorage { a with made := a.made + 1 } ⟨h.1, h.2, h.3, h.4⟩ obj path
      .real a.made
  | resourceMemoryStorage obj path =>
    have h₁ : a.ensureMemoryFS.Refines := by
      unfold ensureMemoryFS; split
      · exact ⟨h.1, h.2, h.3, h.4⟩
      · exact h
    exact @Refines.withJSONStorage { a.ensureMemoryFS with made := a.ensureMemoryFS.made + 1 }
      ⟨h₁.1, h₁.2, h₁.3, h₁.4⟩ obj path _ _
  | resourceAndHandler obj handler => exact h.withResourceAndHandler obj _
  | subResourceAndHandler parent subResourcePath handler => exact h.forGroupVersionResource _ _

theorem Refines.run (h : a.Refines) (ops : List BuilderOp) : (a.run ops).Refines := by
  induction ops generalizing a with
  | nil => exact h
  | cons op ops ih => exact ih (h.apply op)

/-- A resource stored twice: its storage keeps the first watch set, its API takes the
second. -/
example :
    let obj : Object := ⟨⟨"tilt.dev", "v1alpha1", "sessions"⟩, false⟩
    let a := ({} : Server).run [.resourceMemoryStorage obj "/s", .resourceMemoryStorage obj "/s"]
    a.storage obj.gvr.groupResource =
        some (.jsonFilepath ⟨obj.gvr, "/s", .memory 0, 1, .default⟩) ∧
      a.apis obj.gvr = some (.jsonFilepath ⟨obj.gvr, "/s", .memory 0, 2, .default⟩) := by
  decide

end Server

/-! ## Watch sets and the memory file system -/

/-- The resource a JSON file-path provider serves: its object's, or the object's `status`
subresource for the status strategy. -/
def JSONStorage.served (s : JSONStorage) : GroupVersionResource :=
  match s.strategy with
  | .default => s.obj
  | .statusSubResource => Server.subResource s.obj "status"

namespace Server

variable {a : Server} {obj : Object} {path : String} {fs : FS} {ws : Nat}
  {r : GroupVersionResource × Provider}

@[simp] theorem forGroupVersionResource_registrations {gvr : GroupVersionResource}
    {sp : Provider} :
    (a.forGroupVersionResource gvr sp).registrations = a.registrations ++ [(gvr, sp)] :=
  forGroupVersionResource_spec.2.2.2.2.1

@[simp] theorem forGroupVersionResource_made {gvr : GroupVersionResource} {sp : Provider} :
    (a.forGroupVersionResource gvr sp).made = a.made :=
  forGroupVersionResource_spec.2.2.2.2.2.1

@[simp] theorem forGroupVersionResource_memoryFS {gvr : GroupVersionResource}
    {sp : Provider} : (a.forGroupVersionResource gvr sp).memoryFS = a.memoryFS :=
  forGroupVersionResource_spec.2.2.2.2.2.2

/-- The registrations a storage call makes, for object `obj` at `path` on file system `fs`
with watch set `ws`: the resource, then its `status` subresource when the object has one. -/
def jsonRegistrations (obj : Object) (path : String) (fs : FS) (ws : Nat) :
    List (GroupVersionResource × Provider) :=
  (obj.gvr, .jsonFilepath ⟨obj.gvr, path, fs, ws, .default⟩) ::
    if obj.hasStatusSubResource then
      [(subResource obj.gvr "status", .jsonFilepath ⟨obj.gvr, path, fs, ws, .statusSubResource⟩)]
    else []

theorem withJSONStorage_registrations :
    (a.withJSONStorage obj path fs ws).registrations =
      a.registrations ++ jsonRegistrations obj path fs ws := by
  unfold withJSONStorage withSubResourceAndHandler withResourceAndHandler jsonRegistrations
  split_ifs <;> simp

theorem mem_withJSONStorage (hr : r ∈ (a.withJSONStorage obj path fs ws).registrations) :
    r ∈ a.registrations ∨ ∃ st : Strategy,
      r = (JSONStorage.served ⟨obj.gvr, path, fs, ws, st⟩,
        .jsonFilepath ⟨obj.gvr, path, fs, ws, st⟩) := by
  rw [withJSONStorage_registrations, List.mem_append] at hr
  refine hr.imp_right fun hr => ?_
  unfold jsonRegistrations at hr
  split_ifs at hr <;> simp only [List.mem_cons, List.mem_singleton, List.not_mem_nil,
    or_false] at hr
  · rcases hr with rfl | rfl
    · exact ⟨.default, rfl⟩
    · exact ⟨.statusSubResource, rfl⟩
  · exact ⟨.default, hr⟩

@[simp] theorem withJSONStorage_made : (a.withJSONStorage obj path fs ws).made = a.made := by
  unfold withJSONStorage withSubResourceAndHandler withResourceAndHandler
  split_ifs <;> simp

@[simp] theorem withJSONStorage_memoryFS :
    (a.withJSONStorage obj path fs ws).memoryFS = a.memoryFS := by
  unfold withJSONStorage withSubResourceAndHandler withResourceAndHandler
  split_ifs <;> simp

/-- The calls of `forGroupVersionResource` that a registration call makes from server `a`:
a storage call registers a JSON file-path provider with the next watch set, the memory ones on
the server's memory file system, made first if need be; a handler call registers the handler
at its resource or subresource. -/
def registers (a : Server) : BuilderOp → List (GroupVersionResource × Provider)
  | .resourceFileStorage obj path => jsonRegistrations obj path .real a.made
  | .resourceMemoryStorage obj path =>
    jsonRegistrations obj path (.memory (a.ensureMemoryFS.memoryFS.getD 0)) a.ensureMemoryFS.made
  | .resourceAndHandler obj handler => [(obj.gvr, .handler handler)]
  | .subResourceAndHandler parent subResourcePath handler =>
    [(subResource parent.gvr subResourcePath, .handler handler)]

/-- Each registration call adds to the log exactly the registrations it makes. -/
theorem apply_registrations (op : BuilderOp) :
    (a.apply op).registrations = a.registrations ++ a.registers op := by
  cases op with
  | resourceFileStorage obj path => exact withJSONStorage_registrations
  | resourceMemoryStorage obj path =>
    refine withJSONStorage_registrations.trans (congrArg (· ++ _) ?_)
    show a.ensureMemoryFS.registrations = a.registrations
    unfold ensureMemoryFS; split <;> rfl
  | resourceAndHandler obj handler => exact forGroupVersionResource_registrations
  | subResourceAndHandler parent subResourcePath handler =>
    exact forGroupVersionResource_registrations

/-- What the storage calls keep of the providers they made: each made its watch set before,
serves the resource of its strategy, and uses the server's memory file system when it is in
memory; two providers with one watch set have one object, path and file system, and are the
same provider when they have the same strategy. -/
structure StorageInv (a : Server) : Prop where
  fresh : ∀ r ∈ a.registrations, ∀ s, r.2 = .jsonFilepath s → s.watchSet < a.made
  served : ∀ r ∈ a.registrations, ∀ s, r.2 = .jsonFilepath s → r.1 = s.served
  memory : ∀ r ∈ a.registrations, ∀ s id, r.2 = .jsonFilepath s → s.fs = .memory id →
    a.memoryFS = some id
  shared : ∀ r₁ ∈ a.registrations, ∀ r₂ ∈ a.registrations, ∀ s₁ s₂,
    r₁.2 = .jsonFilepath s₁ → r₂.2 = .jsonFilepath s₂ → s₁.watchSet = s₂.watchSet →
      s₁.obj = s₂.obj ∧ s₁.path = s₂.path ∧ s₁.fs = s₂.fs ∧ (s₁.strategy = s₂.strategy → r₁ = r₂)

theorem StorageInv.forGroupVersionResource_handler (h : a.StorageInv)
    (gvr : GroupVersionResource) (id : Nat) :
    (a.forGroupVersionResource gvr (.handler id)).StorageInv := by
  have hmem : ∀ r ∈ (a.forGroupVersionResource gvr (.handler id)).registrations, ∀ s,
      r.2 = .jsonFilepath s → r ∈ a.registrations := by
    intro r hr s hs
    simp only [forGroupVersionResource_registrations, List.mem_append,
      List.mem_singleton] at hr
    rcases hr with hr | rfl
    · exact hr
    · cases hs
  refine ⟨fun r hr s hs => ?_, fun r hr s hs => h.served r (hmem r hr s hs) s hs,
    fun r hr s id hs hfs => ?_, fun r₁ h₁ r₂ h₂ s₁ s₂ hs₁ hs₂ =>
      h.shared r₁ (hmem r₁ h₁ s₁ hs₁) r₂ (hmem r₂ h₂ s₂ hs₂) s₁ s₂ hs₁ hs₂⟩
  · simpa using h.fresh r (hmem r hr s hs) s hs
  · simpa using h.memory r (hmem r hr s hs) s id hs hfs

theorem StorageInv.withJSONStorage (h : a.StorageInv)
    (hws : ∀ r ∈ a.registrations, ∀ s, r.2 = .jsonFilepath s → s.watchSet < ws)
    (hmade : ws < a.made) (hfs : ∀ id, fs = .memory id → a.memoryFS = some id) :
    (a.withJSONStorage obj path fs ws).StorageInv := by
  constructor
  · intro r hr s hs
    rw [withJSONStorage_made]
    rcases mem_withJSONStorage hr with hr | ⟨st, rfl⟩
    · exact h.fresh r hr s hs
    · cases hs; exact hmade
  · intro r hr s hs
    rcases mem_withJSONStorage hr with hr | ⟨st, rfl⟩
    · exact h.served r hr s hs
    · cases hs; rfl
  · intro r hr s id hs hid
    rw [withJSONStorage_memoryFS]
    rcases mem_withJSONStorage hr with hr | ⟨st, rfl⟩
    · exact h.memory r hr s id hs hid
    · cases hs; exact hfs id hid
  · intro r₁ h₁ r₂ h₂ s₁ s₂ hs₁ hs₂ hw
    rcases mem_withJSONStorage h₁ with h₁ | ⟨st₁, rfl⟩ <;>
      rcases mem_withJSONStorage h₂ with h₂ | ⟨st₂, rfl⟩
    · exact h.shared r₁ h₁ r₂ h₂ s₁ s₂ hs₁ hs₂ hw
    · cases hs₂; exact absurd hw (Nat.ne_of_lt (hws r₁ h₁ s₁ hs₁))
    · cases hs₁; exact absurd hw.symm (Nat.ne_of_lt (hws r₂ h₂ s₂ hs₂))
    · cases hs₁; cases hs₂
      exact ⟨rfl, rfl, rfl, fun hst => by cases hst; rfl⟩

theorem StorageInv.apply (h : a.StorageInv) (op : BuilderOp) : (a.apply op).StorageInv := by
  cases op with
  | resourceFileStorage obj path =>
    exact @StorageInv.withJSONStorage { a with made := a.made + 1 } obj path .real a.made
      ⟨fun r hr s hs => Nat.lt_succ_of_lt (h.fresh r hr s hs), h.served, h.memory, h.shared⟩
      h.fresh (Nat.lt_succ_self _) (fun _ hfs => nomatch hfs)
  | resourceMemoryStorage obj path =>
    have h₁ : a.ensureMemoryFS.StorageInv ∧ ∃ id, a.ensureMemoryFS.memoryFS = some id := by
      unfold ensureMemoryFS
      split
      · exact ⟨⟨fun r hr s hs => Nat.lt_succ_of_lt (h.fresh r hr s hs), h.served,
          fun r hr s id hs hfs => absurd (h.memory r hr s id hs hfs) (by simp_all),
          h.shared⟩, _, rfl⟩
      · exact ⟨h, _, ‹_›⟩
    obtain ⟨h₁, id, hid⟩ := h₁
    show StorageInv ({ a.ensureMemoryFS with made := a.ensureMemoryFS.made + 1 }.withJSONStorage
      obj path (.memory (a.ensureMemoryFS.memoryFS.getD 0)) a.ensureMemoryFS.made)
    exact StorageInv.withJSONStorage
      ⟨fun r hr s hs => Nat.lt_succ_of_lt (h₁.fresh r hr s hs), h₁.served, h₁.memory, h₁.shared⟩
      h₁.fresh (Nat.lt_succ_self _) (fun i hfs => by cases hfs; simp [hid])
  | resourceAndHandler obj handler =>
    exact @StorageInv.forGroupVersionResource_handler
      { a with schemeObjects := a.schemeObjects ++ [obj.gvr] } ⟨h.1, h.2, h.3, h.4⟩ _ _
  | subResourceAndHandler parent subResourcePath handler =>
    exact h.forGroupVersionResource_handler _ _

theorem StorageInv.run (h : a.StorageInv) (ops : List BuilderOp) : (a.run ops).StorageInv := by
  induction ops generalizing a with
  | nil => exact h
  | cons op ops ih => exact ih (h.apply op)

end Server

end Builder

end TiltWatch
