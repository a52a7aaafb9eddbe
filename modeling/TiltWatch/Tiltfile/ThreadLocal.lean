import TiltWatch.Basic

/-! # Thread locals of a Tiltfile run

The Tiltfile builtins keep two values on the Starlark thread between calls: the image whose
build context is being read, under `buildContext`, and the files read so far, under
`readFiles`. A thread local is an `interface{}`, and each getter asserts its dynamic type
and fails with an internal error when it is not the one it expects.

`recordReadFile` appends the absolute form of a path to the list and `getAndClearReadFiles`
returns the list and clears it. Over every run of the thread, in which the other builtins
may write other locals and take the build context, the replies of these two functions are
those of a store that holds the absolute paths recorded since the last clear
(`read_files_returns_paths_since_last_clear`).

The two getters differ on a value of the wrong type. `getAndClearReadFiles` clears the local
before it looks at the error, so the error is reported once and recording starts again from
an empty list; `getAndClearBuildContext` returns before it clears, so the value stays and
every later call fails (`stale_build_context_fails_every_call`).

`filepath.Abs` is a parameter, `abs`, whose error `recordReadFile` passes on. Of a
`skylark.Thread` only the map of thread locals is read; a key never set reads as `nil`.
-/

namespace TiltWatch

namespace Tiltfile

/-- The dynamic value of a thread local, as the getters' type assertions tell it apart. -/
inductive Local (Image : Type) where
  /-- `nil`: never set, or cleared by `SetLocal(key, nil)`. -/
  | nil
  /-- A `*dockerImage`. -/
  | dockerImage (image : Image)
  /-- A `[]string`. -/
  | strings (files : List String)
  /-- A value of any other dynamic type. -/
  | other
  deriving DecidableEq, Repr

/-- The thread locals of a `skylark.Thread`. -/
structure Thread (Image : Type) where
  locals : String → Local Image

variable {Image : Type}

def Thread.local (t : Thread Image) (key : String) : Local Image :=
  t.locals key

def Thread.setLocal (t : Thread Image) (key : String) (value : Local Image) : Thread Image :=
  ⟨Function.update t.locals key value⟩

def buildContextKey : String := "buildContext"

def readFilesKey : String := "readFiles"

/-- `getAndClearBuildContext`: the error, or the image (`none` for `nil`), and the thread. -/
def getAndClearBuildContext (t : Thread Image) : Except String (Option Image) × Thread Image :=
  match t.local buildContextKey with
  | .nil => (.ok none, t)
  | .dockerImage buildContext => (.ok (some buildContext), t.setLocal buildContextKey .nil)
  | _ => (.error "internal error: buildContext thread local was not of type *dockerImage", t)

/-- `getReadFiles`; a `nil` local is the empty list. -/
def getReadFiles (t : Thread Image) : Except String (List String) :=
  match t.local readFilesKey with
  | .nil => .ok []
  | .strings readFiles => .ok readFiles
  | _ => .error "internal error: readFiles thread local was not of type []string"

/-- `getAndClearReadFiles`: the local is cleared whatever `getReadFiles` returned. -/
def getAndClearReadFiles (t : Thread Image) : Except String (List String) × Thread Image :=
  (getReadFiles t, t.setLocal readFilesKey .nil)

def recordReadFile (abs : String → Except String String) (t : Thread Image) (path : String) :
    Except String Unit × Thread Image :=
  match abs path with
  | .error err => (.error err, t)
  | .ok path =>
    match getReadFiles t with
    | .error err => (.error err, t)
    | .ok readFiles => (.ok (), t.setLocal readFilesKey (.strings (readFiles ++ [path])))

/-- What a Tiltfile run does to the thread: the builtins' calls of the functions above, and
writes of thread locals by the builtins not modelled here. -/
inductive ThreadOp (Image : Type) where
  | recordReadFile (path : String)
  | getAndClearReadFiles
  | getAndClearBuildContext
  | setLocal (key : String) (value : Local Image)

/-- What each operation returns to its builtin. -/
inductive Reply (Image : Type) where
  | recorded (r : Except String Unit)
  | readFiles (r : Except String (List String))
  | buildContext (r : Except String (Option Image))
  | set

/-- The replies of the read-files functions. -/
def Reply.isReadFiles : Reply Image → Bool
  | .recorded _ | .readFiles _ => true
  | _ => false

namespace ThreadOp

variable (abs : String → Except String String)

def step (t : Thread Image) : ThreadOp Image → Reply Image × Thread Image
  | .recordReadFile path => (Tiltfile.recordReadFile abs t path).map .recorded id
  | .getAndClearReadFiles => (Tiltfile.getAndClearReadFiles t).map .readFiles id
  | .getAndClearBuildContext => (Tiltfile.getAndClearBuildContext t).map .buildContext id
  | .setLocal key value => (.set, t.setLocal key value)

def run (t : Thread Image) : List (ThreadOp Image) → List (Reply Image) × Thread Image
  | [] => ([], t)
  | op :: ops =>
    let s := step abs t op
    let rest := run s.2 ops
    (s.1 :: rest.1, rest.2)

/-- What the read-files local is for, one operation at a time: a store of the absolute paths
recorded since the last clear, or the error of a value of the wrong type. A recording adds
its path to the store, a clear returns the store and empties it, and the other operations
neither touch it nor reply. -/
def readFilesSpecStep (s : Except String (List String)) :
    ThreadOp Image → List (Reply Image) × Except String (List String)
  | .recordReadFile path =>
    match abs path, s with
    | .error err, _ => ([.recorded (.error err)], s)
    | .ok _, .error err => ([.recorded (.error err)], s)
    | .ok path, .ok pending => ([.recorded (.ok ())], .ok (pending ++ [path]))
  | .getAndClearReadFiles => ([.readFiles s], .ok [])
  | _ => ([], s)

/-- The replies the read-files functions owe over a run, by `readFilesSpecStep`. -/
def readFilesSpec (s : Except String (List String)) : List (ThreadOp Image) → List (Reply Image)
  | [] => []
  | op :: ops =>
    let s' := readFilesSpecStep abs s op
    s'.1 ++ readFilesSpec s'.2 ops

end ThreadOp

section Locals

variable {t : Thread Image} {key : String} {value : Local Image}

@[simp] theorem local_setLocal_self : (t.setLocal key value).local key = value :=
  Function.update_same _ _ _

@[simp] theorem local_setLocal_of_ne {key' : String} (h : key' ≠ key) :
    (t.setLocal key value).local key' = t.local key' :=
  Function.update_noteq h _ _

theorem buildContextKey_ne_readFilesKey : buildContextKey ≠ readFilesKey := by decide

@[simp] theorem getReadFiles_strings {files : List String} :
    getReadFiles (t.setLocal readFilesKey (.strings files)) = .ok files := by
  simp [getReadFiles]

@[simp] theorem getReadFiles_nil : getReadFiles (t.setLocal readFilesKey .nil) = .ok [] := by
  simp [getReadFiles]

theorem getReadFiles_setLocal_of_ne (h : key ≠ readFilesKey) :
    getReadFiles (t.setLocal key value) = getReadFiles t := by
  simp only [getReadFiles, local_setLocal_of_ne (Ne.symm h)]

theorem getReadFiles_getAndClearBuildContext :
    getReadFiles (getAndClearBuildContext t).2 = getReadFiles t := by
  unfold getAndClearBuildContext
  split <;> simp only [getReadFiles_setLocal_of_ne buildContextKey_ne_readFilesKey]

theorem local_recordReadFile_of_ne (abs : String → Except String String) {path : String}
    (h : key ≠ readFilesKey) : (recordReadFile abs t path).2.local key = t.local key := by
  unfold recordReadFile
  split
  · rfl
  · split
    · rfl
    · exact local_setLocal_of_ne h

end Locals

namespace ThreadOp

variable {abs : String → Except String String} {t : Thread Image}

theorem step_readFiles {op : ThreadOp Image}
    (hop : ∀ value, op ≠ .setLocal readFilesKey value) :
    [(step abs t op).1].filter Reply.isReadFiles = (readFilesSpecStep abs (getReadFiles t) op).1 ∧
      getReadFiles (step abs t op).2 = (readFilesSpecStep abs (getReadFiles t) op).2 := by
  cases op with
  | recordReadFile path =>
    simp only [step, readFilesSpecStep, Tiltfile.recordReadFile]
    split <;> split <;> simp_all [Reply.isReadFiles]
  | getAndClearReadFiles =>
    simp [step, readFilesSpecStep, Tiltfile.getAndClearReadFiles, Reply.isReadFiles]
  | getAndClearBuildContext =>
    simp [step, readFilesSpecStep, getReadFiles_getAndClearBuildContext, Reply.isReadFiles]
  | setLocal key value =>
    have hkey : key ≠ readFilesKey := fun hk => hop value (hk ▸ rfl)
    simp [step, readFilesSpecStep, getReadFiles_setLocal_of_ne hkey, Reply.isReadFiles]

/-- Over every run whose operations do not write the read-files local themselves, every
`recordReadFile` and `getAndClearReadFiles` replies as the store of the absolute paths
recorded since the last clear: each clear returns exactly the paths recorded since the one
before, in order, whatever the build-context calls and the writes of other locals between
them. From a thread whose list has the wrong type, every recording fails and the first clear
reports the error and starts the store afresh. -/
theorem read_files_returns_paths_since_last_clear (t : Thread Image) (ops : List (ThreadOp Image))
    (hops : ∀ value, ThreadOp.setLocal readFilesKey value ∉ ops) :
    (run abs t ops).1.filter Reply.isReadFiles = readFilesSpec abs (getReadFiles t) ops := by
  induction ops generalizing t with
  | nil => rfl
  | cons op ops ih =>
    obtain ⟨hreply, hnext⟩ := @step_readFiles _ abs t op fun v hv =>
      hops v (hv ▸ List.mem_cons_self _ _)
    have hrest := ih (step abs t op).2 fun v hv => hops v (List.mem_cons_of_mem _ hv)
    rw [run, readFilesSpec, ← hnext, ← hreply, ← hrest, ← List.filter_append]
    rfl

/-- Two files read around a build-context call and cleared together, then a third read and
cleared alone; `abs` resolves against `/src`. -/
theorem read_files_returns_paths_since_last_clear_two_clears :
    let abs : String → Except String String := fun path => .ok ("/src/" ++ path)
    let t : Thread Unit := ⟨fun _ => .nil⟩
    let ops : List (ThreadOp Unit) := [.recordReadFile "Tiltfile", .getAndClearBuildContext,
      .recordReadFile "Dockerfile", .getAndClearReadFiles, .recordReadFile "k8s.yaml",
      .setLocal buildContextKey .nil, .getAndClearReadFiles]
    (run abs t ops).1.filter Reply.isReadFiles =
      [.recorded (.ok ()), .recorded (.ok ()),
        .readFiles (.ok ["/src/Tiltfile", "/src/Dockerfile"]),
        .recorded (.ok ()), .readFiles (.ok ["/src/k8s.yaml"])] := by
  intro abs t ops
  rw [read_files_returns_paths_since_last_clear t ops
    (by simp [ops, buildContextKey_ne_readFilesKey.symm])]
  rfl

section BuildContext

variable {abs : String → Except String String} {t : Thread Image}

theorem getAndClearBuildContext_of_stale
    (hbad : ∀ image, t.local buildContextKey ≠ .dockerImage image)
    (hset : t.local buildContextKey ≠ .nil) :
    Tiltfile.getAndClearBuildContext t =
      (.error "internal error: buildContext thread local was not of type *dockerImage", t) := by
  cases h : t.local buildContextKey with
  | nil => exact absurd h hset
  | dockerImage image => exact absurd h (hbad image)
  | strings files => simp [Tiltfile.getAndClearBuildContext, h]
  | other => simp [Tiltfile.getAndClearBuildContext, h]

theorem step_stale_buildContext (hbad : ∀ image, t.local buildContextKey ≠ .dockerImage image)
    (hset : t.local buildContextKey ≠ .nil) {op : ThreadOp Image}
    (hop : ∀ value, op ≠ .setLocal buildContextKey value) :
    (step abs t op).2.local buildContextKey = t.local buildContextKey ∧ ∀ x,
      (step abs t op).1 = .buildContext x →
        x = .error "internal error: buildContext thread local was not of type *dockerImage" := by
  cases op with
  | recordReadFile path =>
    exact ⟨local_recordReadFile_of_ne abs buildContextKey_ne_readFilesKey, by simp [step]⟩
  | getAndClearReadFiles =>
    exact ⟨local_setLocal_of_ne buildContextKey_ne_readFilesKey, by simp [step]⟩
  | getAndClearBuildContext => simp [step, getAndClearBuildContext_of_stale hbad hset]
  | setLocal key value =>
    have hkey : buildContextKey ≠ key := fun hk => hop value (hk ▸ rfl)
    exact ⟨local_setLocal_of_ne hkey, by simp [step]⟩

/-- A build context of the wrong type is never cleared: over every run that does not write
the build context itself, it stays, and every `getAndClearBuildContext` of the run fails with
the type error. (A read-files list of the wrong type is cleared by the first
`getAndClearReadFiles`, `read_files_returns_paths_since_last_clear`.) -/
theorem stale_build_context_fails_every_call (t : Thread Image) (ops : List (ThreadOp Image))
    (hbad : ∀ image, t.local buildContextKey ≠ .dockerImage image)
    (hset : t.local buildContextKey ≠ .nil)
    (hops : ∀ value, ThreadOp.setLocal buildContextKey value ∉ ops) :
    (run abs t ops).2.local buildContextKey = t.local buildContextKey ∧
      ∀ x, Reply.buildContext x ∈ (run abs t ops).1 →
        x = .error "internal error: buildContext thread local was not of type *dockerImage" := by
  induction ops generalizing t with
  | nil => exact ⟨rfl, by simp [run]⟩
  | cons op ops ih =>
    obtain ⟨hlocal, hreply⟩ := @step_stale_buildContext _ abs t hbad hset op fun v hv =>
      hops v (hv ▸ List.mem_cons_self _ _)
    obtain ⟨hend, hrest⟩ := ih (step abs t op).2 (hlocal ▸ hbad) (hlocal ▸ hset)
      fun v hv => hops v (List.mem_cons_of_mem _ hv)
    refine ⟨hend.trans hlocal, fun x hx => ?_⟩
    rcases List.mem_cons.mp hx with hx | hx
    · exact hreply x hx.symm
    · exact hrest x hx

/-- A build context left as a `[]string`: both calls fail, with a recording between them. -/
theorem stale_build_context_fails_every_call_twice :
    let abs : String → Except String String := fun path => .ok ("/src/" ++ path)
    let t : Thread Unit := ⟨fun key => if key = buildContextKey then .strings [] else .nil⟩
    let ops : List (ThreadOp Unit) :=
      [.getAndClearBuildContext, .recordReadFile "Dockerfile", .getAndClearBuildContext]
    (run abs t ops).2.local buildContextKey = .strings [] ∧
      ∀ x, Reply.buildContext x ∈ (run abs t ops).1 →
        x = .error "internal error: buildContext thread local was not of type *dockerImage" := by
  intro abs t ops
  exact stale_build_context_fails_every_call t ops (by simp [t, Thread.local])
    (by simp [t, Thread.local]) (by simp [ops])

end BuildContext

end ThreadOp

end Tiltfile

end TiltWatch
