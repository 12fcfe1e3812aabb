import InterpreterHost.Call.Registry
import InterpreterHost.Proofs.Host.Appending
import InterpreterHost.Proofs.Library.LeavingPath
import InterpreterHost.Proofs.Owner.Reading
import InterpreterHost.Proofs.State.Replacement
import InterpreterHost.State.Creator

/-!
# Directories that calls add

A state that is created or loaded and a function whose module is imported have a directory of their own added
to the search path, and all of them have it added in the same way.  Whatever calls come one after the other,
the search path is in the end what one single addition of some of their paths would have made of it.

## Main definitions

* `PathCall` — a call that may add directories to the search path
* `PathCall.directories` — the paths that a call names
* `SearchPath.GrownBy` — what a search path is once some of these paths were added
* `Host.AddsOnce` — what is known of such calls on a host

## Main statements

* `PathCall.serves_perform` — a call does to the owner no more than adding paths and the code of the library do
* `PathCall.grownBy_afterAll` — many calls add their paths as if all came at once
* `Host.addsOnce` — no path is added twice, whatever calls come, if no code changes the search path itself
* `Host.exists_added_twice` — a class that changes the search path has a path added twice
-/

namespace InterpreterHost

open InterpreterHost.Action

/-! ## What calls keep -/

section

variable {I : Owner → Prop} (settles : Owner.Settles I) (library : Owner.LibraryMaintains I)
include settles library

theorem Module.serves_load (name : String) : Keeps (Host.Serves I) True (Module.load name) :=
  serves_runCall settles name (Call.maintains_bind (Call.maintains_during _ _ _
    (Call.maintains_importModule settles library name)) fun _ => .pure _)

theorem Module.serves_newInstance (m : Module) (className : String) (args : List Value) :
    Keeps (Host.Serves I) True (m.newInstance className args) := by
  refine serves_callOn settles _ _ _ fun r => ?_
  refine Call.maintains_bind (Call.maintains_during _ _ _
    (Call.maintains_getAttribute settles library r className)) fun c => ?_
  refine Call.maintains_bind (Call.maintains_releasing settles library _ ?_) fun _ => .pure _
  exact Call.maintains_object settles library c _ _ _ args

theorem Instance.serves_call (i : Instance) (method : String) (args : List Value) :
    Keeps (Host.Serves I) True (i.call method args) :=
  serves_callOn settles _ _ _ fun r =>
    Call.maintains_bind (Call.maintains_member settles library r _ method args) fun result =>
      Call.maintains_toValue settles library method result

namespace Model

theorem serves_make {p : ModelParams} (path : Job.Maintains I (Job.appendSearchPath [p.modulePath])) :
    Keeps (Host.Serves I) True (make p) := by
  have made : Keeps (Host.Serves I) True (ExceptT.mk (Module.load p.moduleName) >>= fun m : Module =>
      m.handle.dropping (ExceptT.mk (m.newInstance p.className [.string p.modelPath, .int p.gpu]))).run :=
    keeps_run_bind (Module.serves_load settles library _) fun m =>
      serves_dropping settles _ (Module.serves_newInstance settles library m _ _)
  refine keeps_bind ?_ fun _ => keeps_pure _
  split
  · exact keeps_run_bind (serves_appendSearchPath settles path) fun _ => made
  · exact made

theorem serves_load (m : Model) (source : Source) : Keeps (Host.Serves I) True (m.load source) := by
  unfold load
  split
  · exact keeps_pure _
  · refine keeps_bind ?_ fun _ => keeps_pure _
    unfold call
    split
    · exact keeps_bind (Instance.serves_call settles library _ _ _) fun _ => keeps_pure _
    · exact keeps_pure _

omit library in
theorem serves_drop (m : Model) : Keeps (Host.Serves I) True m.drop := by
  unfold drop
  split
  · exact Action.serves_drop settles _
  · exact keeps_pure _

end Model

/-- To import the module of a function adds the directory of the function. -/
theorem NamedFunction.serves_loaded (f : NamedFunction)
    (path : Job.Maintains I (Job.appendSearchPath [f.path])) : Keeps (Host.Serves I) True f.loaded := by
  unfold loaded
  split
  · exact keeps_pure _
  · refine keeps_bind ?_ fun result => by cases result <;> exact keeps_pure _
    unfold importModule
    have imports := Module.serves_load settles library f.moduleName
    split
    · refine keeps_bind (keeps_pure _) fun reachable => ?_
      cases reachable with
      | error e => exact keeps_pure _
      | ok => exact imports
    · refine keeps_bind (serves_appendSearchPath settles path) fun reachable => ?_
      cases reachable with
      | error e => exact keeps_pure _
      | ok => exact imports

end

/-- A call that may add directories to the search path. -/
inductive PathCall where
  | append (paths : List String)
  /-- Create a state. -/
  | create (c : Creator) (params : ValueMap)
  /-- Read a state that was saved. -/
  | restore (c : Creator) (source : Source) (params : ValueMap)
  /-- Load a state. -/
  | load (s : SharedState) (source : Source) (params : ValueMap)
  /-- Register a function whose module is imported. -/
  | register (r : FunctionRegistry) (f : NamedFunction)
  /-- Import the module of a function that was registered. -/
  | loadFunction (r : FunctionRegistry) (n : Nat)

/-- The directory of the class that the header names which a source begins with. -/
def Container.directories (source : Source) : List String :=
  match read source with
  | (.ok header, _) => [header.modulePath]
  | (.error _, _) => []

/-- The directory of the class that parameters name. -/
def Creator.directories (c : Creator) (params : ValueMap) : List String :=
  match c with
  | .object fixed => match split fixed params with
    | .ok (p, _) => [p.modulePath]
    | .error _ => []
  | .model => match ModelParams.extract params with
    | .ok p => [p.modulePath]
    | .error _ => []

namespace PathCall

/-- Make the call; what it gives does not matter here. -/
def perform : PathCall → Action Unit
  | append paths => do let _ ← Action.appendSearchPath paths
  | create c params => do let _ ← c.create params
  | restore c source params => do let _ ← c.load source params
  | load s source params => do let _ ← s.load source params
  | register r f => do let _ ← r.registerLoaded f
  | loadFunction r n => do let _ ← r.load n

/-- The paths that the call names. -/
def directories : PathCall → List String
  | append paths => paths
  | create c params => c.directories params
  | restore (.object _) source _ | load (.object _) source _ => Container.directories source
  | restore .model _ params => Creator.model.directories params
  | load (.model _) _ _ => []
  | register _ f => [f.path]
  | loadFunction r n => (r.item? n).elim [] fun f => [f.path]

end PathCall

section

variable {I : Owner → Prop} (settles : Owner.Settles I) (library : Owner.LibraryMaintains I)
include settles library

theorem Creator.serves_createModel {params : ValueMap}
    (appends : ∀ path ∈ Creator.model.directories params, Job.Maintains I (Job.appendSearchPath [path])) :
    Keeps (Host.Serves I) True (createModel params) := by
  unfold createModel
  split
  · exact keeps_pure _
  · next p accepted =>
    refine Model.serves_make settles library (appends _ ?_)
    simp [Creator.directories, accepted]

theorem Creator.serves_create {c : Creator} {params : ValueMap}
    (appends : ∀ path ∈ c.directories params, Job.Maintains I (Job.appendSearchPath [path])) :
    Keeps (Host.Serves I) True (c.create params) := by
  cases c with
  | object fixed =>
    refine keeps_bind ?_ fun _ => keeps_pure _
    unfold createObject
    split
    · exact keeps_pure _
    · next p rest accepted =>
      have path : Job.Maintains I (Job.appendSearchPath [p.modulePath]) :=
        appends _ (by simp [Creator.directories, accepted])
      exact keeps_bind (keeps_bind (StateObject.serves_make settles library path) fun _ => keeps_pure _)
        fun _ => keeps_pure _
  | model => exact keeps_bind (serves_createModel settles library appends) fun _ => keeps_pure _

omit settles library in
/-- What a header names is among the directories of its source. -/
theorem Container.forall_directories {P : String → Prop} {source : Source}
    (holds : ∀ path ∈ directories source, P path) (header : StateParams) (rest : Source)
    (read : Container.read source = (.ok header, rest)) : P header.modulePath :=
  holds _ (by simp [directories, read])

theorem Creator.serves_load {c : Creator} {source : Source} {params : ValueMap}
    (appends : ∀ path ∈ (PathCall.restore c source params).directories,
      Job.Maintains I (Job.appendSearchPath [path])) :
    Keeps (Host.Serves I) True (c.load source params) := by
  cases c with
  | object fixed =>
    exact keeps_bind (StateObject.serves_restore settles library (Container.forall_directories appends))
      fun _ => keeps_pure _
  | model =>
    refine keeps_bind ?_ fun _ => keeps_pure _
    unfold loadModel
    split
    · exact keeps_pure _
    · refine keeps_bind (serves_createModel settles library appends) fun created => ?_
      cases created with
      | error e => exact keeps_pure _
      | ok m =>
        refine keeps_bind (Model.serves_load settles library m source) fun loaded => ?_
        split
        · exact keeps_pure _
        · exact keeps_bind (Model.serves_drop settles m) fun _ => keeps_pure _

namespace PathCall

/-- A call leaves a host that serves, and of the owner what the code of the library keeps and what adding the
paths does that the call names. -/
theorem serves_perform {c : PathCall}
    (appends : ∀ paths, (∀ path ∈ paths, path ∈ c.directories) → Job.Maintains I (Job.appendSearchPath paths)) :
    Keeps (Host.Serves I) True c.perform := by
  have appendsOne : ∀ path ∈ c.directories, Job.Maintains I (Job.appendSearchPath [path]) :=
    fun path mem => appends [path] (List.forall_mem_singleton.2 mem)
  cases c with
  | append paths => exact keeps_bind (serves_appendSearchPath settles (appends paths fun _ => id)) fun _ => keeps_pure _
  | create c params => exact keeps_bind (Creator.serves_create settles library appendsOne) fun _ => keeps_pure _
  | restore c source params => exact keeps_bind (Creator.serves_load settles library appendsOne) fun _ => keeps_pure _
  | load s source params =>
    refine keeps_bind ?_ fun _ => keeps_pure _
    cases s with
    | object o =>
      exact keeps_bind (StateObject.serves_load settles source params library
        (Container.forall_directories appendsOne) o.object) fun _ => keeps_pure _
    | model m => exact keeps_bind (Model.serves_load settles library m source) fun _ => keeps_pure _
  | register r f =>
    refine keeps_bind ?_ fun _ => keeps_pure _
    unfold FunctionRegistry.registerLoaded
    split
    · exact keeps_pure _
    · refine keeps_bind (NamedFunction.serves_loaded settles library f
        (appendsOne _ (List.mem_singleton_self _))) fun loaded => ?_
      split <;> exact keeps_pure _
  | loadFunction r n =>
    refine keeps_bind ?_ fun _ => keeps_pure _
    unfold FunctionRegistry.load
    split
    · exact keeps_pure _
    · next f found =>
      refine keeps_bind (NamedFunction.serves_loaded settles library f (appendsOne _ ?_)) fun _ => keeps_pure _
      simp [directories, found]

end PathCall

end

/-! ## Search paths that have grown -/

/-- The search path has got some of the paths and nothing else. -/
def SearchPath.GrownBy (before : SearchPath) (paths : List String) (s : SearchPath) : Prop :=
  ∃ added, (∀ path ∈ added, path ∈ paths) ∧ s = (before.append added).1

theorem SearchPath.grownBy_self (s : SearchPath) (paths : List String) : s.GrownBy paths s :=
  ⟨[], List.forall_mem_nil _, by cases s <;> rfl⟩

/-- What was added before and what is added now are added as if at once. -/
theorem SearchPath.GrownBy.append {before s : SearchPath} {paths more : List String} (grown : before.GrownBy paths s)
    (subset : ∀ path ∈ more, path ∈ paths) : before.GrownBy paths (s.append more).1 := by
  obtain ⟨added, among, rfl⟩ := grown
  refine ⟨added ++ more, ?_, (before.append_concat added more).symm⟩
  exact fun path mem => (List.mem_append.1 mem).elim (among path) (subset path)

theorem Job.maintains_grownBy {library : Library} {before : SearchPath} {paths more : List String}
    (subset : ∀ path ∈ more, path ∈ paths) :
    Job.Maintains (Owner.PathHas library (before.GrownBy paths)) (Job.appendSearchPath more) := by
  intro o holds
  rw [Job.run_appendSearchPath]
  exact ⟨holds.1, holds.2.append subset⟩

namespace PathCall

variable {h : Host}

/-- The host once the call was made, whatever came of it. -/
def after (h : Host) (c : PathCall) : Host := (c.perform.run h).2

/-- Calls, one after the other, leave a host that serves.  Its search path has got some of the paths that they
name. -/
theorem serves_afterAll {library : Library} {before : SearchPath} {paths : List String}
    (leaves : library.LeavesPath) (calls : List PathCall) (named : ∀ c ∈ calls, ∀ path ∈ c.directories, path ∈ paths)
    (serves : h.Serves (Owner.PathHas library (before.GrownBy paths))) :
    (calls.foldl after h).Serves (Owner.PathHas library (before.GrownBy paths)) := by
  induction calls generalizing h with
  | nil => exact serves
  | cons c calls ih =>
    rw [List.forall_mem_cons] at named
    refine ih named.2 ?_
    refine (serves_perform Owner.settles_pathHas (Owner.libraryMaintains_pathHas leaves) ?_ h serves).1
    exact fun more subset => Job.maintains_grownBy fun path mem => named.1 path (subset path mem)

/-- Many calls add some of the paths that they name, as if these came at once. -/
theorem grownBy_afterAll (ready : h.Ready) (running : h.broker.stage = .running) (outside : h.insideJob = false)
    (leaves : h.owner.library.LeavesPath) (tasks : ∀ t ∈ h.broker.queue, t.LeavesPath) (calls : List PathCall) :
    h.owner.interpreter.searchPath.GrownBy (calls.flatMap directories)
      (calls.foldl after h).owner.interpreter.searchPath := by
  have serves : h.Serves (Owner.PathHas h.owner.library
      (h.owner.interpreter.searchPath.GrownBy (calls.flatMap directories))) :=
    ⟨ready.configured, running, outside, ⟨rfl, SearchPath.grownBy_self _ _⟩,
      fun t mem => (tasks t mem).maintains_pathHas⟩
  refine (serves_afterAll leaves calls ?_ serves).owner.2
  exact fun c mem path named => List.mem_flatMap.2 ⟨c, mem, named⟩

end PathCall

/-- What is known of the calls of a host that add directories. -/
structure Host.AddsOnce (h : Host) : Prop where
  laws : ∀ s : SearchPath, s.AddsMissing
  /-- Without paths nothing happens. -/
  nothing : (Action.appendSearchPath []).run h = (.ok (.ok ()), h)
  /-- A call adds its paths to the search path that the tasks in line have left, and changes nothing else. -/
  call : ∀ paths ≠ [], ∃ h', (Action.appendSearchPath paths).run h =
      (.ok (SearchPath.answer (h.ownerAfterTasks.interpreter.searchPath.append paths).2), h') ∧
    h'.owner = h.ownerAfterTasks.withSearchPath (h.ownerAfterTasks.interpreter.searchPath.append paths).1
  /-- Calls of any kind, one after the other, add no path twice, and none that is there, as long as the code of
  the library and the tasks in line leave the search path as it is. -/
  once : h.owner.library.LeavesPath → (∀ t ∈ h.broker.queue, t.LeavesPath) →
    ∀ (calls : List PathCall) (items : List SearchItem), h.owner.interpreter.searchPath = .list items →
    .incomparable ∉ items → ∃ added : List String, (calls.foldl PathCall.after h).owner.interpreter.searchPath =
        .list (items ++ added.map .directory) ∧
      added.Nodup ∧ ∀ path ∈ added, .directory path ∉ items ∧ ∃ c ∈ calls, path ∈ c.directories
  /-- They do not touch what is no list. -/
  fixed : h.owner.library.LeavesPath → (∀ t ∈ h.broker.queue, t.LeavesPath) →
    (∀ items, h.owner.interpreter.searchPath ≠ .list items) → ∀ calls : List PathCall,
    (calls.foldl PathCall.after h).owner.interpreter.searchPath = h.owner.interpreter.searchPath

namespace Host

open PathCall

variable {h : Host}

/-- Directories are added once, unless code that calls run changes the search path itself. -/
theorem addsOnce (configured : h.config.isSome = true) (running : h.broker.stage = .running)
    (outside : h.insideJob = false) : h.AddsOnce := by
  have ready : h.Ready := ⟨configured, by simp [running]⟩
  refine ⟨SearchPath.addsMissing, run_appendSearchPath_nil ready,
    fun paths some => run_appendSearchPath ready outside running some, ?_, ?_⟩
  · intro leaves tasks calls items before comparable
    obtain ⟨named, among, after⟩ := grownBy_afterAll ready running outside leaves tasks calls
    rw [before] at after
    refine ⟨SearchPath.absent (SearchPath.list items).directories named, ?_, SearchPath.nodup_absent _ named,
      fun path mem => ?_⟩
    · exact after.trans (congrArg Prod.fst (SearchPath.append_of_comparable comparable named))
    · obtain ⟨mem, new⟩ := SearchPath.mem_absent.1 mem
      exact ⟨fun there => new (SearchPath.mem_directories.2 there), List.mem_flatMap.1 (among path mem)⟩
  · intro leaves tasks other calls
    obtain ⟨named, -, after⟩ := grownBy_afterAll ready running outside leaves tasks calls
    rw [after]
    cases named with
    | nil => cases h.owner.interpreter.searchPath <;> rfl
    | cons path named => rw [SearchPath.append_of_not_list other (List.cons_ne_nil path named)]

/-- A session of the class that makes nothing, which starts with two directories. -/
def withDirectories : Host :=
  ((Action.startSession { interpreter := { searchPaths := ["a"] } }).run
    { surroundings := { library := ObjectState.blankLibrary, interpreter := { searchPath := .of ["lib", "lib"] } } }).2

/-- Two calls and the creation of a state name a directory again and again; it is added once. -/
theorem addsOnce_withDirectories : withDirectories.AddsOnce ∧ withDirectories.owner.library.LeavesPath ∧
    withDirectories.broker.queue = [] ∧
    ([PathCall.append ["b", "a", "b"],
      .create (.object (some { ObjectState.blankParams "" with modulePath := "c" })) [],
      .append ["d", "c", "lib"]].foldl PathCall.after withDirectories).owner.interpreter.searchPath =
      .of ["lib", "lib", "a", "b", "c", "d"] := by
  have leaves : withDirectories.owner.library.LeavesPath := by
    refine Library.leavesPath fun source mem => ?_
    cases List.mem_singleton.1 mem
    rintro members ⟨⟩ m mem
    cases List.mem_singleton.1 mem
    intro member mem
    rcases List.mem_pair.1 mem with rfl | rfl <;> exact fun _ _ => Computation.leavesPath_new _
  exact ⟨addsOnce (by decide +kernel) (by decide +kernel) (by decide +kernel), leaves, rfl, by decide +kernel⟩

/-- A module with a class that empties the search path when it makes something. -/
def emptyingLibrary : Library :=
  let create : Routine := .native fun _ _ => do
    modify fun i => { i with searchPath := .list [] }
    Computation.newNone
  [{ name := "m", content := .ok [("C", .cls none [("create", .described .static create)])] }]

/-- A session with the module, which starts with no directory. -/
def emptying : Host :=
  ((Action.startSession {}).run
    { surroundings := { library := emptyingLibrary, interpreter := { searchPath := .of [] } } }).2

/-- Between two calls that add a directory a state of the class is created.  Both add it. -/
theorem exists_added_twice :
    ∃ (h : Host) (path : String) (create : PathCall), h.config.isSome = true ∧ h.broker.stage = .running ∧
      h.insideJob = false ∧ h.owner.interpreter.searchPath = .of [] ∧
      (after h (.append [path])).owner.interpreter.searchPath = .of [path] ∧
      ([.append [path], create].foldl after h).owner.interpreter.searchPath = .of [] ∧
      ([.append [path], create, .append [path]].foldl after h).owner.interpreter.searchPath = .of [path] := by
  refine ⟨emptying, "c", .create (.object (some (ObjectState.blankParams ""))) [], ?_⟩
  exact ⟨by decide +kernel, by decide +kernel, by decide +kernel, by decide +kernel, by decide +kernel,
    by decide +kernel, by decide +kernel⟩

end Host

end InterpreterHost
