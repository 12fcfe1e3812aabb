import InterpreterHost.Proofs.Host.SearchPath

/-!
# Libraries that leave the search path

What runs when a module is imported, an attribute is asked for or an object is called is in the end code of
the library: the interpreter itself only makes objects and gives up references.  So a library leaves the
search path as it is if the code of its own functions, classes and constants does.

## Main definitions

* `Computation.LeavesPath` — code that leaves the search path as it is, whatever comes of it
* `ModuleSource.LeavesPath` — a module all of whose code does

## Main statements

* `Library.leavesPath` — a library of such modules leaves the search path as it is
-/

namespace InterpreterHost

/-- Whatever comes of the code, the search path is left as it is. -/
def Computation.LeavesPath {α : Type} (code : Computation α) : Prop :=
  ∀ i, (code.run i).2.searchPath = i.searchPath

namespace Computation.LeavesPath

variable {α β : Type} {code : Computation α}

theorem pure (a : α) : LeavesPath (pure a) := fun _ => rfl

theorem throw (e : Raised) : LeavesPath (throw e : Computation α) := fun _ => rfl

theorem get : LeavesPath get := fun _ => rfl

theorem modify {f : Interpreter → Interpreter} (same : ∀ i, (f i).searchPath = i.searchPath) :
    LeavesPath (modify f : Computation PUnit) := same

theorem bind {next : α → Computation β} (first : LeavesPath code) (second : ∀ a, LeavesPath (next a)) :
    LeavesPath (code >>= next) := by
  intro i
  have left := first i
  rw [run_bind]
  rcases run : code.run i with ⟨e | a, i'⟩
  · rwa [run] at left
  · rw [run] at left
    exact (second a i').trans left

theorem tryCatch {handler : Raised → Computation α} (first : LeavesPath code)
    (second : ∀ e, LeavesPath (handler e)) : LeavesPath (tryCatch code handler) := by
  intro i
  have left := first i
  rw [run_tryCatch]
  rcases run : code.run i with ⟨e | a, i'⟩
  · rw [run] at left
    exact (second e i').trans left
  · rwa [run] at left

theorem mapM {f : α → Computation β} (l : List α) (each : ∀ a ∈ l, LeavesPath (f a)) : LeavesPath (l.mapM f) := by
  induction l with
  | nil => exact pure _
  | cons a l ih =>
    rw [List.mapM_cons]
    refine bind (each a List.mem_cons_self) fun b => bind (ih fun c mem => each c ?_) fun _ => pure _
    exact List.mem_cons_of_mem _ mem

theorem foldlM {f : β → α → Computation β} (l : List α) (each : ∀ b, ∀ a ∈ l, LeavesPath (f b a)) (b : β) :
    LeavesPath (l.foldlM f b) := by
  induction l generalizing b with
  | nil => exact pure _
  | cons a l ih =>
    rw [List.foldlM_cons]
    exact bind (each b a List.mem_cons_self) fun b' => ih (fun b c mem => each b c (List.mem_cons_of_mem _ mem)) b'

end Computation.LeavesPath

/-! ## What the interpreter does by itself -/

namespace Computation

open LeavesPath

variable {α : Type}

theorem leavesPath_look (r : Ref) : LeavesPath (look r) := .bind .get fun _ => .pure _

theorem leavesPath_new (o : Object) : LeavesPath (new o) := fun _ => rfl

theorem leavesPath_retain (r : Ref) : LeavesPath (retain r) := fun _ => rfl

theorem leavesPath_release (r : Ref) : LeavesPath (release r) := fun _ => rfl

theorem leavesPath_raise (className message : String) : LeavesPath (raise className message : Computation α) :=
  .throw _

theorem leavesPath_releasing (refs : List Ref) {code : Computation α} (leaves : LeavesPath code) :
    LeavesPath (releasing refs code) := by
  have released : LeavesPath (releaseAll refs) := fun _ => rfl
  exact .bind (.tryCatch leaves fun e => .bind released fun _ => .throw e) fun _ => .bind released fun _ => .pure _

theorem leavesPath_within (function : String) {code : Computation α} (leaves : LeavesPath code) :
    LeavesPath (within function code) := .tryCatch leaves fun _ => .throw _

theorem leavesPath_newDict (entries : List (String × Ref)) : LeavesPath (newDict entries) :=
  .bind (.mapM _ fun _ _ => .bind (leavesPath_new _) fun _ => .pure _) fun _ => leavesPath_new _

theorem leavesPath_bind (s : Signature) (function : String) (args : List Ref) (named : List (String × Ref)) :
    LeavesPath (Computation.bind s function args named) := by
  unfold Computation.bind
  split
  · exact leavesPath_raise _ _
  · next a _ =>
    refine .bind (.mapM _ fun value _ => ?_) fun values => ?_
    · cases value with
      | inl r => exact .pure _
      | inr c => exact .bind (leavesPath_new _) fun _ => .pure _
    · let both (rest named : List Ref) : Computation (List Ref × List Ref) :=
        return (values.map (·.1) ++ rest ++ named, values.flatMap (·.2) ++ rest ++ named)
      have collected (rest : List Ref) : LeavesPath (do
          if s.named then
            let r ← newDict (← a.named.mapM fun p => return (p.1, ← retain p.2))
            let named ← pure [r]
            both rest named
          else
            let named ← pure []
            both rest named) := by
        split
        · refine .bind (.mapM _ fun p _ => .bind (leavesPath_retain _) fun _ => .pure _) fun _ => ?_
          exact .bind (leavesPath_newDict _) fun _ => .bind (.pure _) fun _ => .pure _
        · exact .bind (.pure _) fun _ => .pure _
      dsimp only
      split
      · refine .bind (.mapM _ fun r _ => leavesPath_retain r) fun _ => ?_
        exact .bind (leavesPath_new _) fun _ => .bind (.pure _) fun rest => collected rest
      · exact .bind (.pure _) fun rest => collected rest

end Computation

/-! ## What is in a library -/

/-- The code of the function leaves the search path as it is. -/
def Routine.LeavesPath : Routine → Prop
  | .interpreted _ body => ∀ values, (body values).LeavesPath
  | .native body => ∀ args named, (body args named).LeavesPath

/-- So it is with an attribute of a class. -/
def ClassMember.LeavesPath : ClassMember → Prop
  | .method r | .described _ r => r.LeavesPath
  | .constant make => make.LeavesPath

/-- So it is with an attribute of a module. -/
def Member.LeavesPath : Member → Prop
  | .function r => r.LeavesPath
  | .constant make => make.LeavesPath
  | .cls _ members => ∀ m ∈ members, m.2.LeavesPath
  | .builtinType make methods => make.LeavesPath ∧ ∀ m ∈ methods, m.2.LeavesPath

/-- The code of the module leaves the search path as it is. -/
def ModuleSource.LeavesPath (source : ModuleSource) : Prop :=
  ∀ members, source.content = .ok members → ∀ m ∈ members, m.2.LeavesPath

theorem Member.LeavesPath.routines {m : Member} (leaves : m.LeavesPath) (name : String) :
    ∀ r ∈ m.routines name, r.2.LeavesPath := by
  intro r mem
  cases m with
  | function f =>
    cases List.mem_singleton.1 mem
    exact leaves
  | constant make => cases mem
  | cls base members =>
    obtain ⟨⟨member, code⟩, among, found⟩ := List.mem_filterMap.1 mem
    have left := leaves _ among
    cases code <;> cases found <;> exact left
  | builtinType make methods =>
    rcases List.mem_cons.1 mem with rfl | mem
    · exact leaves.1
    · obtain ⟨method, among, rfl⟩ := List.mem_map.1 mem
      exact leaves.2 method among

namespace Library

open InterpreterHost.Computation

variable {library : Library} (sources : ∀ source ∈ library, source.LeavesPath)
include sources

/-! ## What runs code of the library -/

theorem leavesPath_of_routine? {name : RoutineName} {r : Routine} (found : library.routine? name = some r) :
    r.LeavesPath := by
  obtain ⟨source, present, found⟩ := Option.bind_eq_some_iff.1 found
  have leaves := sources source (List.mem_of_find?_eq_some present)
  split at found
  · next members content =>
    obtain ⟨before, behind, same, -⟩ := List.lookup_eq_some_iff.1 found
    have mem : (name.qualified, r) ∈ members.flatMap fun m => m.2.routines m.1 := by simp [same]
    obtain ⟨m, among, mem⟩ := List.mem_flatMap.1 mem
    exact (leaves members content m among).routines m.1 _ mem
  · cases found

theorem leavesPath_invoke (name : RoutineName) (args : List Ref) (named : List (String × Ref)) :
    (library.invoke name args named).LeavesPath := by
  unfold invoke
  split
  · exact leavesPath_raise _ _
  · next body found => exact leavesPath_of_routine? sources found args named
  · next signature body found =>
    refine .bind (leavesPath_bind _ _ _ _) fun bound => leavesPath_releasing _ (leavesPath_within _ ?_)
    exact leavesPath_of_routine? sources found bound.1

theorem leavesPath_invokeAt (f : Ref) (args : List Ref) (named : List (String × Ref)) :
    (library.invokeAt f args named).LeavesPath := by
  have refused : (do typeError s!"'{← typeName f}' object is not callable" : Computation Ref).LeavesPath :=
    .bind (.bind .get fun _ => .pure _) fun _ => leavesPath_raise _ _
  refine .bind (leavesPath_look f) fun o => ?_
  cases o with
  | function name => exact leavesPath_invoke sources name args named
  | method g self =>
    refine .bind (leavesPath_look g) fun o => ?_
    cases o with
    | function name => exact leavesPath_invoke sources name _ named
    | _ => exact .bind (.bind .get fun _ => .pure _) fun _ => leavesPath_raise _ _
  | _ => exact refused

theorem leavesPath_getAttribute (r : Ref) (name : String) : (library.getAttribute r name).LeavesPath := by
  refine .bind .get fun i => ?_
  split
  · exact leavesPath_retain _
  · exact leavesPath_new _
  · exact .bind (leavesPath_retain _) fun _ => .bind (leavesPath_retain _) fun _ => leavesPath_new _
  · exact .bind (leavesPath_new _) fun _ => .bind (leavesPath_retain _) fun _ => leavesPath_new _
  · exact leavesPath_invokeAt sources _ _ _
  · exact .bind (.mapM _ fun e _ => .bind (leavesPath_retain _) fun _ => .pure _) fun _ => leavesPath_newDict _
  · exact .bind .get fun _ => leavesPath_raise _ _

theorem leavesPath_instantiate (c : Ref) (args : List Ref) (named : List (String × Ref)) :
    (library.instantiate c args named).LeavesPath := by
  refine .bind (leavesPath_retain c) fun _ => .bind (leavesPath_new _) fun self => .bind .get fun i => ?_
  have released : Computation.LeavesPath (release self) := leavesPath_release self
  split
  · refine .bind (.tryCatch (leavesPath_invokeAt sources _ _ _) fun e => ?_) fun result => ?_
    · exact .bind released fun _ => .throw e
    · exact .bind (leavesPath_release result) fun _ => .pure _
  · split
    · exact .pure _
    · exact .bind released fun _ => .bind .get fun _ => leavesPath_raise _ _

theorem leavesPath_call (callee : Ref) (args : List Ref) (named : List (String × Ref)) :
    (library.call callee args named).LeavesPath := by
  refine .bind (leavesPath_look callee) fun o => ?_
  cases o with
  | cls => exact leavesPath_instantiate sources callee args named
  | builtinClass name => exact leavesPath_invoke sources _ args named
  | instanceOf c attributes =>
    refine .bind .get fun i => ?_
    split
    · exact leavesPath_invokeAt sources _ _ named
    · exact .bind (.bind .get fun _ => .pure _) fun _ => leavesPath_raise _ _
  | _ => exact leavesPath_invokeAt sources callee args named

/-! ## Imports -/

omit sources in
theorem leavesPath_makeMember (moduleName name : String) (made : Entries Ref) {m : Member} (leaves : m.LeavesPath) :
    (makeMember moduleName name made m).LeavesPath := by
  unfold makeMember
  cases m with
  | function | builtinType => exact leavesPath_new _
  | constant make => exact leaves
  | cls base members =>
    refine .bind ?_ fun base => .bind (.mapM _ fun m mem => .bind ?_ fun _ => .pure _) fun _ => leavesPath_new _
    · cases base.bind made.find? with
      | none => exact .pure _
      | some r => exact .bind (leavesPath_retain r) fun _ => .pure _
    · have member := leaves m mem
      rcases m with ⟨memberName, code⟩
      unfold makeClassMember
      cases code with
      | method => exact leavesPath_new _
      | described => exact .bind (leavesPath_new _) fun _ => leavesPath_new _
      | constant make => exact member

omit sources in
theorem leavesPath_load {source : ModuleSource} (leaves : source.LeavesPath) : (load source).LeavesPath := by
  unfold load
  split
  · exact .throw _
  · next members content =>
    refine .bind (.foldlM _ (fun made m mem => .bind ?_ fun _ => .pure _) _) fun attributes => ?_
    · exact leavesPath_makeMember _ _ _ (leaves members content m mem)
    · exact .bind (leavesPath_new _) fun _ => .bind (.modify fun _ => rfl) fun _ => .pure _

/-- Importing a module imports the modules around it first. -/
theorem leavesPath_importNamed (name : List Char) : (importNamed library name).LeavesPath := by
  induction name using importNamed.induct with
  | case1 name ih =>
    rw [importNamed]
    refine .bind .get fun i => ?_
    split
    · exact leavesPath_retain _
    · dsimp only
      split
      · split
        · next source present =>
          refine .bind .get fun i => .bind .get fun i' => ?_
          split
          · exact .bind (leavesPath_load (sources source (List.mem_of_find?_eq_some present))) fun r =>
              leavesPath_retain r
          · exact leavesPath_raise _ _
        · exact leavesPath_raise _ _
      · next below => exact .bind (ih below) fun r => .bind (leavesPath_release r) fun _ => leavesPath_raise _ _

theorem leavesPath_importModule (name : String) : (library.importModule name).LeavesPath := by
  unfold importModule
  split
  · exact leavesPath_raise _ _
  · exact leavesPath_importNamed sources _

/-- A library whose modules leave the search path as it is does so. -/
theorem leavesPath : library.LeavesPath where
  importModule := leavesPath_importModule sources
  getAttribute := leavesPath_getAttribute sources
  call := leavesPath_call sources

end Library

end InterpreterHost
