import InterpreterHost.Interpreter.Library
import InterpreterHost.Interpreter.Representation

/-!
# Imports

## Main definitions

* `Library.importModule` — the module of a name, imported if it is not yet
-/

namespace InterpreterHost.Library

open InterpreterHost.Computation

/-- The object of a class member; the function in it is named after the class. -/
def makeClassMember (moduleName className name : String) : ClassMember → Computation Ref
  | .method _ => new (.function ⟨moduleName, className ++ "." ++ name⟩)
  | .described kind _ => do new (.descriptor kind (← new (.function ⟨moduleName, className ++ "." ++ name⟩)))
  | .constant make => make

/-- The object of a module's attribute, where `made` are those made before it. -/
def makeMember (moduleName name : String) (made : Entries Ref) : Member → Computation Ref
  | .function _ => new (.function ⟨moduleName, name⟩)
  | .constant make => make
  | .cls base members => do
    let base ← (base.bind made.find?).mapM retain
    let attributes ← members.mapM fun m => return (m.1, ← makeClassMember moduleName name m.1 m.2)
    new (.cls name moduleName base (Entries.ofList attributes))
  | .builtinType .. => new (.builtinClass name)

/-- Make the module of a source and keep it. -/
def load (source : ModuleSource) : Computation Ref := do
  match source.content with
  | .error e => throw e
  | .ok members =>
    let attributes ← members.foldlM (fun made (name, member) =>
      return Entries.insert name (← makeMember source.name name made member) made) ([] : Entries Ref)
    let r ← new (.module source.name attributes)
    modify fun i => { i with modules := i.modules.insert source.name r }
    return r

/-- Whether a module is found where the interpreter searches. -/
def isWithin (source : ModuleSource) (s : SearchPath) : Bool :=
  match source.directory with
  | some d => s.searches d
  | none => true

/-- What a module's services are missing, if they are. -/
def isBlocked (services : Services) (name : String) : Bool :=
  (name = "traceback" ∧ ¬ services.traceback) ∨ (name = "datetime" ∧ ¬ services.datetime)

/-- The name quoted as the interpreter does. -/
def quoted (name : String) : String := Representation.quote (.ofString name)

/-- The part of a dotted name before its last dot. -/
def parentName (name : List Char) : List Char := ((name.reverse.dropWhile (· ≠ '.')).drop 1).reverse

/-- The module of a name, imported if it is not yet, as a new reference.  The modules around it are imported
first; no module here holds others. -/
def importNamed (library : Library) (name : List Char) : Computation Ref := do
  let text := String.ofList name
  match (← get).modules.find? text with
  | some r => retain r
  | none =>
    let parent := parentName name
    if _top : parent = [] then
      match library.find? (·.name = text) with
      | some source =>
        if isWithin source (← get).searchPath ∧ ¬ isBlocked (← get).services text then retain (← load source)
        else raise "ModuleNotFoundError" s!"No module named {quoted text}"
      | none => raise "ModuleNotFoundError" s!"No module named {quoted text}"
    else
      let r ← importNamed library parent
      release r
      raise "ModuleNotFoundError"
        s!"No module named {quoted text}; {quoted (String.ofList parent)} is not a package"
termination_by name.length
decreasing_by
  have shorter : (parentName name).length < name.length := by
    have drops : (name.reverse.dropWhile (· ≠ '.')).length ≤ name.length := by
      simpa using (List.dropWhile_sublist (l := name.reverse) (· ≠ '.')).length_le
    have nonempty : (parentName name).length ≠ 0 := by simpa using _top
    simp only [parentName, List.length_reverse, List.length_drop] at nonempty ⊢
    omega
  exact shorter

/-- The module of a name, imported if it is not yet, as a new reference. -/
def importModule (library : Library) (name : String) : Computation Ref :=
  if name = "" then valueError "Empty module name" else importNamed library name.toList

end InterpreterHost.Library
