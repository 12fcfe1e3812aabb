import InterpreterHost.Interpreter.Signature

/-!
# The library

The modules that the interpreter can import, with the code of their functions.

## Main definitions

* `Routine` — the code of a function
* `ModuleSource` — a module that can be imported
* `Library` — the modules within reach
* `Library.routine?` — the code of a function by its name
-/

namespace InterpreterHost

/-- The code of a function. -/
inductive Routine where
  /-- Code with a signature, which exceptions show that they went through. -/
  | interpreted (signature : Signature) (body : List Ref → Computation Ref)
  /-- Code that takes positional and named arguments as they are and leaves no trace in exceptions. -/
  | native (body : List Ref → List (String × Ref) → Computation Ref)

namespace Routine

open InterpreterHost.Computation (newNone)

/-- A function without parameters. -/
def nullary (body : Computation Ref) : Routine := .interpreted {} fun _ => body

/-- A function of one parameter. -/
def unary (a : String) (body : Ref → Computation Ref) : Routine :=
  .interpreted { parameters := [a] } fun
    | [x] => body x
    | _ => newNone

/-- A function of two parameters, of which the last ones may have defaults. -/
def binary (a b : String) (body : Ref → Ref → Computation Ref) (defaults : List Constant := []) : Routine :=
  .interpreted { parameters := [a, b], defaults } fun
    | [x, y] => body x y
    | _ => newNone

/-- A function of three parameters, of which the last ones may have defaults. -/
def ternary (a b c : String) (body : Ref → Ref → Ref → Computation Ref) (defaults : List Constant := []) :
    Routine :=
  .interpreted { parameters := [a, b, c], defaults } fun
    | [x, y, z] => body x y z
    | _ => newNone

end Routine

/-- An attribute of a class. -/
inductive ClassMember where
  /-- A function that is bound to an instance. -/
  | method (r : Routine)
  | described (kind : Descriptor) (r : Routine)
  | constant (make : Computation Ref)

/-- An attribute of a module. -/
inductive Member where
  | function (r : Routine)
  | constant (make : Computation Ref)
  | cls (base : Option String) (members : List (String × ClassMember))
  /-- A type that is built in, with the code that makes objects of it and that of its methods. -/
  | builtinType (make : Routine) (methods : List (String × Routine))

/-- A module that can be imported. -/
structure ModuleSource where
  name : String
  /-- The directory that it is found in; none if it is found always. -/
  directory : Option String := none
  /-- Its attributes, or the exception that its import raises. -/
  content : Except Raised (List (String × Member))

/-- The modules within reach of the interpreter. -/
abbrev Library := List ModuleSource

/-- The functions among the attributes of a module, by their names within it. -/
def Member.routines (name : String) : Member → List (String × Routine)
  | function r => [(name, r)]
  | constant _ => []
  | cls _ members => members.filterMap fun
    | (member, .method r) => some (name ++ "." ++ member, r)
    | (member, .described _ r) => some (name ++ "." ++ member, r)
    | (_, .constant _) => none
  | builtinType make methods => (name, make) :: methods.map fun m => (name ++ "." ++ m.1, m.2)

/-- The code of a function by its name. -/
def Library.routine? (library : Library) (name : RoutineName) : Option Routine := do
  let source ← library.find? (·.name = name.moduleName)
  match source.content with
  | .ok members => (members.flatMap fun m => m.2.routines m.1).lookup name.qualified
  | .error _ => none

end InterpreterHost
