import InterpreterHost.Call.Module
import InterpreterHost.Directory

/-!
# Functions by name

## Main definitions

* `NamedFunction` — a function of a module that is imported when it is first needed
* `FunctionRegistry` — such functions by name
-/

namespace InterpreterHost

/-- A function of a module, with the module once it was imported. -/
structure NamedFunction where
  name : String
  /-- A directory to search the module in, if it is not empty. -/
  path : String
  moduleName : String
  functionName : String
  module : Option Module := none
deriving DecidableEq, Repr, Inhabited

namespace NamedFunction

/-- Search for the module and import it. -/
def importModule (f : NamedFunction) : Action (Except CallError Module) := do
  let reachable ← if f.path = "" then pure (.ok ()) else Action.appendSearchPath [f.path]
  match reachable with
  | .error e => return .error e
  | .ok () => Module.load f.moduleName

/-- The module, imported if it is not yet; and the function with it. -/
def loaded (f : NamedFunction) : Action (NamedFunction × Except CallError Module) := do
  match f.module with
  | some m => return (f, .ok m)
  | none =>
    match ← f.importModule with
    | .ok m => return ({ f with module := some m }, .ok m)
    | .error e => return (f, .error e)

/-- Call the function. -/
def call (f : NamedFunction) (args : List Value) : Action (NamedFunction × Except CallError Value) := do
  match ← f.loaded with
  | (f, .ok m) => return (f, ← m.call f.functionName args)
  | (f, .error e) => return (f, .error e)

/-- Give up the module, if it was imported. -/
def drop (f : NamedFunction) : Action Unit := do
  if let some m := f.module then m.handle.drop

/-- The text of a function for debugging. -/
def text (f : NamedFunction) : String :=
  let fields := [("name", f.name), ("module_path", f.path), ("module_name", f.moduleName),
    ("func_name", f.functionName)]
  "PyFunc \x7b " ++ ", ".intercalate (fields.map fun p => p.1 ++ ": " ++ Text.quote p.2) ++ " \x7d"

end NamedFunction

/-- Functions by name. -/
abbrev FunctionRegistry := Directory NamedFunction

namespace FunctionRegistry

/-- Register a function under its name. -/
def register (r : FunctionRegistry) (f : NamedFunction) : Except CallError FunctionRegistry :=
  let (n, added) := r.add f
  match added.bind? f.name n with
  | some r => .ok r
  | none => .error (.alreadyRegistered f.name)

/-- Register a function after its module was imported. -/
def registerLoaded (r : FunctionRegistry) (f : NamedFunction) : Action (Except CallError FunctionRegistry) := do
  if r.contains f.name then return .error (.alreadyRegistered f.name)
  match ← f.loaded with
  | (f, .ok _) => return r.register f
  | (_, .error e) => return .error e

/-- Import the module of the function with a number. -/
def load (r : FunctionRegistry) (n : Nat) : Action (FunctionRegistry × Except CallError Unit) := do
  match r.item? n with
  | none => return (r, .error (.notRegistered (toString n)))
  | some f =>
    let (f, result) ← f.loaded
    return (r.update n f, result.map fun _ => ())

/-- Call the function with a number. -/
def callNumber (r : FunctionRegistry) (n : Nat) (args : List Value) :
    Action (FunctionRegistry × Except CallError Value) := do
  match r.item? n with
  | none => return (r, .error (.notRegistered (toString n)))
  | some f =>
    let (f, result) ← f.call args
    return (r.update n f, result)

/-- Call the function of a name. -/
def call (r : FunctionRegistry) (name : String) (args : List Value) :
    Action (FunctionRegistry × Except CallError Value) := do
  match r.number? name with
  | some n => r.callNumber n args
  | none => return (r, .error (.notRegistered name))

/-- Unregister a name; the function stays with whoever knows its number. -/
def unregister (r : FunctionRegistry) (name : String) : Except CallError (Nat × FunctionRegistry) :=
  match r.unbind? name with
  | some result => .ok result
  | none => .error (.notRegistered name)

end FunctionRegistry

end InterpreterHost
