import InterpreterHost.Call.Function
import InterpreterHost.Call.Instance
import InterpreterHost.Interpreter.Import

/-!
# Modules

## Main definitions

* `Module` — a handle of a module
* `Module.load` — import a module
* `Module.getClass`, `Module.getFunction`, `Module.newInstance` — what a module holds
* `Module.call` — call a function of a module
-/

namespace InterpreterHost

/-- A handle of a module. -/
structure Module where
  name : String
  handle : Handle
deriving DecidableEq, Repr, Inhabited

/-- Import a module, as a new reference. -/
def Job.importModule (name : String) : Job (Except InterpreterError Ref) := do
  checked ((← get).library.importModule name)

namespace Module

/-- Import a module. -/
def load (name : String) : Action (Except CallError Module) :=
  Action.runCall name (ExceptT.run do
    return ⟨name, .of (← Call.during "load" "module" name (Job.importModule name))⟩)

/-- What an object of the module is called. -/
def origin (m : Module) (name : String) : String := s!"{m.name}.{name}"

/-- Make an instance of a class of the module. -/
def newInstance (m : Module) (className : String) (args : List Value) (named : Option ValueMap := none) :
    Action (Except CallError Instance) :=
  Action.callOn m.handle m.name className fun r => do
    let c ← Call.during "get" "class" className (Job.getAttribute r className)
    let made ← Call.releasing [c] (Call.object c "create" "instance" className args named)
    return ⟨m.origin className, .of made⟩

/-- A class of the module. -/
def getClass (m : Module) (name : String) : Action (Except CallError Instance) :=
  Action.callOn m.handle m.name name fun r => do
    return ⟨m.origin name, .of (← Call.during "get" "class" name (Job.getAttribute r name))⟩

/-- A function of the module. -/
def getFunction (m : Module) (name : String) : Action (Except CallError Function) :=
  Action.callOn m.handle m.name name fun r => do
    Function.bind name (← Call.during "get" "function" name (Job.getAttribute r name))

/-- Call a function of the module. -/
def call (m : Module) (name : String) (args : List Value) (named : Option ValueMap := none) :
    Action (Except CallError Value) :=
  Action.callOn m.handle m.name name fun r => do
    Call.toValue name (← Call.member r "function" name args named)

def release (m : Module) : Action (Module × Except BrokerError Unit) := do
  let (handle, result) ← m.handle.release
  return ({ m with handle }, result)

/-- The text of a module that was released, for debugging. -/
def releasedText (m : Module) : String :=
  s!"Module \x7b name: {Text.quote m.name}, object: {Handle.nullText} \x7d"

end Module

end InterpreterHost
