import InterpreterHost.Host.Handle
import InterpreterHost.Host.Session
import InterpreterHost.Interpreter.Call
import InterpreterHost.Marshal.FromObject

/-!
# Invocations

Finding what is to be called, converting the arguments, calling, converting the result.

## Main definitions

* `Call` — the part of a call that runs on the owning thread
* `Call.object` — call an object with values
* `Call.member` — call an attribute of an object
* `Call.toValue` — the value of a result

## Design notes

Each of the points at which a call can fail adds one context to the error, which names what was being done.
-/

namespace InterpreterHost

/-- The part of a call that runs on the owning thread. -/
abbrev Call := ExceptT CallError Job

/-- Run code and let go of references whatever comes of it. -/
def Job.releasing (refs : List Ref) (code : Job α) : Job α := do
  let result ← tryCatch code fun p => do
    letGo refs
    throw p
  letGo refs
  return result

/-- The attribute of an object, as a new reference. -/
def Job.getAttribute (r : Ref) (name : String) : Job (Except InterpreterError Ref) := do
  checked ((← get).library.getAttribute r name)

namespace Call

/-- Code of the interpreter, the error of which gets a context. -/
def during (action kind name : String) (code : Job (Except InterpreterError α)) : Call α :=
  ExceptT.mk (return (← code).mapError fun e => .context action kind name (.interpreter e))

/-- Run code and give up references whatever comes of it. -/
def releasing (refs : List Ref) (code : Call α) : Call α := ExceptT.mk (Job.releasing refs code.run)

/-- Whether an object can be called. -/
def isCallable (r : Ref) : Call Bool := return (← (Job.heap : Job Heap)).isCallable r

/-- The positional arguments that a tuple holds. -/
def positionals (h : Heap) (args : Ref) : List Ref :=
  match h.object args with
  | .tuple items => items
  | _ => []

/-- The named arguments that a dictionary holds. -/
def keywords (h : Heap) (named : Ref) : List (String × Ref) :=
  match h.object named with
  | .dict entries => entries.map fun e =>
    (match h.object e.1 with
      | .str t => t.toStringLossy
      | _ => "", e.2)
  | _ => []

/-- Call an object with a tuple of arguments and, if there are any, a dictionary of named ones. -/
def withObjects (callable args : Ref) (named : Option Ref) : Job (Except InterpreterError Ref) := do
  let o ← get
  let h := o.interpreter.heap
  Job.checkedCall (o.library.call callable (positionals h args) ((named.map (keywords h)).getD []))

/-- The dictionary of the named arguments, if there are any. -/
def namedArguments (name : String) : Option ValueMap → Call (Option Ref)
  | some (entry :: named) =>
    return some (← during "convert named arguments for" "call" name (Job.toNamed (entry :: named)))
  | _ => return none

/-- Call an object; `action` and `kind` tell in errors what the call is for. -/
def object (callable : Ref) (action kind name : String) (args : List Value) (named : Option ValueMap) :
    Call Ref := do
  let args ← during "convert arguments for" "call" name (Job.toArguments args)
  releasing [args] do
    let named ← namedArguments name named
    releasing named.toList (during action kind name (withObjects callable args named))

/-- The attribute of an object that is to be called, as a new reference. -/
def callable (target : Ref) (name : String) : Call Ref := do
  let found ← during "get" "function" name (Job.getAttribute target name)
  if ← isCallable found then return found
  else releasing [found] (throw (.context "get" "function" name (.notCallable name)))

/-- Call an attribute of an object. -/
def member (target : Ref) (kind name : String) (args : List Value) (named : Option ValueMap) : Call Ref := do
  let function ← callable target name
  releasing [function] (object function "call" kind name args named)

/-- The value of a result, the reference to which is given up. -/
def toValue (name : String) (result : Ref) : Call Value :=
  releasing [result] (ExceptT.mk
    (return (← Job.fromObject result).mapError (·.context "convert result of" "call" name)))

/-- A handle that takes over the reference to a result. -/
def toHandle (result : Ref) : Call Handle := return .of result

end Call

namespace Action

/-- Run the call of the given name on the object of a handle; `released` names it if the handle holds nothing. -/
def callOn (handle : Handle) (released name : String) (code : Ref → Call α) : Action (Except CallError α) := do
  match handle.place with
  | none => return .error (.released released)
  | some r => runCall name (code r).run

end Action

end InterpreterHost
