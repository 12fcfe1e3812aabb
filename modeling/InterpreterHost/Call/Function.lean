import InterpreterHost.Call.Invocation
import InterpreterHost.Text.Quoted

/-!
# Functions

## Main definitions

* `Function` — a handle of an object that can be called
* `Function.call`, `Function.callDirect` — call it
-/

namespace InterpreterHost

/-- A handle of an object that can be called. -/
structure Function where
  name : String
  handle : Handle
deriving DecidableEq, Repr, Inhabited

namespace Function

/-- Take over a reference to an object, which has to be one that can be called. -/
def bind (name : String) (r : Ref) : Call Function := do
  if ← Call.isCallable r then return ⟨name, .of r⟩
  else Call.releasing [r] (throw (.notCallable name))

/-- Call the function and finish with what is done to its result. -/
def invoke (f : Function) (args : List Value) (named : Option ValueMap) (finish : Ref → Call α) :
    Action (Except CallError α) :=
  Action.callOn f.handle f.name f.name fun r => do
    finish (← Call.object r "call" "function" f.name args named)

/-- Call the function and convert its result. -/
def call (f : Function) (args : List Value) (named : Option ValueMap := none) : Action (Except CallError Value) :=
  f.invoke args named (Call.toValue f.name)

/-- Call the function and keep its result as it is. -/
def callDirect (f : Function) (args : List Value) (named : Option ValueMap := none) :
    Action (Except CallError Handle) :=
  f.invoke args named Call.toHandle

def release (f : Function) : Action (Function × Except BrokerError Unit) := do
  let (handle, result) ← f.handle.release
  return ({ f with handle }, result)

/-- The text of a function that was released, for debugging. -/
def releasedText (f : Function) : String :=
  s!"Function \x7b name: {Text.quote f.name}, object: {Handle.nullText} \x7d"

end Function

end InterpreterHost
