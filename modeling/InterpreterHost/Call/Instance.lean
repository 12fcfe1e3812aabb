import InterpreterHost.Call.Invocation
import InterpreterHost.Text.Quoted

/-!
# Instances

## Main definitions

* `Instance` — a handle of a class or of an instance of one
* `Instance.call`, `Instance.callDirect` — call a method
* `Instance.getAttribute` — the value of an attribute
-/

namespace InterpreterHost

/-- A handle of a class or of an instance of one.  The origin tells where it came from. -/
structure Instance where
  origin : String
  handle : Handle
deriving DecidableEq, Repr, Inhabited

namespace Instance

/-- An object that came from nowhere in particular. -/
def ofHandle (handle : Handle) (origin : String := "<object>") : Instance := ⟨origin, handle⟩

/-- Call a method and finish with what is done to its result. -/
def invoke (i : Instance) (method : String) (args : List Value) (named : Option ValueMap)
    (finish : Ref → Call α) : Action (Except CallError α) :=
  Action.callOn i.handle i.origin method fun r => do
    finish (← Call.member r "method" method args named)

/-- Call a method and convert its result. -/
def call (i : Instance) (method : String) (args : List Value) (named : Option ValueMap := none) :
    Action (Except CallError Value) :=
  i.invoke method args named (Call.toValue method)

/-- Call a method and keep its result as it is. -/
def callDirect (i : Instance) (method : String) (args : List Value) (named : Option ValueMap := none) :
    Action (Except CallError Handle) :=
  i.invoke method args named Call.toHandle

/-- The value of an attribute. -/
def getAttribute (i : Instance) (name : String) : Action (Except CallError Value) :=
  Action.callOn i.handle i.origin name fun r => do
    Call.toValue name (← Call.during "get" "attribute" name (Job.getAttribute r name))

def release (i : Instance) : Action (Instance × Except BrokerError Unit) := do
  let (handle, result) ← i.handle.release
  return ({ i with handle }, result)

/-- The text of an instance that was released, for debugging. -/
def releasedText (i : Instance) : String :=
  s!"Instance \x7b origin: {Text.quote i.origin}, object: {Handle.nullText} \x7d"

end Instance

end InterpreterHost
