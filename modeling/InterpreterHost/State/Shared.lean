import InterpreterHost.Directory
import InterpreterHost.State.Model

/-!
# States of either kind

## Main definitions

* `ObjectState` — an object with a state, which can be written to or not
* `SharedState` — such an object, or a model
* `SharedStates` — states by number, some of them by name
-/

namespace InterpreterHost

/-- An object with a state.  Whether it can be written to is settled when it is made. -/
structure ObjectState where
  object : StateObject
  isWritable : Bool
deriving DecidableEq, Repr, Inhabited

namespace ObjectState

/-- It can be written to if its parameters name a method for that. -/
def ofObject (object : StateObject) : ObjectState := ⟨object, object.params.isWritable⟩

/-- An object that can be read only. -/
def readOnly (object : StateObject) : ObjectState := ⟨object, false⟩

/-- An object that can be written to. -/
def writable (object : StateObject) : ObjectState := ⟨object, true⟩

end ObjectState

/-- A state of either kind. -/
inductive SharedState where
  | object (s : ObjectState)
  | model (m : Model)
deriving Repr, Inhabited

namespace SharedState

def isTerminated : SharedState → Bool
  | object s => s.object.isTerminated
  | model m => m.isTerminated

/-- Call a method. -/
def call : SharedState → String → List Value → Action (Except StateError Value)
  | object s, method, args => s.object.call method args
  | model m, method, args => m.call method args

/-- Write a value, if the state can be written to. -/
def write (s : SharedState) (v : Value) : Action (SharedState × Except StateError Unit) := do
  match s with
  | object o =>
    if o.isWritable then return (s, ← o.object.write v) else return (s, .error .notWritable)
  | model m =>
    let (m, result) ← m.write v
    return (model m, result.map fun _ => ())

/-- Write the state to a sink. -/
def save (s : SharedState) (sink : Sink) (params : ValueMap) : Action (Except StateError Unit × Sink) :=
  match s with
  | object o => o.object.save sink params
  | model m => m.save sink

/-- Read the state from a source. -/
def load (s : SharedState) (source : Source) (params : ValueMap) :
    Action (SharedState × Except StateError Unit × Source) := do
  match s with
  | object o =>
    let (loaded, result, source) ← o.object.load source params
    return (object { o with object := loaded }, result, source)
  | model m =>
    let (result, source) ← m.load source
    return (s, result, source)

/-- End the state. -/
def terminate : SharedState → Action (SharedState × Except StateError Unit)
  | object o => do
    let (ended, result) ← o.object.terminate
    return (object { o with object := ended }, result)
  | model m => do
    let (ended, result) ← m.terminate
    return (model ended, result)

/-- Let go of the state. -/
def drop : SharedState → Action Unit
  | object o => o.object.drop
  | model m => m.drop

end SharedState

/-- States by number, some of them by name. -/
abbrev SharedStates := Directory SharedState

namespace SharedStates

/-- Put the state with a number under a name. -/
def store (d : SharedStates) (name : String) (n : Nat) : Except StateError SharedStates :=
  match d.bind? name n with
  | some d => .ok d
  | none => .error (.stateExists name)

/-- The number of the state under a name. -/
def get (d : SharedStates) (name : String) : Except StateError Nat :=
  match d.number? name with
  | some n => .ok n
  | none => .error (.stateNotFound name)

/-- Take a state from under its name; it stays with whoever knows its number, and it is not terminated. -/
def remove (d : SharedStates) (name : String) : Except StateError (Nat × SharedStates) :=
  match d.unbind? name with
  | some result => .ok result
  | none => .error (.stateNotFound name)

/-- The model under a name. -/
def getModel (d : SharedStates) (name : String) : Except StateError Model := do
  match d.item? (← d.get name) with
  | some (.model m) => return m
  | _ => throw (.notModel name)

/-- Fit the model under a name with rows. -/
def fit (d : SharedStates) (name : String) (rows : List ValueMap) : Action (Except StateError Value) := do
  match d.getModel name with
  | .ok m => m.fit (rows.map .map)
  | .error e => return .error e

/-- Have the model under a name predict. -/
def predict (d : SharedStates) (name : String) (v : Value) : Action (Except StateError Value) := do
  match d.getModel name with
  | .ok m => m.predict v
  | .error e => return .error e

end SharedStates

end InterpreterHost
