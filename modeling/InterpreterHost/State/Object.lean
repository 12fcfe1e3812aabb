import InterpreterHost.Call.Module
import InterpreterHost.State.Header
import InterpreterHost.State.TemporaryFile

/-!
# Objects with a state that can be saved

The class of such an object has functions that create it, save it to a file and load it from one.

## Main definitions

* `StateObject` — such an object
* `StateObject.create` — create it
* `StateObject.call`, `StateObject.write` — use it
* `StateObject.save`, `StateObject.load`, `StateObject.restore` — write it to a sink, read it from a source
* `StateObject.terminate` — end it
-/

namespace InterpreterHost

/-- An object with a state that can be saved, until it is terminated. -/
structure StateObject where
  params : StateParams
  object : Option Instance
deriving DecidableEq, Repr, Inhabited

namespace StateObject

def createMethod : String := "create"
def saveMethod : String := "save"
def loadMethod : String := "load"

/-- Have the class that the parameters name make an object. -/
def make (method : String) (params : StateParams) (args : List Value) : Action (Except CallError Instance) :=
  ExceptT.run do
    if params.modulePath ≠ "" then ExceptT.mk (Action.appendSearchPath [params.modulePath])
    let m ← ExceptT.mk (Module.load params.moduleName)
    m.handle.dropping do
      let c ← ExceptT.mk (m.getClass params.className)
      c.handle.dropping do
        return Instance.ofHandle (← ExceptT.mk (c.callDirect method args)) c.origin

/-- Create an object; parameters for it are passed only if there are any. -/
def create (params : StateParams) (createParams : ValueMap) : Action (Except StateError StateObject) := do
  let args := if createParams.isEmpty then [] else [Value.map createParams]
  return (← make createMethod params args).map (fun i => ⟨params, some i⟩) |>.mapError .call

def isTerminated (s : StateObject) : Bool := s.object.isNone

/-- Do something with the object, if it is not terminated. -/
def withObject (s : StateObject) (code : Instance → Action (Except CallError α)) :
    Action (Except StateError α) := do
  match s.object with
  | some i => return (← code i).mapError .call
  | none => return .error .alreadyTerminated

/-- Call a method. -/
def call (s : StateObject) (method : String) (args : List Value) : Action (Except StateError Value) :=
  s.withObject (·.call method args)

/-- Pass a value to the method that writes. -/
def write (s : StateObject) (v : Value) : Action (Except StateError Unit) :=
  return (← s.call s.params.writeMethod [v]).map fun _ => ()

/-- End the object; it has ended afterwards, whatever comes of it. -/
def terminate (s : StateObject) : Action (StateObject × Except StateError Unit) := do
  let ended := { s with object := none }
  match s.object with
  | some i => return (ended, (← i.release).2.mapError fun e => .call (.broker e))
  | none => return (ended, .ok ())

/-! ## Saving -/

/-- Have the object save itself to a file and write what is in the file. -/
def savePayload (i : Instance) (sink : Sink) (params : ValueMap) : Action (Except StateError Unit × Sink) := do
  match ← TemporaryFile.create with
  | .error e => return (.error e, sink)
  | .ok path =>
    match ← i.call saveMethod [.string path, .map params] with
    | .error e =>
      TemporaryFile.discard path
      return (.error (.call e), sink)
    | .ok _ =>
      match ← TemporaryFile.content? path with
      | none => return (.error (.temporaryFile "open" Config.noSuchFile), sink)
      | some content =>
        match sink.write content with
        | (.error e, sink) =>
          TemporaryFile.discard path
          return (.error (.stream e), sink)
        | (.ok (), sink) =>
          TemporaryFile.remove path
          return (.ok (), sink)

/-- Write the header, and what the object saved. -/
def save (s : StateObject) (sink : Sink) (params : ValueMap) : Action (Except StateError Unit × Sink) := do
  match s.object with
  | none => return (.error .alreadyTerminated, sink)
  | some i =>
    match Container.write sink s.params with
    | (.error e, sink) => return (.error e, sink)
    | (.ok (), sink) => savePayload i sink params

/-! ## Loading -/

/-- Have the class that a header names load what follows the header. -/
def loadPayload (header : StateParams) (source : Source) (params : ValueMap) :
    Action (Except StateError Instance × Source) := do
  match ← TemporaryFile.create with
  | .error e => return (.error e, source)
  | .ok path =>
    match source.copyTo (← TemporaryFile.sink path) with
    | (.error e, source, _) =>
      TemporaryFile.discard path
      return (.error (.stream e), source)
    | (.ok (), source, written) =>
      TemporaryFile.write path written.content
      let made ← make loadMethod header [.string path, .map params]
      TemporaryFile.remove path
      return (made.mapError .call, source)

/-- Read an object that was saved. -/
def restore (source : Source) (params : ValueMap) : Action (Except StateError StateObject × Source) := do
  match Container.read source with
  | (.error e, source) => return (.error e, source)
  | (.ok header, source) =>
    let (made, source) ← loadPayload header source params
    return (made.map fun i => ⟨header, some i⟩, source)

/-- Put an object that was saved in the place of this one, which stays if that fails. -/
def load (s : StateObject) (source : Source) (params : ValueMap) :
    Action (StateObject × Except StateError Unit × Source) := do
  match s.object with
  | none => return (s, .error .alreadyTerminated, source)
  | some old =>
    match ← restore source params with
    | (.error e, source) => return (s, .error e, source)
    | (.ok restored, source) =>
      return (restored, (← old.release).2.mapError fun e => .call (.broker e), source)

/-- Let go of the object. -/
def drop (s : StateObject) : Action Unit := do
  if let some i := s.object then i.handle.drop

end StateObject

end InterpreterHost
