import InterpreterHost.State.Shared

/-!
# Creators of states

## Main definitions

* `Creator` — what creates states of a type, and reads those that were saved
* `CreatorRegistry` — creators by the names of the types
* `CreatorRegistry.create`, `CreatorRegistry.load` — a state of a type
-/

namespace InterpreterHost

/-- What creates states of a type.  For an object the class may be fixed; otherwise the parameters name it. -/
inductive Creator where
  | object (fixed : Option StateParams)
  | model
deriving DecidableEq, Repr, Inhabited

namespace Creator

/-- The class of an object that is to be created, and the parameters that are left for it. -/
def split (fixed : Option StateParams) (params : ValueMap) : Except StateError (StateParams × ValueMap) :=
  match fixed with
  | some fixed => .ok (fixed, params)
  | none => StateParams.extract params

/-- Create an object. -/
def createObject (fixed : Option StateParams) (params : ValueMap) : Action (Except StateError ObjectState) := do
  match split fixed params with
  | .error e => return .error e
  | .ok (stateParams, rest) => return (← StateObject.create stateParams rest).map ObjectState.ofObject

/-- Create a model. -/
def createModel (params : ValueMap) : Action (Except StateError Model) := do
  match ModelParams.extract params with
  | .error e => return .error e
  | .ok p => Model.make p

/-- Create a state. -/
def create (c : Creator) (params : ValueMap) : Action (Except StateError SharedState) := do
  match c with
  | object fixed => return (← createObject fixed params).map .object
  | model => return (← createModel params).map .model

/-- Create a model and have it load what was saved. -/
def loadModel (source : Source) (params : ValueMap) : Action (Except StateError Model × Source) := do
  if (Entries.find? params modelPathKey).isNone then return (.error (.missingParam modelPathKey), source)
  match ← createModel params with
  | .error e => return (.error e, source)
  | .ok m =>
    match ← m.load source with
    | (.ok (), source) => return (.ok m, source)
    | (.error e, source) =>
      m.drop
      return (.error e, source)

/-- Read a state that was saved. -/
def load (c : Creator) (source : Source) (params : ValueMap) : Action (Except StateError SharedState × Source) := do
  match c with
  | object _ =>
    let (restored, source) ← StateObject.restore source params
    return (restored.map fun s => .object (.ofObject s), source)
  | model =>
    let (loaded, source) ← loadModel source params
    return (loaded.map .model, source)

end Creator

/-- Creators by the names of the types. -/
abbrev CreatorRegistry := Entries Creator

namespace CreatorRegistry

/-- The types that there are from the start. -/
def builtin : CreatorRegistry := Entries.ofList [("pystate", .object none), ("pymlstate", .model)]

/-- Register a type. -/
def register (r : CreatorRegistry) (typeName : String) (c : Creator) : Except StateError CreatorRegistry :=
  if Entries.contains r typeName then .error (.typeRegistered typeName) else .ok (Entries.insert typeName c r)

/-- Unregister a type. -/
def unregister (r : CreatorRegistry) (typeName : String) : Except StateError (Creator × CreatorRegistry) :=
  match Entries.find? r typeName with
  | some c => .ok (c, Entries.erase typeName r)
  | none => .error (.typeNotRegistered typeName)

/-- The creator of a type. -/
def get (r : CreatorRegistry) (typeName : String) : Except StateError Creator :=
  match Entries.find? r typeName with
  | some c => .ok c
  | none => .error (.typeNotRegistered typeName)

/-- The names of the types, in order. -/
def typeNames (r : CreatorRegistry) : List String := Entries.keys r

/-- Create a state of a type. -/
def create (r : CreatorRegistry) (typeName : String) (params : ValueMap) :
    Action (Except StateError SharedState) := do
  match r.get typeName with
  | .ok c => c.create params
  | .error e => return .error e

/-- Read a state of a type. -/
def load (r : CreatorRegistry) (typeName : String) (source : Source) (params : ValueMap) :
    Action (Except StateError SharedState × Source) := do
  match r.get typeName with
  | .ok c => c.load source params
  | .error e => return (.error e, source)

end CreatorRegistry

end InterpreterHost
