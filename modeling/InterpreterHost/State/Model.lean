import InterpreterHost.State.Object

/-!
# Models fitted in batches

The rows that are written to a model are collected; when there are as many as a batch has, the model is fitted
with them.

## Main definitions

* `Model` — a model with the rows collected for it
* `Model.make` — make one
* `Model.write` — write a row
* `Model.fit`, `Model.predict`, `Model.save`, `Model.load` — use it
* `Model.terminate` — end it
-/

namespace InterpreterHost

/-- A model, until it is terminated, with the rows collected for it. -/
structure Model where
  params : ModelParams
  /-- The rows written since the last batch, the first one first. -/
  rows : List Value := []
  object : Option Instance
deriving Repr, Inhabited

namespace Model

/-- Have the class that the parameters name make a model. -/
def make (params : ModelParams) : Action (Except StateError Model) := do
  let made ← ExceptT.run do
    if params.modulePath ≠ "" then ExceptT.mk (Action.appendSearchPath [params.modulePath])
    let m ← ExceptT.mk (Module.load params.moduleName)
    m.handle.dropping (ExceptT.mk (m.newInstance params.className [.string params.modelPath, .int params.gpu]))
  return (made.map fun i => { params, object := some i }).mapError .call

def isTerminated (m : Model) : Bool := m.object.isNone

/-- How many rows are collected. -/
def pending (m : Model) : Nat := m.rows.length

/-- Call a method. -/
def call (m : Model) (method : String) (args : List Value) : Action (Except StateError Value) := do
  match m.object with
  | some i => return (← i.call method args).mapError .call
  | none => return .error .alreadyTerminated

/-- Fit the model with rows, whatever is collected. -/
def fit (m : Model) (rows : List Value) : Action (Except StateError Value) := m.call "fit" [.array rows]

def predict (m : Model) (v : Value) : Action (Except StateError Value) := m.call "predict" [v]

/-- Log the mean loss and accuracy of a batch, if the result of fitting tells their sums. -/
def logProgress (m : Model) (result : Value) : Action Unit := do
  match (result.get "loss").bind Value.asFloat, (result.get "accuracy").bind Value.asFloat with
  | .ok loss, .ok accuracy =>
    let n := m.params.batchSize
    Action.job (Job.noteFitted (loss.divNat n) (accuracy.divNat n) m.params.className)
  | _, _ => return

/-- Write a row.  With the row that makes a batch full the model is fitted, and the result of that is the result;
the rows of the batch are gone then, even if that fails. -/
def write (m : Model) (row : Value) : Action (Model × Except StateError (Option Value)) := do
  if m.isTerminated then return (m, .error .alreadyTerminated)
  let rows := m.rows ++ [row]
  if rows.length < m.params.batchSize then return ({ m with rows }, .ok none)
  let emptied := { m with rows := [] }
  match ← m.fit rows with
  | .error e => return (emptied, .error e)
  | .ok result =>
    m.logProgress result
    return (emptied, .ok (some result))

/-- Write the octets that the model gives for itself. -/
def save (m : Model) (sink : Sink) : Action (Except StateError Unit × Sink) := do
  match ← m.call "save" [] with
  | .error e => return (.error e, sink)
  | .ok (.blob octets) =>
    let (result, sink) := sink.write octets
    return (result.mapError .stream, sink)
  | .ok v => return (.error (.invalidSaveResult v.typeName), sink)

/-- Pass all that can be read to the model. -/
def load (m : Model) (source : Source) : Action (Except StateError Unit × Source) := do
  match source.takeAll with
  | (.error e, source) => return (.error (.stream e), source)
  | (.ok content, source) => return ((← m.call "load" [.blob content]).map fun _ => (), source)

/-- End the model and forget the rows; it has ended afterwards, whatever comes of it. -/
def terminate (m : Model) : Action (Model × Except StateError Unit) := do
  let ended := { m with rows := [], object := none }
  match m.object with
  | some i => return (ended, (← i.release).2.mapError fun e => .call (.broker e))
  | none => return (ended, .ok ())

/-- Let go of the model. -/
def drop (m : Model) : Action Unit := do
  if let some i := m.object then i.handle.drop

end Model

end InterpreterHost
