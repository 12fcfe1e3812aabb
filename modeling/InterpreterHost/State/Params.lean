import InterpreterHost.State.Error
import InterpreterHost.Value

/-!
# Parameters of states

What names the class of a state is taken from a map of parameters.

## Main definitions

* `StateParams` — the class of a state, and how it is written to
* `StateParams.readFrom` — read them in a map, or take them out of it
* `StateParams.extract` — take them from a copy of a map
* `ModelParams` — the class of a model, and how it is made and fitted
* `ModelParams.extract` — take them from a map
-/

namespace InterpreterHost

/-! ## Reading parameters -/

namespace ValueMap

/-- A parameter that has to be a text. -/
def textParam (key : String) : Value → Except StateError String
  | .string s => .ok s
  | v => .error (.invalidParam key "a string" v.typeName)

/-- A text that has to be there. -/
def required (params : ValueMap) (key : String) : Except StateError String :=
  match Entries.find? params key with
  | some v => textParam key v
  | none => .error (.missingParam key)

/-- A text that is empty if it is not there. -/
def optional (params : ValueMap) (key : String) : Except StateError String :=
  match Entries.find? params key with
  | some v => textParam key v
  | none => .ok ""

/-- An integer, if it is there. -/
def optionalInt (params : ValueMap) (key : String) : Except StateError (Option Int64) :=
  match Entries.find? params key with
  | some (.int n) => .ok (some n)
  | some v => .error (.invalidParam key "an int" v.typeName)
  | none => .ok none

end ValueMap

def modulePathKey : String := "module_path"
def moduleNameKey : String := "module_name"
def classNameKey : String := "class_name"
def writeMethodKey : String := "write_method"
def batchSizeKey : String := "batch_train_size"
def modelPathKey : String := "model_file_path"
def gpuKey : String := "gpu_id"

/-! ## States -/

/-- The class of a state, and how it is written to. -/
structure StateParams where
  /-- A directory to search the module in, if it is not empty. -/
  modulePath : String := ""
  moduleName : String
  className : String
  /-- The method that writes; if it is empty the state is read-only. -/
  writeMethod : String := ""
deriving DecidableEq, Repr, Inhabited

namespace StateParams

def isWritable (p : StateParams) : Bool := p.writeMethod ≠ ""

/-- The keys of the parameters. -/
def keys : List String := [modulePathKey, moduleNameKey, classNameKey, writeMethodKey]

/-- A map without the parameters. -/
def without (params : ValueMap) : ValueMap := keys.foldl (fun m key => Entries.erase key m) params

/-- Read the parameters in the map at hand, and take them out of it if that is asked for. -/
def readFrom (remove : Bool) : ExceptT StateError (StateM ValueMap) StateParams := do
  let moduleName ← ValueMap.required (← get) moduleNameKey
  let className ← ValueMap.required (← get) classNameKey
  let modulePath ← ValueMap.optional (← get) modulePathKey
  let writeMethod ← ValueMap.optional (← get) writeMethodKey
  if remove then modify without
  return { modulePath, moduleName, className, writeMethod }

/-- Take the parameters from a copy of a map: they, and what is left of the copy. -/
def extract (params : ValueMap) : Except StateError (StateParams × ValueMap) :=
  let (result, rest) := (readFrom true).run params
  result.map fun p => (p, rest)

end StateParams

/-! ## Models -/

/-- The class of a model, and how it is made and fitted. -/
structure ModelParams where
  modulePath : String := ""
  moduleName : String
  className : String
  /-- How many rows are collected before the model is fitted with them. -/
  batchSize : Nat := 10
  /-- The first argument of the class. -/
  modelPath : String := ""
  /-- The second argument of the class. -/
  gpu : Int64 := -1
deriving DecidableEq, Repr, Inhabited

namespace ModelParams

def defaultBatchSize : Nat := 10
def defaultGpu : Int64 := -1

/-- The batch size that a map asks for. -/
def batchSizeIn (params : ValueMap) : Except StateError Nat := do
  match ← ValueMap.optionalInt params batchSizeKey with
  | some n => if n.toInt ≤ 0 then throw (.invalidBatchSize n.toInt) else return n.toInt.toNat
  | none => return defaultBatchSize

/-- The parameters in a map. -/
def extract (params : ValueMap) : Except StateError ModelParams := do
  let batchSize ← batchSizeIn params
  let modulePath ← ValueMap.optional params modulePathKey
  let moduleName ← ValueMap.required params moduleNameKey
  let className ← ValueMap.required params classNameKey
  let modelPath ← ValueMap.optional params modelPathKey
  let gpu ← ValueMap.optionalInt params gpuKey
  return { modulePath, moduleName, className, batchSize, modelPath, gpu := gpu.getD defaultGpu }

end ModelParams

end InterpreterHost
