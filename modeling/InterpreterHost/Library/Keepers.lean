import InterpreterHost.Library.Specimens

/-!
# Classes of states

Classes whose instances can be created, written to, saved to a file and loaded from one.

## Main definitions

* `Library.keeperMembers` — classes that keep what they are given
* `Library.modelMembers` — a class of models that are fitted with rows
* `Library.keepers` — the module of specimens with all of them
-/

namespace InterpreterHost.Library

open InterpreterHost.Computation

/-! ## A state that keeps its parameters and what is written to it -/

/-- Raise an exception if parameters ask for it. -/
def refuseAsked (params : Ref) (message : String) : Computation Unit := do
  if ← isSet params "fail" then valueError message

/-- A new instance with the given parameters and log, both of which it takes over. -/
def newKeep (moduleName : String) (params log : Ref) : Computation Ref :=
  newInstance moduleName "Keep" [("params", params), ("log", log)]

def createKeep (moduleName : String) : Routine :=
  .interpreted { rest := true } fun
    | params :: _ => do
      let items ← iterate params
      if let some first := items.head? then refuseAsked first "create refused"
      newKeep moduleName (← newList items) (← newList [])
    | [] => newNone

def writeKeep (self value : Ref) : Computation Ref := do
  refuseFailing value "write refused"
  push (← getField self "log") (← retain value)
  newNone

def writeTagged (self value : Ref) : Computation Ref := do
  push (← getField self "log") (← tagged "w2" value)
  newNone

def saveKeep (self path params : Ref) : Computation Ref := do
  refuseAsked params "save refused"
  let path ← openToWrite (← pathOf path)
  consuming (← newList (← retainAll [← getField self "params", ← getField self "log", params]))
    (writeDocument true path)
  newNone

def loadKeep (moduleName : String) (path params : Ref) : Computation Ref := do
  refuseAsked params "load refused"
  let saved ← loadDocument (← readText (← pathOf path))
  releasing [saved] do
    let first ← part saved (.int 0)
    let log ← part saved (.int 1)
    let second ← part saved (.int 2)
    newKeep moduleName (← newList [first, second, ← retain params]) log

def keepMembers (moduleName : String) : List (String × ClassMember) := [
  ("__init__", .method (.binary "self" "params" fun self params => do
    setField self "params" (← retain params)
    setField self "log" (← newList [])
    newNone)),
  ("create", .described .static (createKeep moduleName)),
  ("write", .method (.binary "self" "value" writeKeep)),
  ("write2", .method (.binary "self" "value" writeTagged)),
  ("get_params", .method (.unary "self" fun self => do retain (← getField self "params"))),
  ("get_log", .method (.unary "self" fun self => do retain (← getField self "log"))),
  ("save", .method (.ternary "self" "filepath" "params" saveKeep)),
  ("load", .described .static (.binary "filepath" "params" (loadKeep moduleName)))]

/-! ## A state that is saved as the octets last written to it -/

def newRaw (moduleName : String) (content : Octets) : Computation Ref := do
  newInstance moduleName "Raw" [("data", ← new (.bytes content))]

def initializeRaw (self data : Ref) : Computation Ref := do
  setField self "data" (← retain data)
  newNone

def writeRaw (self data : Ref) : Computation Ref := do
  setField self "data" (← new (.bytes (← octetsOf "bytes" data)))
  newNone

/-- The octets that an object holds, where nothing else can be written. -/
def heldOctets (r : Ref) : Computation Octets := do
  match Heap.octets? ((← get).heap.plain r) with
  | some content => return content
  | none => typeError s!"a bytes-like object is required, not '{← typeName r}'"

def saveRaw (self path params : Ref) : Computation Ref := do
  let path ← openToWrite (← pathOf path)
  writeFile path (← heldOctets (← getField self "data"))
  if ← isSet params "remove" then removeFile path
  newNone

def loadRaw (moduleName : String) (path params : Ref) : Computation Ref := do
  let path ← pathOf path
  let content ← openToRead path
  if ← isSet params "remove" then removeFile path
  newRaw moduleName content

def rawMembers (moduleName : String) : List (String × ClassMember) := [
  ("__init__", .method (.binary "self" "data" initializeRaw)),
  ("create", .described .static
    (.interpreted { parameters := ["params"], defaults := [.none] } fun _ => newRaw moduleName [])),
  ("write", .method (.binary "self" "data" writeRaw)),
  ("data_now", .method (.unary "self" fun self => do retain (← getField self "data"))),
  ("save", .method (.ternary "self" "filepath" "params" saveRaw)),
  ("load", .described .static (.binary "filepath" "params" (loadRaw moduleName)))]

/-! ## A state that cannot be saved -/

def unsavedMembers (moduleName : String) : List (String × ClassMember) := [
  ("create", .described .static (.nullary (newInstance moduleName "Unsaved" []))),
  ("ping", .method (.unary "self" fun _ => newText "pong"))]

/-! ## Models -/

def initializeModel (self path device : Ref) : Computation Ref := do
  refuseFailing path "cannot open model"
  setField self "args" (← newList (← retainAll [path, device]))
  setField self "fitted" (← newList [])
  setField self "blob" (← new (.bytes []))
  newNone

/-- What fitting one row gives, if it is a dictionary that says so; it may say that fitting fails. -/
def rowResult (row : Ref) : Computation (Option Ref) := do
  match ← look row with
  | .dict _ =>
    if let some reason ← entry? row "raise" then
      throw { thrown := .ofText { name := "ValueError" } ((← get).heap.text reason) }
    entry? row "result"
  | _ => return none

def fitModel (self rows : Ref) : Computation Ref := do
  push (← getField self "fitted") (← retain rows)
  let items ← iterate rows
  releasing items do
    retain (← items.foldlM (fun result row => return (← rowResult row).getD result) rows)

def loadModel (self blob : Ref) : Computation Ref := do
  let content ← octetsOf "bytes" blob
  if content = Utf8.encode "bad".toList then valueError "bad blob"
  setField self "blob" (← newList [← newText "loaded", ← new (.bytes content)])
  newNone

def modelMembers : List (String × ClassMember) := [
  ("__init__", .method (.ternary "self" "model_path" "gpu_id" initializeModel)),
  ("fit", .method (.binary "self" "rows" fitModel)),
  ("fits", .method (.unary "self" fun self => do retain (← getField self "fitted"))),
  ("predict", .method (.binary "self" "value" fun _ value => tagged "predicted" value)),
  ("set_blob", .method (.binary "self" "blob" fun self blob => do
    setField self "blob" (← retain blob)
    newNone)),
  ("save", .method (.unary "self" fun self => do retain (← getField self "blob"))),
  ("load", .method (.binary "self" "blob" loadModel)),
  ("get_blob", .method (.unary "self" fun self => do retain (← getField self "blob"))),
  ("get_args", .method (.unary "self" fun self => do retain (← getField self "args")))]

/-- The classes that keep what they are given. -/
def keeperMembers (moduleName : String) : List (String × Member) := [
  ("Keep", .cls none (keepMembers moduleName)),
  ("Raw", .cls none (rawMembers moduleName)),
  ("Unsaved", .cls none (unsavedMembers moduleName)),
  ("Model", .cls none modelMembers)]

/-- The module of specimens and keepers. -/
def keepers (name directory : String) : ModuleSource where
  name
  directory := some directory
  content := .ok (specimenMembers name ++ keeperMembers name)

end InterpreterHost.Library
