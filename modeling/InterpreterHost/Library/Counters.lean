import InterpreterHost.Library.Keepers

/-!
# A module of counters and classifiers

States that count and are saved as documents, and models that count the labels of the rows that they are fitted
with.

## Main definitions

* `Library.counters` — the module
-/

namespace InterpreterHost.Library

open InterpreterHost.Computation

/-! ## Counters -/

/-- What a dictionary binds a text to, or what is made in place of it once the dictionary is known to be one. -/
def entryOr (d : Ref) (key : String) (default : Computation Ref) : Computation Ref := do
  let found ← entry? d key
  let other ← default
  match found with
  | some v =>
    release other
    retain v
  | none => return other

def createCounter (moduleName : String) (params : Ref) : Computation Ref := do
  let step ← match ← look params with
    | .none => newInt 1
    | _ => entryOr params "step" (newInt 1)
  newInstance moduleName "Counter" [("count", ← newInt 0), ("step", step), ("written", ← newList [])]

def increment (self : Ref) : Computation Ref := do
  let sum ← add true (← getField self "count") (← getField self "step")
  setField self "count" (← retain sum)
  return sum

def writeCounter (self value : Ref) : Computation Ref := do
  let written ← getField self "written"
  push written (← retain value)
  newInt (← size written)

def saveCounter (self path params : Ref) : Computation Ref := do
  let path ← openToWrite (← pathOf path)
  let fields ← ["count", "step", "written"].mapM fun name => return (name, ← retain (← getField self name))
  let tag ← entryOr params "tag" newNone
  consuming (← newDict (fields ++ [("tag", tag)])) (writeDocument false path)
  newNone

def loadCounter (moduleName : String) (path params : Ref) : Computation Ref := do
  let saved ← loadDocument (← readText (← pathOf path))
  consuming saved fun saved => do
    let count ← part saved (.text "count")
    let step ← entryOr params "step" (part saved (.text "step"))
    let written ← part saved (.text "written")
    let tag ← part saved (.text "tag")
    newInstance moduleName "Counter" [("count", count), ("step", step), ("written", written), ("tag", tag)]

def counterMembers (moduleName : String) : List (String × ClassMember) := [
  ("create", .described .static
    (.interpreted { parameters := ["params"], defaults := [.none] } fun
      | [params] => createCounter moduleName params
      | _ => newNone)),
  ("increment", .method (.unary "self" increment)),
  ("write", .method (.binary "self" "value" writeCounter)),
  ("written_values", .method (.unary "self" fun self => do retain (← getField self "written"))),
  ("save", .method (.ternary "self" "filepath" "params" saveCounter)),
  ("load", .described .static (.binary "filepath" "params" (loadCounter moduleName))),
  ("get_tag", .method (.unary "self" fun self => do retain (← getField self "tag")))]

/-! ## States that can do next to nothing -/

def silentMembers (moduleName : String) : List (String × ClassMember) := [
  ("create", .described .static (.nullary (newInstance moduleName "NoArgs" []))),
  ("hello", .method (.unary "self" fun _ => newText "hello"))]

def brokenMembers (moduleName : String) : List (String × ClassMember) := [
  ("create", .described .static (.nullary (newInstance moduleName "BrokenLoad" []))),
  ("save", .method (.ternary "self" "filepath" "params" fun _ path _ => do
    let path ← openToWrite (← pathOf path)
    writeFile path (Utf8.encode ['x'])
    newNone)),
  ("load", .described .static (.binary "filepath" "params" fun path _ => do
    let message ← consuming (← newText "cannot load ") fun start => add false start path
    throw (.of { name := "OSError" } (← textOf message)))),
  ("ping", .method (.unary "self" fun _ => newText "pong"))]

/-! ## Classifiers -/

/-- Count a label in a dictionary of counts. -/
def countLabel (counts label : Ref) : Computation Unit := do
  match (← get).heap.plain counts with
  | .dict entries =>
    needKey label
    let before ← match (← get).heap.lookup entries label with
      | some e => retain e.2
      | none => newInt 0
    let sum ← consuming before fun before => do
      consuming (← newInt 1) fun one => add false before one
    setObject counts (.dict (← bindKey entries (← retain label) sum))
  | _ => lacks counts "get"

/-- Half a number of rows, or all of them. -/
def rowNumber (n scale : Nat) : Object := .float (Binary64.ofRatio false n scale)

def fitClassifier (self rows : Ref) : Computation Ref := do
  let batches ← getField self "batches"
  let n ← size rows
  push batches (← newInt n)
  for row in ← iterate rows do
    let label ← consuming row fun row => part row (.text "label")
    consuming label fun label => do countLabel (← getField self "counts") label
  newDict [("loss", ← new (rowNumber n 2)), ("accuracy", ← new (rowNumber n 1))]

/-- The first of the labels with the greatest count; `best` is the best one so far with its count. -/
def mostFrequent (counts : Ref) (best : Ref × Ref) : List Ref → Computation Ref
  | [] => return best.1
  | label :: labels => do
    let count ← subscript counts label
    if ← holds .greater count best.2 then mostFrequent counts (label, count) labels
    else mostFrequent counts best labels

def predictClass (self : Ref) : Computation Ref := do
  let counts ← getField self "counts"
  if ← truth counts then
    match ← sorted (← iterate counts) with
    | label :: labels => do mostFrequent counts (label, ← subscript counts label) labels
    | [] => valueError "max() arg is an empty sequence"
  else newNone

def saveClassifier (self : Ref) : Computation Ref := do
  let text ← dumpDocument {} (← getField self "counts")
  new (.byteArray (Utf8.encode text.toList))

def loadClassifier (self blob : Ref) : Computation Ref := do
  setField self "counts" (← loadDocument (← Encoding.decode (← octetsOf "bytes" blob)))
  newNone

def initializeClassifier (self path device : Ref) : Computation Ref := do
  setField self "model_path" (← retain path)
  setField self "gpu_id" (← retain device)
  setField self "batches" (← newList [])
  setField self "counts" (← newDict [])
  newNone

def classifierMembers : List (String × ClassMember) := [
  ("__init__", .method (.ternary "self" "model_path" "gpu_id" initializeClassifier)),
  ("fit", .method (.binary "self" "rows" fitClassifier)),
  ("fitted_batches", .method (.unary "self" fun self => do retain (← getField self "batches"))),
  ("predict", .method (.binary "self" "row" fun self _ => predictClass self)),
  ("save", .method (.unary "self" saveClassifier)),
  ("load", .method (.binary "self" "blob" loadClassifier)),
  ("constructed_with", .method (.unary "self" fun self => do
    newList (← retainAll [← getField self "model_path", ← getField self "gpu_id"])))]

/-- The module of counters and classifiers. -/
def counters (name directory : String) : ModuleSource where
  name
  directory := some directory
  content := .ok [
    ("Counter", .cls none (counterMembers name)),
    ("NoArgs", .cls none (silentMembers name)),
    ("BrokenLoad", .cls none (brokenMembers name)),
    ("Classifier", .cls none classifierMembers),
    ("TextSave", .cls (some "Classifier") [
      ("save", .method (.unary "self" fun _ => newText "not a blob"))])]

end InterpreterHost.Library
