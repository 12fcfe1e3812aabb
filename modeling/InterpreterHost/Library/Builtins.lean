import InterpreterHost.Interpreter.Literal
import InterpreterHost.Library.Methods

/-!
# Modules of the interpreter itself

What is built in, copies, JSON and counting.

## Main definitions

* `Library.builtinModules` — the modules that every interpreter has
-/

namespace InterpreterHost.Library

open InterpreterHost.Computation

/-- A set of what an object holds. -/
def makeSet : Routine :=
  .native fun args named => do
    match args, named with
    | [], [] => new (.set false [])
    | [a], [] => do new (.set false (← (← iterate a).foldlM insertMember []))
    | args, [] => typeError s!"set expected at most 1 argument, got {args.length}"
    | _, _ => typeError "set() takes no keyword arguments"

/-- The text of an object in a new text. -/
def makeStr : Routine :=
  .native fun args named => do
    match args, named with
    | [], [] => newText ""
    | [a], [] => newTextOf a
    | args, _ => typeError s!"str() takes at most 3 arguments ({args.length + named.length} given)"

/-- The whole number that an object spells or is cut to. -/
def integerOf (a : Ref) : Computation Int := do
  match (← get).heap.plain a with
  | .str t => Literal.integer t
  | .bytes content | .byteArray content => Literal.integerOfOctets content
  | .float f => Literal.truncated f
  | o =>
    match integer? o with
    | some i => return i
    | none =>
      typeError s!"int() argument must be a string, a bytes-like object or a real number, not '{← typeName a}'"

def makeInt : Routine :=
  .native fun args named => do
    match args, named with
    | [], [] => newInt 0
    | [a], [] => do newInt (← integerOf a)
    | args, _ => typeError s!"int() takes at most 2 arguments ({args.length + named.length} given)"

/-- Bind the keys of further entries in those of a dictionary; a reference more to each of them. -/
def bindAll (entries : List (Ref × Ref)) (others : List (Ref × Ref)) : Computation (List (Ref × Ref)) :=
  others.foldlM (fun entries (key, value) => do bindKey entries (← retain key) (← retain value)) entries

/-- Bind the key to the value that an item of a sequence stands for. -/
def bindPair (entries : List (Ref × Ref)) (item : Ref) (i : Nat) : Computation (List (Ref × Ref)) := do
  let parts ← tryCatch (iterate item) fun _ =>
    typeError s!"cannot convert dictionary update sequence element #{i} to a sequence"
  match parts with
  | [key, value] => bindKey entries key value
  | parts => valueError s!"dictionary update sequence element #{i} has length {parts.length}; 2 is required"

/-- A dictionary with the entries of one, or with pairs as entries, and with named entries. -/
def makeDict : Routine :=
  .native fun args named => do
    let entries ← match args with
      | [] => pure []
      | [a] =>
        match (← get).heap.plain a with
        | .dict entries => bindAll [] entries
        | _ => (← iterate a).zipIdx.foldlM (fun entries (item, i) => bindPair entries item i) []
      | args => typeError s!"dict expected at most 1 argument, got {args.length}"
    let entries ← named.foldlM (fun entries (name, value) => do
      bindKey entries (← newText name) (← retain value)) entries
    new (.dict entries)

/-- A list of what an object holds. -/
def makeList : Routine :=
  .native fun args named => do
    match args, named with
    | [], [] => newList []
    | [a], [] => do newList (← iterate a)
    | args, [] => typeError s!"list expected at most 1 argument, got {args.length}"
    | _, _ => typeError "list() takes no keyword arguments"

/-- How many octets can be had at once. -/
def maxOctets : Nat := 0x100000000

/-- One octet of a sequence of numbers. -/
def octetOf (type : String) (r : Ref) : Computation UInt8 := do
  match integer? ((← get).heap.plain r) with
  | none => typeError s!"'{← typeName r}' object cannot be interpreted as an integer"
  | some i =>
    if 0 ≤ i ∧ i < 256 then return UInt8.ofNat i.toNat
    else valueError ((if type = "bytes" then "bytes" else "byte") ++ " must be in range(0, 256)")

/-- Octets that are all zero. -/
def zeros (n : Int) : Computation Octets := do
  if n < 0 then valueError "negative count"
  else if 0x8000000000000000 ≤ n then raise "OverflowError" "cannot fit 'int' into an index-sized integer"
  else if 0x8000000000000000 - 33 ≤ n then raise "OverflowError" "byte string is too large"
  else if maxOctets < n then throw .exhausted
  else return List.replicate n.toNat 0

/-- The octets that an object stands for: those it holds, as many zeros as it says, or those of which it holds the
numbers. -/
def octetsOf (type : String) (r : Ref) : Computation Octets := do
  let o := (← get).heap.plain r
  match o, Heap.octets? o, integer? o with
  | .str _, _, _ => typeError "string argument without an encoding"
  | _, some content, _ => return content
  | _, _, some n => zeros n
  | _, _, _ =>
    let items ← tryCatch (iterate r) fun _ => do typeError s!"cannot convert '{← typeName r}' object to {type}"
    items.mapM (octetOf type)

/-- Octets of what an object stands for. -/
def makeOctets (type : String) (make : Octets → Object) : Routine :=
  .native fun args named => do
    match args, named with
    | [], [] => new (make [])
    | [a], [] => do new (make (← octetsOf type a))
    | args, named => typeError s!"{type}() takes at most 3 arguments ({args.length + named.length} given)"

def builtinsModule : ModuleSource where
  name := builtins
  content := .ok [
    ("len", .function (nativeUnary "len" fun a => do newInt (← size a))),
    ("set", .builtinType makeSet setMethods),
    ("dict", .builtinType makeDict dictMethods),
    ("int", .builtinType makeInt integerMethods),
    ("str", .builtinType makeStr textMethods),
    ("list", .builtinType makeList listMethods),
    ("bytes", .builtinType (makeOctets "bytes" .bytes) (octetMethods "bytes")),
    ("bytearray", .builtinType (makeOctets "bytearray" .byteArray) (octetMethods "bytearray"))]

/-- A copy of an object.  Code outside cannot tell the copy of a value from the value. -/
def copyModule : ModuleSource where
  name := "copy"
  content := .ok [
    ("deepcopy", .function (.interpreted { parameters := ["x", "memo"], defaults := [.none] } fun
      | x :: _ => retain x
      | [] => newNone))]

def jsonModule : ModuleSource where
  name := "json"
  content := .ok [
    ("dumps", .function (.unary "obj" fun a => do newText (← dumpDocument {} a))),
    ("loads", .function (.unary "s" fun a => do (← readDocument a).build))]

/-! ## Counting -/

/-- Count one more of a key in entries; takes over the reference. -/
def countOne (entries : List (Ref × Ref)) (key : Ref) : Computation (List (Ref × Ref)) := do
  let h := (← get).heap
  let before := match (h.lookup entries key).map fun e => h.object e.2 with
    | some (.int n) => n
    | _ => 0
  bindKey entries key (← newInt (before + 1))

def initializeCounter (self items : Ref) : Computation Ref := do
  let keys ← match ← look items with
    | .none => pure []
    | _ => iterate items
  setField self "counts" (← new (.dict (← keys.foldlM countOne [])))
  newNone

/-- The count in an entry. -/
def countOf (h : Heap) (entry : Ref × Ref) : Int :=
  match h.object entry.2 with
  | .int n => n
  | _ => 0

/-- The keys with their counts, the greatest count first and equal ones in the order in which they were met. -/
def mostCommon (self limit : Ref) : Computation Ref := do
  let h := (← get).heap
  match ← look (← getField self "counts"), ← look limit with
  | .dict entries, bound =>
    let ranked := entries.mergeSort fun a b => countOf h b ≤ countOf h a
    let chosen := match bound with
      | .int n => ranked.take n.toNat
      | _ => ranked
    newList (← chosen.mapM fun (key, count) => do new (.tuple (← retainAll [key, count])))
  | _, _ => newList []

def collectionsModule : ModuleSource where
  name := "collections"
  content := .ok [
    ("Counter", .cls none [
      ("__init__", .method (.binary "self" "iterable" initializeCounter [.none])),
      ("most_common", .method (.binary "self" "n" mostCommon [.none]))])]

/-- The modules that every interpreter has. -/
def builtinModules : List ModuleSource := [builtinsModule, copyModule, jsonModule, collectionsModule]

end InterpreterHost.Library
