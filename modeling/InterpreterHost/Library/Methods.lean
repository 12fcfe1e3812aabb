import InterpreterHost.Interpreter.Attribute
import InterpreterHost.Interpreter.Files

/-!
# Methods of types that are built in

## Main definitions

* `Library.native` — code that is built in and takes a given number of arguments
* `Library.integerMethods`, `Library.textMethods`, `Library.octetMethods`, `Library.listMethods`,
  `Library.dictMethods`, `Library.setMethods` — the methods of the types
-/

namespace InterpreterHost.Library

open InterpreterHost.Computation

/-! ## Native code -/

/-- Code that is built in and takes one positional argument. -/
def nativeUnary (name : String) (body : Ref → Computation Ref) : Routine :=
  .native fun args named =>
    match args, named with
    | [a], [] => body a
    | args, [] => typeError s!"{name}() takes exactly one argument ({args.length} given)"
    | _, _ => typeError s!"{name}() takes no keyword arguments"

/-- The method of a type that takes nothing but the object it is bound to. -/
def bare (type name : String) (body : Ref → Computation Ref) : String × Routine :=
  (name, .native fun args named =>
    match args, named with
    | [self], [] => body self
    | args, [] => typeError s!"{type}.{name}() takes no arguments ({args.length - 1} given)"
    | _, _ => typeError s!"{type}.{name}() takes no keyword arguments")

/-- The method of a type that takes one argument. -/
def single (type name : String) (body : Ref → Ref → Computation Ref) : String × Routine :=
  (name, .native fun args named =>
    match args, named with
    | [self, a], [] => body self a
    | args, [] => typeError s!"{type}.{name}() takes exactly one argument ({args.length - 1} given)"
    | _, _ => typeError s!"{type}.{name}() takes no keyword arguments")

/-- The method of a type that takes from `least` to `most` arguments. -/
def ranged (type name : String) (least most : Nat) (body : Ref → List Ref → Computation Ref) : String × Routine :=
  (name, .native fun args named =>
    let given := args.length - 1
    let count (n : Nat) : String := s!"{n} argument{Signature.plural n}, got {given}"
    match args, named with
    | self :: args, [] =>
      if given < least then
        typeError (name ++ " expected " ++ (if least = most then "" else "at least ") ++ count least)
      else if most < given then
        typeError (name ++ " expected " ++ (if least = most then "" else "at most ") ++ count most)
      else body self args
    | _, _ => typeError s!"{type}.{name}() takes no keyword arguments")

/-! ## Whole numbers, texts and octets -/

/-- How many bits the absolute value of an integer has. -/
def bitLength (i : Int) : Nat := if i = 0 then 0 else i.natAbs.log2 + 1

def wholeNumber (self : Ref) : Computation Int := return (integer? ((← get).heap.plain self)).getD 0

def integerMethods : List (String × Routine) := [
  bare "int" "bit_length" fun self => do newInt (bitLength (← wholeNumber self)),
  bare "int" "conjugate" fun self => do newInt (← wholeNumber self)]

def upperAscii (p : CodePoint) : CodePoint := if 97 ≤ p.val ∧ p.val ≤ 122 then .ofNat (p.val - 32) else p

def lowerAscii (p : CodePoint) : CodePoint := if 65 ≤ p.val ∧ p.val ≤ 90 then .ofNat (p.val + 32) else p

def textOfSelf (self : Ref) : Computation CodePoints := return ((← get).heap.text? self).getD []

/-- The methods of texts; letters of other scripts stay as they are. -/
def textMethods : List (String × Routine) := [
  bare "str" "upper" fun self => do new (.str ((← textOfSelf self).map upperAscii)),
  bare "str" "lower" fun self => do new (.str ((← textOfSelf self).map lowerAscii))]

def octetsOfSelf (self : Ref) : Computation Octets := return (Heap.octets? ((← get).heap.plain self)).getD []

/-- The names of the encoding in which octets are decoded. -/
def isUtf8 (name : CodePoints) : Bool := (["utf-8", "utf8", "UTF-8"].map CodePoints.ofString).contains name

/-- Decode octets, unless they are in an encoding that is not known. -/
def decodeSelf (self : Ref) (args : List Ref) : Computation Ref := do
  let h := (← get).heap
  if let some encoding := args.head? then
    match h.text? encoding with
    | none => typeError s!"decode() argument 'encoding' must be str, not {h.typeName encoding}"
    | some name =>
      if ¬ isUtf8 name then raise "LookupError" s!"unknown encoding: {name.toStringLossy}"
  new (.str (← Encoding.decode (← octetsOfSelf self)))

def octetMethods (type : String) : List (String × Routine) := [
  ranged type "decode" 0 2 decodeSelf,
  ranged type "hex" 0 2 fun self _ => do
    newText (String.ofList ((← octetsOfSelf self).flatMap fun b => Text.hex 2 b.toNat))]

/-! ## Lists -/

def itemsOfSelf (self : Ref) : Computation (List Ref) := do
  match (← get).heap.plain self with
  | .list items | .tuple items | .set _ items => return items
  | _ => return []

def setItems (self : Ref) (items : List Ref) : Computation Ref := do
  setObject ((← get).heap.basis self) (.list items)
  newNone

/-- Take an item out of a list: the last one, or that at a place. -/
def popItem (self : Ref) (args : List Ref) : Computation Ref := do
  let items ← itemsOfSelf self
  let words := if items.isEmpty then "pop from empty list" else "pop index out of range"
  let key ← match args with
    | key :: _ => retain key
    | [] => newInt (-1)
  let demand := s!"'{← typeName key}' object cannot be interpreted as an integer"
  let place ← consuming key fun key => select (List.range items.length) key words demand
  let _ ← setItems self (items.eraseIdx place)
  return items.getD place self

/-- The place of the first item that is the same as an object. -/
def findItem (items : List Ref) (item : Ref) : Computation (Option Nat) := do
  let h := (← get).heap
  return items.findIdx? fun r => h.same r item

/-- Put an object at a place of a list; what comes before the first place or after the last one is put there. -/
def insertItem (self : Ref) (args : List Ref) : Computation Ref := do
  let items ← itemsOfSelf self
  match args with
  | [key, item] =>
    match integer? ((← get).heap.plain key) with
    | some i =>
      let place := (max 0 (if i < 0 then i + items.length else i)).toNat
      setItems self (items.take place ++ (← retain item) :: items.drop place)
    | none => typeError s!"'{← typeName key}' object cannot be interpreted as an integer"
  | _ => newNone

def listMethods : List (String × Routine) := [
  single "list" "append" fun self item => do
    push self (← retain item)
    newNone,
  bare "list" "clear" fun self => do
    let items ← itemsOfSelf self
    let done ← setItems self []
    releaseAll items
    return done,
  bare "list" "copy" fun self => do newList (← retainAll (← itemsOfSelf self)),
  single "list" "count" fun self item => do
    let h := (← get).heap
    newInt ((← itemsOfSelf self).filter (h.same · item)).length,
  single "list" "extend" fun self other => do
    let more ← iterate other
    setItems self ((← itemsOfSelf self) ++ more),
  ranged "list" "index" 1 3 fun self args => do
    match ← findItem (← itemsOfSelf self) (args.headD self) with
    | some place => newInt place
    | none => valueError s!"{(← get).heap.representation (args.headD self)} is not in list",
  ranged "list" "insert" 2 2 insertItem,
  ranged "list" "pop" 0 1 popItem,
  single "list" "remove" fun self item => do
    let items ← itemsOfSelf self
    match ← findItem items item with
    | some place => setItems self (items.eraseIdx place)
    | none => valueError "list.remove(x): x not in list",
  bare "list" "reverse" fun self => do setItems self (← itemsOfSelf self).reverse]

/-! ## Dictionaries -/

def entriesOfSelf (self : Ref) : Computation (List (Ref × Ref)) := do
  match (← get).heap.plain self with
  | .dict entries => return entries
  | _ => return []

def setEntries (self : Ref) (entries : List (Ref × Ref)) : Computation Unit := do
  setObject ((← get).heap.basis self) (.dict entries)

/-- What a dictionary binds a key to. -/
def boundTo (self key : Ref) : Computation (Option Ref) := do
  needKey key
  return ((← get).heap.lookup (← entriesOfSelf self) key).map (·.2)

/-- Take out of a dictionary what it binds a key to. -/
def popEntry (self : Ref) (args : List Ref) : Computation Ref := do
  let key := args.headD self
  match ← boundTo self key, args[1]? with
  | some value, _ =>
    let h := (← get).heap
    setEntries self ((← entriesOfSelf self).filter fun e => !h.same e.1 key)
    return value
  | none, some default => retain default
  | none, none => raise "KeyError" ((← get).heap.representation key)

def dictMethods : List (String × Routine) := [
  ranged "dict" "get" 1 2 fun self args => do
    retain ((← boundTo self (args.headD self)).getD (args.getD 1 Heap.noneRef)),
  ranged "dict" "pop" 1 2 popEntry,
  ranged "dict" "setdefault" 1 2 fun self args => do
    let key := args.headD self
    match ← boundTo self key with
    | some value => retain value
    | none =>
      let value := args.getD 1 Heap.noneRef
      setEntries self (← bindKey (← entriesOfSelf self) (← retain key) (← retain value))
      retain value,
  bare "dict" "clear" fun self => do
    setEntries self []
    newNone,
  bare "dict" "copy" fun self => do
    let entries ← entriesOfSelf self
    new (.dict (← entries.mapM fun e => return (← retain e.1, ← retain e.2)))]

/-! ## Sets -/

/-- Put an object into the items of a set, unless the same is there; takes over the reference. -/
def insertMember (items : List Ref) (item : Ref) : Computation (List Ref) := do
  needKey item
  match ← findItem items item with
  | some _ =>
    release item
    return items
  | none => return items ++ [item]

def setMembers (self : Ref) (items : List Ref) : Computation Ref := do
  setObject ((← get).heap.basis self) (.set false items)
  newNone

/-- Take an object out of a set; `missing` is what there is to do if it is not there. -/
def exclude (missing : Ref → Computation Ref) (self item : Ref) : Computation Ref := do
  needKey item
  let items ← itemsOfSelf self
  match ← findItem items item with
  | some place => setMembers self (items.eraseIdx place)
  | none => missing item

def setMethods : List (String × Routine) := [
  single "set" "add" fun self item => do setMembers self (← insertMember (← itemsOfSelf self) (← retain item)),
  bare "set" "clear" fun self => setMembers self [],
  bare "set" "copy" fun self => do new (.set false (← retainAll (← itemsOfSelf self))),
  single "set" "discard" (exclude fun _ => newNone),
  single "set" "remove" (exclude fun item => do raise "KeyError" ((← get).heap.representation item)),
  bare "set" "pop" fun self => do
    match ← itemsOfSelf self with
    | item :: rest =>
      let _ ← setMembers self rest
      return item
    | [] => raise "KeyError" "'pop from an empty set'"]

end InterpreterHost.Library
