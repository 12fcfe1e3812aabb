import InterpreterHost.Interpreter.Order
import InterpreterHost.Interpreter.Representation

/-!
# Operations on objects

What the code of the library does to objects.

## Main definitions

* `Computation.truth` — whether an object counts as true
* `Computation.iterate`, `Computation.subscript`, `Computation.size` — parts of containers
* `Computation.add` — sums
* `Computation.getField`, `Computation.setField` — attributes of instances
-/

namespace InterpreterHost.Computation

/-- Whether an object counts as true. -/
def truth (r : Ref) : Computation Bool := do
  match (← get).heap.plain r with
  | .none => return false
  | .bool b => return b
  | .int i => return i ≠ 0
  | .float f => return !f.isZero
  | .str t => return !t.isEmpty
  | .bytes content | .byteArray content => return !content.isEmpty
  | .list items | .tuple items | .set _ items => return !items.isEmpty
  | .dict entries => return !entries.isEmpty
  | _ => return true

/-- Whether an object is a text of the host. -/
def isText (r : Ref) (s : String) : Computation Bool := return (← get).heap.text? r == some (.ofString s)

/-! ## Containers -/

/-- The exception that an object has no attribute of a name. -/
def lacks (r : Ref) (name : String) : Computation α := do
  raise "AttributeError" s!"'{← typeName r}' object has no attribute '{name}'"

/-- What a dictionary binds a text to, as a place that the dictionary refers to. -/
def entry? (r : Ref) (key : String) : Computation (Option Ref) := do
  match (← get).heap.plain r with
  | .dict entries =>
    for (k, v) in entries do
      if ← isText k key then return some v
    return none
  | _ => lacks r "get"

/-- Whether a dictionary binds a text to something that counts as true. -/
def isSet (r : Ref) (key : String) : Computation Bool := do
  match ← entry? r key with
  | some v => truth v
  | none => return false

/-- The items that a loop over an object sees, as new references. -/
def iterate (r : Ref) : Computation (List Ref) := do
  match (← get).heap.plain r with
  | .list items | .tuple items | .set _ items => retainAll items
  | .dict entries => retainAll (entries.map (·.1))
  | .str t => t.mapM fun p => new (.str [p])
  | .bytes content | .byteArray content => content.mapM fun b => newInt b.toNat
  | _ => typeError s!"'{← typeName r}' object is not iterable"

/-- The number of parts of a container. -/
def size (r : Ref) : Computation Nat := do
  match (← get).heap.plain r with
  | .str t => return t.length
  | .bytes content | .byteArray content => return content.length
  | .list items | .tuple items | .set _ items => return items.length
  | .dict entries => return entries.length
  | _ => typeError s!"object of type '{← typeName r}' has no len()"

/-- The whole number that an object is. -/
def integer? : Object → Option Int
  | .bool b => some (if b then 1 else 0)
  | .int i => some i
  | _ => none

/-- The integers that can be places. -/
def isIndex (i : Int) : Bool := -0x8000000000000000 ≤ i && i < 0x8000000000000000

/-- One of the parts of a sequence, at a place that is counted from the end if it is negative; `words` is said where
there is none, and `demand` if the key is no whole number. -/
def select (parts : List α) (key : Ref) (words demand : String) : Computation α := do
  match integer? ((← get).heap.plain key) with
  | none => typeError demand
  | some i =>
    if ¬ isIndex i then raise "IndexError" s!"cannot fit '{← typeName key}' into an index-sized integer"
    else
      let place := if i < 0 then i + parts.length else i
      match if place < 0 then none else parts[place.toNat]? with
      | some part => return part
      | none => raise "IndexError" words

/-- The part of a container at a key, as a new reference. -/
def subscript (r key : Ref) : Computation Ref := do
  let h := (← get).heap
  let indices (what : String) : String := s!"{what} indices must be integers or slices, not {h.typeName key}"
  match h.plain r with
  | .dict entries =>
    needKey key
    match h.lookup entries key with
    | some e => retain e.2
    | none => raise "KeyError" (h.representation key)
  | .list items => do retain (← select items key "list index out of range" (indices "list"))
  | .tuple items => do retain (← select items key "tuple index out of range" (indices "tuple"))
  | .str t => do
    let p ← select t key "string index out of range" s!"string indices must be integers, not '{h.typeName key}'"
    new (.str [p])
  | .bytes content => do newInt (← select content key "index out of range" (indices "byte")).toNat
  | .byteArray content => do
    newInt (← select content key "bytearray index out of range" (indices "bytearray")).toNat
  | _ => typeError s!"'{h.typeName r}' object is not subscriptable"

/-- The part of a container at a constant key, as a new reference. -/
def part (r : Ref) (key : Constant) : Computation Ref := do
  let k ← new key.object
  releasing [k] (subscript r k)

/-- Put a reference at the end of a list, which takes it over. -/
def push (list item : Ref) : Computation Unit := do
  let h := (← get).heap
  match h.plain list with
  | .list items => setObject (h.basis list) (.list (items ++ [item]))
  | _ =>
    release item
    lacks list "append"

/-- Use what is made, and give up the reference to it. -/
def consuming (made : Ref) (body : Ref → Computation α) : Computation α := releasing [made] (body made)

/-! ## Instances -/

/-- An attribute that an instance has itself, as a place that it refers to. -/
def getField (self : Ref) (name : String) : Computation Ref := do
  match ← look self with
  | .instanceOf _ attributes =>
    match attributes.find? name with
    | some r => return r
    | none => lacks self name
  | _ => lacks self name

/-- Set an attribute of an instance, which takes over the reference. -/
def setField (self : Ref) (name : String) (value : Ref) : Computation Unit := do
  match ← look self with
  | .instanceOf c attributes =>
    setObject self (.instanceOf c (attributes.insert name value))
    if let some old := attributes.find? name then release old
  | _ =>
    release value
    lacks self name

/-- A class of a module that is imported. -/
def classNamed (moduleName name : String) : Computation Ref := do
  match (← get).modules.find? moduleName with
  | some m =>
    match ← look m with
    | .module _ attributes => return (attributes.find? name).getD Heap.noneRef
    | _ => return Heap.noneRef
  | none => return Heap.noneRef

/-- A new instance of a class of a module that is imported, with attributes that it takes over. -/
def newInstance (moduleName name : String) (attributes : List (String × Ref)) : Computation Ref := do
  new (.instanceOf (← retain (← classNamed moduleName name)) (Entries.ofList attributes))

/-! ## Sums and texts -/

/-- A number as a double, unless it is too large for one. -/
def double? : Object → Option (Except Raised Binary64)
  | .float f => some (.ok f)
  | o => (integer? o).map fun i =>
    let f := Binary64.ofInt i
    if f.isFinite then .ok f else .error (.builtin "OverflowError" "int too large to convert to float")

/-- The sum of two objects, as a new reference.  A sum `inPlace` puts the parts of the other object at the end of a
list or of octets that may change. -/
def add (inPlace : Bool) (a b : Ref) : Computation Ref := do
  let h := (← get).heap
  let others (what : String) : String := s!"can only concatenate {what} (not \"{h.typeName b}\") to {what}"
  let octets : Computation Octets := match Heap.octets? (h.plain b) with
    | some content => return content
    | none => typeError s!"can't concat {h.typeName b} to {h.typeName a}"
  match h.plain a, h.plain b with
  | .str s, .str t => new (.str (s ++ t))
  | .str _, _ => typeError (others "str")
  | .list items, other =>
    if inPlace then
      setObject (h.basis a) (.list (items ++ (← iterate b)))
      retain a
    else match other with
      | .list more => do newList (← retainAll (items ++ more))
      | _ => typeError (others "list")
  | .tuple items, .tuple more => do new (.tuple (← retainAll (items ++ more)))
  | .tuple _, _ => typeError (others "tuple")
  | .bytes content, _ => do new (.bytes (content ++ (← octets)))
  | .byteArray content, _ => do
    let sum := .byteArray (content ++ (← octets))
    if inPlace then
      setObject (h.basis a) sum
      retain a
    else new sum
  | x, y =>
    match integer? x, integer? y, double? x, double? y with
    | some i, some j, _, _ => newInt (i + j)
    | _, _, some f, some g => do new (.float ((← f).add (← g)))
    | _, _, _, _ =>
      let operator := if inPlace then "+=" else "+"
      typeError s!"unsupported operand type(s) for {operator}: '{h.typeName a}' and '{h.typeName b}'"

/-- An object as it is written by itself. -/
def textOf (r : Ref) : Computation CodePoints := do (← get).heap.text r

/-- An object as it is written by itself, in a new text. -/
def newTextOf (r : Ref) : Computation Ref := do new (.str (← textOf r))

end InterpreterHost.Computation
