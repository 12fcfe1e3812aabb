import InterpreterHost.Interpreter.Computation

/-!
# Equality, and keys of dictionaries

Which objects are the same by their value, and which may be keys: numbers are by their value, whatever their type,
and times by the instant.

## Main definitions

* `Heap.same` — whether two objects are the same
* `Heap.unhashable?` — why an object is no key
* `Computation.bindKey` — bind a key in the entries of a dictionary
-/

namespace InterpreterHost

/-- The value of a number. -/
inductive Amount where
  /-- A finite number, as numerator and denominator. -/
  | ratio (num : Int) (den : Nat)
  | infinite (negative : Bool)
  | undefined
deriving DecidableEq, Repr

namespace Amount

def ofFloat (f : Binary64) : Amount :=
  if f.isNaN then undefined
  else if f.isInfinite then infinite f.isNegative
  else
    let (num, den) := f.ratio
    ratio (if f.isNegative then -(num : Int) else num) den

/-- Whether two numbers are the same; what is undefined is not the same as anything. -/
def same : Amount → Amount → Bool
  | ratio m d, ratio n e => m * e == n * d
  | infinite a, infinite b => a == b
  | _, _ => false

/-- Whether a number is less than another one. -/
def less : Amount → Amount → Bool
  | ratio m d, ratio n e => m * e < n * d
  | infinite a, infinite b => a && !b
  | infinite a, ratio .. => a
  | ratio .., infinite b => !b
  | _, _ => false

end Amount

namespace Heap

/-- The value of an object that is a number. -/
def amount? : Object → Option Amount
  | .bool b => some (.ratio (if b then 1 else 0) 1)
  | .int i => some (.ratio i 1)
  | .float f => some (.ofFloat f)
  | _ => none

/-- The octets of an object that holds octets. -/
def octets? : Object → Option Octets
  | .bytes content | .byteArray content => some content
  | _ => none

/-- Whether two dates and times are the same: both naive and with the same fields, or both aware and at the same
instant. -/
def sameTime (s t : DateTime) : Bool :=
  match s.offset, t.offset with
  | .ok none, .ok none => s.wallMicros == t.wallMicros
  | .ok (some a), .ok (some b) => s.wallMicros - a == t.wallMicros - b
  | _, _ => false

mutual

/-- Whether two objects are the same, where `fuel` bounds how deep containers are compared. -/
def sameAux (h : Heap) : Nat → Ref → Ref → Bool
  | 0, a, b => a == b
  | fuel + 1, a, b =>
    a == b ||
    match h.plain a, h.plain b with
    | .str s, .str t => s == t
    | .list s, .list t => samesAux h fuel s t
    | .tuple s, .tuple t => samesAux h fuel s t
    | .dict s, .dict t =>
      s.length == t.length && s.all fun e =>
        match t.find? fun f => sameAux h fuel e.1 f.1 with
        | some f => sameAux h fuel e.2 f.2
        | none => false
    | .set _ s, .set _ t => s.length == t.length && s.all fun r => t.any (sameAux h fuel r)
    | .datetime s, .datetime t => sameTime s t
    | .foreign s, .foreign t => s.byValue && s == t
    | .builtinClass s, .builtinClass t => s == t
    | s, t =>
      match amount? s, amount? t, octets? s, octets? t with
      | some m, some n, _, _ => m.same n
      | _, _, some m, some n => m == n
      | _, _, _, _ => false

def samesAux (h : Heap) (fuel : Nat) : List Ref → List Ref → Bool
  | [], [] => true
  | a :: s, b :: t => sameAux h fuel a b && samesAux h fuel s t
  | _, _ => false

end

/-- Whether two objects are the same. -/
def same (h : Heap) (a b : Ref) : Bool := h.sameAux (h.cells.size + 1) a b

/-- The entry of a dictionary with a key. -/
def lookup (h : Heap) (entries : List (Ref × Ref)) (key : Ref) : Option (Ref × Ref) :=
  entries.find? fun e => h.same e.1 key

/-- The exception that objects of a type are no keys. -/
def unhashableType (name : String) : Raised := .builtin "TypeError" s!"unhashable type: '{name}'"

/-- Why an object is no key, where `fuel` bounds how deep tuples are searched. -/
def unhashableAux (h : Heap) : Nat → Ref → Option Raised
  | 0, _ => none
  | fuel + 1, r =>
    match h.plain r with
    | .list _ | .dict _ | .byteArray _ | .set false _ => some (unhashableType (h.typeName r))
    | .foreign o => if o.hashable then none else some (unhashableType o.typeName)
    | .tuple items => items.findSome? (unhashableAux h fuel)
    | .datetime t =>
      match t.offset with
      | .error e => some e
      | .ok _ => none
    | _ => none

/-- Why an object is no key. -/
def unhashable? (h : Heap) (r : Ref) : Option Raised := h.unhashableAux (h.cells.size + 1) r

end Heap

namespace Computation

/-- Make sure that an object may be a key. -/
def needKey (key : Ref) : Computation Unit := do
  if let some e := (← get).heap.unhashable? key then throw e

/-- Bind a key in entries: the first of equal keys stays, with the last value.  Takes over both references. -/
def bindKey (entries : List (Ref × Ref)) (key value : Ref) : Computation (List (Ref × Ref)) := do
  needKey key
  let h := (← get).heap
  match entries.findIdx? fun e => h.same e.1 key with
  | none => return entries ++ [(key, value)]
  | some i =>
    let old := (entries.getD i (key, value)).2
    let entries := entries.modify i fun e => (e.1, value)
    releaseAll [old, key]
    return entries

end Computation

end InterpreterHost
