import InterpreterHost.Marshal.ToObject

/-!
# From objects to values

An object is read as a value by its exact type.  Lists and tuples become arrays; of a dictionary the entries whose
keys are texts are taken.

## Main definitions

* `Heap.convertible` — whether an object can be read
* `Job.fromObject` — read an object
* `Job.offsetOf` — what an aware date and time is away from universal time
-/

namespace InterpreterHost

/-- How many containers may lie around an object. -/
def maxDepth : Nat := 512

/-- The integers of 64 bits with a sign. -/
def isInt64 (i : Int) : Bool := -0x8000000000000000 ≤ i && i < 0x8000000000000000

namespace DateTime

/-- The instant at which clocks in universal time show the date and time. -/
def wallClock (t : DateTime) : Timestamp := .ofFields t.date t.hour t.minute t.second t.micros

end DateTime

namespace Heap

mutual

/-- Whether an object can be read with `levels` containers left that may lie around its parts. -/
def convertible (h : Heap) : Nat → Ref → Bool
  | 0, _ => false
  | levels + 1, r =>
    match h.object r with
    | .bool _ | .float _ | .byteArray _ | .bytes _ | .none => true
    | .int i => isInt64 i
    | .datetime t => t.isValid
    | .str t => t.toString?.isSome
    | .list items => convertibleItems h levels items
    | .tuple items => convertibleItems h levels items
    | .dict entries => convertibleEntries h levels entries
    | _ => false

def convertibleItems (h : Heap) (levels : Nat) : List Ref → Bool
  | [] => true
  | r :: items => convertible h levels r && convertibleItems h levels items

def convertibleEntries (h : Heap) (levels : Nat) : List (Ref × Ref) → Bool
  | [] => true
  | (k, r) :: entries =>
    (match h.object k with
      | .str t => t.toString?.isSome && convertible h levels r
      | _ => true) && convertibleEntries h levels entries

end

end Heap

namespace Job

/-- Set an exception and take it away again. -/
def failWith (e : Raised) : Job InterpreterError := do
  modify fun o => { o with pending := some e }
  fetch

/-- The microseconds that a time zone is ahead of universal time, if it says so by a plain duration or by having no
offset.  An exception that it raises is taken away; but see `fetch`. -/
def offsetOf (zone : Zone) : Job (Option Int) := do
  let answer : Except Raised (Option Int) := match zone, zone.answer with
    | .derived _, .ok _ => .ok none
    | _, .ok none => .ok (some 0)
    | _, answer => answer
  match answer, (← get).pending with
  | .ok offset, none => return offset
  | .ok _, some e =>
    let _ ← failWith (resultWithException e)
    return none
  | .error e, _ =>
    let _ ← failWith e
    return none

/-- The words that the offset of a date and time cannot be had. -/
def offsetWarning : String := "cannot read utcoffset() of datetime.datetime; using the wall clock time as UTC"

/-- The instant of a date and time.  One with a time zone is brought to universal time; if its offset cannot be
had, it counts as universal time. -/
def instantOf (t : DateTime) : Job (Except InterpreterError Timestamp) := do
  if ¬ t.isValid then return .error (.exception (.ofMain "ValueError: datetime fields out of range"))
  else match t.zone with
    | none => return .ok t.wallClock
    | some zone =>
      match ← offsetOf zone with
      | some micros => return .ok (.ofMicros (t.wallClock.toMicros - micros))
      | none =>
        warn offsetWarning
        return .ok t.wallClock

/-- The text of the host that a text of the interpreter is. -/
def textOf (t : CodePoints) : Job (Except InterpreterError String) := do
  match t.toString? with
  | some s => return .ok s
  | none => return .error (← failWith (.unencodable t))

/-- An integer of 64 bits.  The number -1 is also what stands for an error, so an exception that is pending
already is taken for one of its own. -/
def integerOf (i : Int) : Job (Except InterpreterError Int64) := do
  if ¬ isInt64 i then return .error (← failWith (.builtin "OverflowError" "int too big to convert"))
  else if i = -1 ∧ (← get).pending.isSome then return .error (← fetch)
  else return .ok (Int64.ofInt i)

/-- The error that an object lies too deep. -/
def tooDeep : CallError :=
  .value (.conversion "python object" "value" s!"nesting deeper than {maxDepth} levels")

def leaf (make : α → Value) (result : Except InterpreterError α) : Except CallError Value :=
  match result with
  | .ok a => .ok (make a)
  | .error e => .error (.interpreter e)

mutual

/-- Read an object with `levels` containers left that may lie around its parts. -/
def convert : Nat → Ref → Job (Except CallError Value)
  | 0, _ => return .error tooDeep
  | levels + 1, r => do
    match (← heap).object r with
    | .bool b => return .ok (.bool b)
    | .int i => return leaf .int (← integerOf i)
    | .float f => return .ok (.float f)
    | .byteArray content => return .ok (.blob content)
    | .bytes content => return .ok (.blob content)
    | .str t => return leaf .string (← textOf t)
    | object =>
      match ← prepareDates, object with
      | .ok (), .datetime t => return leaf .timestamp (← instantOf t)
      | _, .list items => return (← convertItems levels items).map .array
      | _, .dict entries => return (← convertEntries levels [] entries).map .map
      | _, .tuple items => return (← convertItems levels items).map .array
      | _, .none => return .ok .null
      | _, _ => return .error (.unsupportedType ((← heap).typeName r))

/-- Read items one after the other. -/
def convertItems (levels : Nat) : List Ref → Job (Except CallError (List Value))
  | [] => return .ok []
  | r :: items => do
    match ← convert levels r with
    | .error e => return .error e
    | .ok v => return (← convertItems levels items).map (v :: ·)

/-- Read the entries whose keys are texts, one after the other. -/
def convertEntries (levels : Nat) (made : ValueMap) : List (Ref × Ref) → Job (Except CallError ValueMap)
  | [] => return .ok made
  | (k, r) :: entries => do
    match (← heap).object k with
    | .str t =>
      match ← textOf t with
      | .error e => return .error (.interpreter e)
      | .ok key =>
        match ← convert levels r with
        | .error e => return .error e
        | .ok v => convertEntries levels (made.insert key v) entries
    | _ => convertEntries levels made entries

end

/-- An object as it is written by itself, as a text of the host. -/
def describe (r : Ref) : Job (Except InterpreterError String) := do
  match (← heap).text r with
  | .ok t => textOf t
  | .error e => return .error (← failWith e)

/-- Read an object. -/
def fromObject (r : Ref) : Job (Except CallError Value) := convert (maxDepth + 1) r

end Job

end InterpreterHost
