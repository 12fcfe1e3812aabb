import InterpreterHost.CallError
import InterpreterHost.Marshal.Slot

/-!
# From values to objects

A value becomes a tree of new objects.  Dates are written without a time zone, in universal time.

## Main definitions

* `Heap.place` — the objects of a value
* `Heap.fill`, `Heap.fillEntries` — put the objects into a container
* `Job.toObject` — the same as part of a job
* `Job.toArguments`, `Job.toNamed` — the arguments of a call

## Design notes

Two things can stand in the way: the interpreter's calendar has the years from 1 to 9999, and memory may run out.
A container is made first, a list or a tuple with places for all its items, and then filled by putting one object
after the other into it.  Where that fails the container is given up with what it holds by then, so that no object
is left behind.
-/

namespace InterpreterHost

/-- The years of the interpreter's calendar. -/
def DateTime.hasYear (year : Int) : Bool := 1 ≤ year && year ≤ 9999

/-- The exception that the calendar has no such year. -/
def DateTime.noYear (year : Int) : Raised := .builtin "ValueError" s!"year {year} is out of range"

/-- A date and time of day in universal time, cut to microseconds. -/
def DateTime.ofTimestamp (t : Timestamp) : DateTime :=
  { date := t.date, hour := t.hour, minute := t.minute, second := t.second, micros := t.micros }

namespace Heap

/-! ## Filling containers -/

/-- A container once it is filled; if it could not be, it is given up with what was put into it. -/
def filled (container : Ref) : Except Raised Unit × Heap → Except Raised Ref × Heap
  | (.ok (), h) => (.ok container, h)
  | (.error e, h) => (.error e, h.release container)

/-- A list or a tuple with nothing at its places. -/
def tryNewPlaces (h : Heap) (kind : SequenceKind) (length : Nat) (memory : Memory) : Except Raised Ref × Heap :=
  h.tryNew (.ofPlaces kind (List.replicate length none)) memory

mutual

/-- Make the objects of a value and give a reference to the outermost. -/
def place (h : Heap) (memory : Memory) : Value → Except Raised Ref × Heap
  | .null => h.tryNew .none memory
  | .bool b => h.tryNew (.bool b) memory
  | .int i => h.tryNew (.int i.toInt) memory
  | .float f => h.tryNew (.float f) memory
  | .string s => h.tryNew (.str (.ofString s)) memory
  | .blob bytes => h.tryNew (.byteArray bytes) memory
  | .timestamp t =>
    if DateTime.hasYear t.date.year then h.tryNew (.datetime (.ofTimestamp t)) memory
    else (.error (DateTime.noYear t.date.year), h)
  | .array items =>
    match h.tryNewPlaces .list items.length memory with
    | (.error e, h) => (.error e, h)
    | (.ok list, h) => filled list (fill h memory .list list 0 items)
  | .map entries =>
    match h.tryNew (.dict []) memory with
    | (.error e, h) => (.error e, h)
    | (.ok dict, h) => filled dict (fillEntries h memory dict entries)

/-- Make the objects of values, each put into a list or a tuple before the next is made. -/
def fill (h : Heap) (memory : Memory) (kind : SequenceKind) (container : Ref) (index : Nat) :
    List Value → Except Raised Unit × Heap
  | [] => (.ok (), h)
  | v :: items =>
    match place h memory v with
    | (.error e, h) => (.error e, h)
    | (.ok r, h) =>
      match (Slot.itemOf kind index).settle h container r memory with
      | (.error e, h) => (.error e, h)
      | (.ok (), h) => fill h memory kind container (index + 1) items

/-- Make the objects of entries, the value of each before its key, and put each entry into a dictionary. -/
def fillEntries (h : Heap) (memory : Memory) (container : Ref) :
    List (String × Value) → Except Raised Unit × Heap
  | [] => (.ok (), h)
  | (k, v) :: entries =>
    match place h memory v with
    | (.error e, h) => (.error e, h)
    | (.ok r, h) =>
      match (Slot.key k).settle h container r memory with
      | (.error e, h) => (.error e, h)
      | (.ok (), h) => fillEntries h memory container entries

end

/-- Make a tuple of the objects of values. -/
def placeArguments (h : Heap) (memory : Memory) (args : List Value) : Except Raised Ref × Heap :=
  match h.tryNewPlaces .tuple args.length memory with
  | (.error e, h) => (.error e, h)
  | (.ok tuple, h) => filled tuple (fill h memory .tuple tuple 0 args)

end Heap

namespace Value

mutual

/-- Whether a timestamp stands in the value. -/
def hasTimestamp : Value → Bool
  | timestamp _ => true
  | array items => anyTimestamp items
  | map entries => anyTimestampEntries entries
  | _ => false

def anyTimestamp : List Value → Bool
  | [] => false
  | v :: items => hasTimestamp v || anyTimestamp items

def anyTimestampEntries : List (String × Value) → Bool
  | [] => false
  | (_, v) :: entries => hasTimestamp v || anyTimestampEntries entries

end

end Value

namespace Job

/-- Make sure that objects for dates can be made and read, unless the interpreter offers nothing for it. -/
def prepareDates : Job (Except String Unit) := do
  if (← get).datesReady then return .ok ()
  else return (← prepare).map fun _ => ()

/-- Run what makes objects of values, if the interpreter can make those for dates where they need any. -/
def placing (needsDates : Bool) (make : Heap → Except Raised Ref × Heap) : Job (Except InterpreterError Ref) := do
  let ready ← if needsDates then prepareDates else pure (.ok ())
  match ready with
  | .error why => return .error (.exception (.ofMain s!"ImportError: {why}"))
  | .ok () =>
    let o ← get
    let (result, heap) := make o.interpreter.heap
    set { o with interpreter := { o.interpreter with heap } }
    match result with
    | .ok a => return .ok a
    | .error e =>
      modify fun o => { o with pending := some e }
      return .error (← fetch)

/-- A new object for a value. -/
def toObject (v : Value) (memory : Memory := {}) : Job (Except InterpreterError Ref) :=
  placing v.hasTimestamp (·.place memory v)

/-- A new tuple for the positional arguments of a call. -/
def toArguments (args : List Value) (memory : Memory := {}) : Job (Except InterpreterError Ref) :=
  placing (Value.anyTimestamp args) (·.placeArguments memory args)

/-- A new dictionary for the named arguments of a call. -/
def toNamed (named : ValueMap) (memory : Memory := {}) : Job (Except InterpreterError Ref) :=
  toObject (.map named) memory

end Job

end InterpreterHost
