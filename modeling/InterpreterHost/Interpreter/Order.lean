import InterpreterHost.Interpreter.Key

/-!
# Order of objects

Which of two objects comes before the other, for those that have an order, and lists brought into order.

## Main definitions

* `Comparison` — the operators that compare
* `Heap.compare` — whether a comparison holds, or why it makes no sense
* `Computation.sorted` — objects in ascending order

## Design notes

Objects need not be comparable, and what is no number is not ordered at all; so the comparisons that are made, and
their order, can be seen.  A list is sorted by the run that it starts with, which is turned round if it descends, and
by the insertion of the other objects, each at a place that is found by halves.
-/

namespace InterpreterHost

/-- The operators that compare. -/
inductive Comparison where
  | less
  | greater
deriving DecidableEq, Repr

namespace Comparison

def symbol : Comparison → String
  | less => "<"
  | greater => ">"

/-- The comparison by what comes before what. -/
def decides (c : Comparison) (before : α → α → Bool) (a b : α) : Bool :=
  match c with
  | less => before a b
  | greater => before b a

end Comparison

/-- Whether a list comes before another one by its first item that is not the same, or as a start of it. -/
def lexicographic [DecidableEq α] (before : α → α → Bool) : List α → List α → Bool
  | _, [] => false
  | [], _ :: _ => true
  | a :: s, b :: t => if a = b then lexicographic before s t else before a b

namespace Heap

/-- Whether a comparison of two dates and times holds; naive and aware ones have no order between them. -/
def compareTimes (c : Comparison) (s t : DateTime) : Except Raised Bool :=
  match s.offset, t.offset with
  | .error e, _ | _, .error e => .error e
  | .ok none, .ok none => .ok (c.decides (· < ·) s.wallMicros t.wallMicros)
  | .ok (some a), .ok (some b) => .ok (c.decides (· < ·) (s.wallMicros - a) (t.wallMicros - b))
  | _, _ => .error (.builtin "TypeError" "can't compare offset-naive and offset-aware datetimes")

mutual

/-- Whether a comparison holds, where `fuel` bounds how deep containers are compared. -/
def compareAux (h : Heap) (c : Comparison) : Nat → Ref → Ref → Except Raised Bool
  | 0, _, _ => .error (.builtin "RecursionError" "maximum recursion depth exceeded in comparison")
  | fuel + 1, a, b =>
    match h.plain a, h.plain b with
    | .str s, .str t => .ok (c.decides (lexicographic (· < ·)) s t)
    | .list s, .list t => compareItems h c fuel s t
    | .tuple s, .tuple t => compareItems h c fuel s t
    | .datetime s, .datetime t => compareTimes c s t
    | s, t =>
      match amount? s, amount? t, octets? s, octets? t with
      | some m, some n, _, _ => .ok (c.decides Amount.less m n)
      | _, _, some m, some n => .ok (c.decides (lexicographic (· < ·)) m n)
      | _, _, _, _ =>
        let types := s!"'{h.typeName a}' and '{h.typeName b}'"
        .error (.builtin "TypeError" s!"'{c.symbol}' not supported between instances of {types}")

/-- Whether a comparison of sequences holds: that of their first items that are not the same, or of their sizes. -/
def compareItems (h : Heap) (c : Comparison) (fuel : Nat) : List Ref → List Ref → Except Raised Bool
  | a :: s, b :: t => if h.same a b then compareItems h c fuel s t else compareAux h c fuel a b
  | s, t => .ok (c.decides (· < ·) s.length t.length)

end

/-- Whether a comparison holds. -/
def compare (h : Heap) (c : Comparison) (a b : Ref) : Except Raised Bool := h.compareAux c (h.cells.size + 1) a b

end Heap

namespace Computation

/-- Whether a comparison holds. -/
def holds (c : Comparison) (a b : Ref) : Computation Bool := do (← get).heap.compare c a b

/-- How many of the objects after `last` go on with a run. -/
def runLength (descending : Bool) (last : Ref) : List Ref → Computation Nat
  | [] => return 0
  | r :: rest => do
    if (← holds .less r last) = descending then return (← runLength descending r rest) + 1 else return 0

/-- The place between `low` and `high` in a sorted list at which an object belongs, after those that are equal. -/
def placeOf (sorted : List Ref) (r : Ref) : Nat → Nat → Nat → Computation Nat
  | 0, low, _ => return low
  | fuel + 1, low, high => do
    if high ≤ low then return low
    else
      let middle := low + (high - low) / 2
      if ← holds .less r (sorted.getD middle r) then placeOf sorted r fuel low middle
      else placeOf sorted r fuel (middle + 1) high

/-- Put an object into a sorted list. -/
def insertSorted (sorted : List Ref) (r : Ref) : Computation (List Ref) := do
  let place ← placeOf sorted r (sorted.length + 1) 0 sorted.length
  return sorted.take place ++ r :: sorted.drop place

/-- Objects in ascending order; those that are equal keep their order. -/
def sorted : List Ref → Computation (List Ref)
  | a :: b :: rest => do
    let descending ← holds .less b a
    let run := a :: b :: rest.take (← runLength descending b rest)
    (rest.drop (run.length - 2)).foldlM insertSorted (if descending then run.reverse else run)
  | items => return items

end Computation

end InterpreterHost
