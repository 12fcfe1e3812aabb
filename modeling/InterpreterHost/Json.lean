import InterpreterHost.Binary64
import InterpreterHost.Entries

/-!
# JSON documents

## Main definitions

* `Json` — a document
* `Json.nesting` — the greatest number of containers around and including a part of the document

## Design notes

A number is an integer or a double.  Integers are those of 64 bits, with or without a sign; a number outside of
that range, one with a fraction or an exponent, and minus zero are doubles.
-/

namespace InterpreterHost

/-- A JSON document. -/
inductive Json where
  | null
  | bool (b : Bool)
  | integer (i : Int)
  | float (f : Binary64)
  | string (s : String)
  | array (items : List Json)
  | object (entries : List (String × Json))
deriving Inhabited, Repr

namespace Json

mutual

/-- The greatest number of containers around and including a part of the document. -/
def nesting : Json → Nat
  | array items => nestingItems items + 1
  | object entries => nestingEntries entries + 1
  | _ => 0

def nestingItems : List Json → Nat
  | [] => 0
  | v :: items => max (nesting v) (nestingItems items)

def nestingEntries : List (String × Json) → Nat
  | [] => 0
  | (_, v) :: entries => max (nesting v) (nestingEntries entries)

end

/-- The integers of 64 bits, with or without a sign. -/
def isWordInteger (i : Int) : Bool := -0x8000000000000000 ≤ i && i < 0x10000000000000000

end Json

end InterpreterHost
