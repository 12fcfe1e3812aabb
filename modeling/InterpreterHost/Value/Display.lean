import InterpreterHost.Decimal.Layout
import InterpreterHost.Text.Quoted
import InterpreterHost.Value

/-!
# Values as text

The text of a value for people to read.

## Main definitions

* `Value.layout` — how floats are written: always positionally
* `Value.display` — the text of a value
-/

namespace InterpreterHost.Value

/-- Floats are written positionally and without a fraction that is zero; a tie goes to the greater number. -/
def layout : Decimal.Layout where
  lowest := none
  highest := none
  keepFraction := false
  exponentDigits := 1
  infinity := "inf"
  nan := "NaN"
  tie := .up

/-- A key and the text of its value. -/
def displayEntry (e : String × String) : String := Text.quote e.1 ++ ": " ++ e.2

mutual

/-- The text of a value; the entries of a map are sorted by their keys. -/
def display : Value → String
  | null => "null"
  | bool b => if b then "true" else "false"
  | int i => toString i.toInt
  | float f => layout.render f
  | string s => Text.quote s
  | blob bytes => s!"<blob {bytes.length} bytes>"
  | timestamp t => t.rfc3339
  | array items => "[" ++ ", ".intercalate (displayItems items) ++ "]"
  | map entries =>
    "\x7b" ++ ", ".intercalate ((Entries.sorted (displayEntries entries)).map displayEntry) ++ "\x7d"

def displayItems : List Value → List String
  | [] => []
  | v :: items => display v :: displayItems items

/-- The keys with the texts of their values. -/
def displayEntries : List (String × Value) → List (String × String)
  | [] => []
  | (k, v) :: entries => (k, display v) :: displayEntries entries

end

end InterpreterHost.Value
