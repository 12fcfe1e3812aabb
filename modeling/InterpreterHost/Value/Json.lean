import InterpreterHost.Json.Printer
import InterpreterHost.Json.Reader
import InterpreterHost.Value

/-!
# Values and JSON

## Main definitions

* `Value.toJson` — the document of a value; blobs, timestamps and numbers that are not finite have no exact one
* `Value.ofJson` — the value of a document
* `Value.parseJson` — the value of a JSON text
* `Value.normalized` — the value that is left of a value when it is written as JSON and read again
-/

namespace InterpreterHost.Value

mutual

/-- The document of a value.  A blob becomes the list of its octets, a timestamp its text with microseconds, and a
float that is not finite becomes `null`. -/
def toJson : Value → Json
  | null => .null
  | bool b => .bool b
  | int i => .integer i.toInt
  | float f => if f.isFinite then .float f else .null
  | string s => .string s
  | blob bytes => .array (bytes.map fun b => .integer b.toNat)
  | timestamp t => .string t.rfc3339Micros
  | array items => .array (toJsonItems items)
  | map entries => .object (toJsonEntries entries)

def toJsonItems : List Value → List Json
  | [] => []
  | v :: items => toJson v :: toJsonItems items

def toJsonEntries : List (String × Value) → List (String × Json)
  | [] => []
  | (k, v) :: entries => (k, toJson v) :: toJsonEntries entries

end

mutual

/-- The value of a document.  An integer beyond the signed words becomes a float. -/
def ofJson : Json → Value
  | .null => null
  | .bool b => bool b
  | .integer i => if -0x8000000000000000 ≤ i ∧ i < 0x8000000000000000 then int (Int64.ofInt i) else float (Binary64.ofInt i)
  | .float f => float f
  | .string s => string s
  | .array items => array (ofJsonItems items)
  | .object entries => map (Entries.ofList (ofJsonEntries entries))

def ofJsonItems : List Json → List Value
  | [] => []
  | v :: items => ofJson v :: ofJsonItems items

def ofJsonEntries : List (String × Json) → List (String × Value)
  | [] => []
  | (k, v) :: entries => (k, ofJson v) :: ofJsonEntries entries

end

/-- The value of a JSON text. -/
def parseJson (text : String) : Except Json.ReadError Value := (Json.read text).map ofJson

/-- The JSON text of a value. -/
def jsonText (v : Value) : String := v.toJson.compact

mutual

/-- What is left of a value when it is written as JSON and read again. -/
def normalized : Value → Value
  | float f => if f.isFinite then float f else null
  | blob bytes => array (bytes.map fun b => int (Int64.ofNat b.toNat))
  | timestamp t => string t.rfc3339Micros
  | array items => array (normalizedItems items)
  | map entries => map (normalizedEntries entries)
  | v => v

def normalizedItems : List Value → List Value
  | [] => []
  | v :: items => normalized v :: normalizedItems items

def normalizedEntries : List (String × Value) → List (String × Value)
  | [] => []
  | (k, v) :: entries => (k, normalized v) :: normalizedEntries entries

end

end InterpreterHost.Value
