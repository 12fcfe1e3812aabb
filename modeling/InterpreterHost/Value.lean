import InterpreterHost.Binary64
import InterpreterHost.Entries
import InterpreterHost.Timestamp

/-!
# Values

The values that a host program exchanges with an interpreter.

## Main definitions

* `Value` — a value
* `Value.equal` — equality of values: NaN differs from itself, and an integer is never a float
* `Value.Ordered` — the entries of every map in a value ascend, as all operations here keep them
* `Value.depth` — how many containers lie around the deepest part of a value
* `Value.asInt` and its like — the content of a value of one type, or the error that it has another
-/

namespace InterpreterHost

/-- A value of the host. -/
inductive Value where
  | null
  | bool (b : Bool)
  | int (i : Int64)
  | float (f : Binary64)
  | string (s : String)
  | blob (bytes : List UInt8)
  | timestamp (t : Timestamp)
  | array (items : List Value)
  | map (entries : List (String × Value))
deriving Inhabited, Repr

/-- A map of values: keyword arguments, parameters. -/
abbrev ValueMap := Entries Value

/-- Why a value could not be used. -/
inductive ValueError where
  | typeMismatch (expected actual : String)
  | keyNotFound (key : String)
  | conversion (source target reason : String)
deriving DecidableEq, Repr, Inhabited

/-- The error in words. -/
def ValueError.message : ValueError → String
  | typeMismatch expected actual => s!"Type error: expected {expected}, got {actual}"
  | keyNotFound key => s!"Key not found: {key}"
  | conversion source target reason => s!"Cannot convert {source} to {target}: {reason}"

namespace Value

/-- The name of the type of a value. -/
def typeName : Value → String
  | null => "null"
  | bool _ => "bool"
  | int _ => "int"
  | float _ => "float"
  | string _ => "string"
  | blob _ => "blob"
  | timestamp _ => "timestamp"
  | array _ => "array"
  | map _ => "map"

/-! ## Equality -/

mutual

/-- Equality of values.  Floats compare by the floating-point standard; maps are equal if there are as many entries
in both and the second binds every key of the first to an equal value. -/
def equal : Value → Value → Bool
  | null, null => true
  | bool a, bool b => a == b
  | int a, int b => a == b
  | float a, float b => a.ieeeEq b
  | string a, string b => a == b
  | blob a, blob b => a == b
  | timestamp a, timestamp b => a == b
  | array a, array b => equalItems a b
  | map a, map b => a.length == b.length && equalEntries a b
  | _, _ => false

/-- Equality of items, one by one. -/
def equalItems : List Value → List Value → Bool
  | [], [] => true
  | a :: as, b :: bs => equal a b && equalItems as bs
  | _, _ => false

/-- Whether the second map binds every key of the first to an equal value. -/
def equalEntries : List (String × Value) → List (String × Value) → Bool
  | [], _ => true
  | (k, a) :: as, bs =>
    (match Entries.find? bs k with
      | some b => equal a b
      | none => false) && equalEntries as bs

end

/-! ## Shape -/

mutual

/-- The entries of every map in the value ascend. -/
def Ordered : Value → Prop
  | array items => OrderedItems items
  | map entries => Entries.Ascending entries ∧ OrderedEntries entries
  | _ => True

def OrderedItems : List Value → Prop
  | [] => True
  | v :: items => Ordered v ∧ OrderedItems items

def OrderedEntries : List (String × Value) → Prop
  | [] => True
  | (_, v) :: entries => Ordered v ∧ OrderedEntries entries

end

mutual

/-- How many containers lie around the deepest part of the value. -/
def depth : Value → Nat
  | array items => depthItems items
  | map entries => depthEntries entries
  | _ => 0

/-- The depth of a container with these items: none of its own if it is empty. -/
def depthItems : List Value → Nat
  | [] => 0
  | v :: items => max (depth v + 1) (depthItems items)

def depthEntries : List (String × Value) → Nat
  | [] => 0
  | (_, v) :: entries => max (depth v + 1) (depthEntries entries)

end

/-! ## Content -/

def typeError (expected : String) (v : Value) : Except ValueError α :=
  .error (.typeMismatch expected v.typeName)

def asBool : Value → Except ValueError Bool
  | bool b => .ok b
  | v => typeError "bool" v

def asInt : Value → Except ValueError Int64
  | int i => .ok i
  | v => typeError "int" v

/-- The content of a float; an integer widens to the nearest double. -/
def asFloat : Value → Except ValueError Binary64
  | float f => .ok f
  | int i => .ok (Binary64.ofInt i.toInt)
  | v => typeError "float" v

def asString : Value → Except ValueError String
  | string s => .ok s
  | v => typeError "string" v

def asBlob : Value → Except ValueError (List UInt8)
  | blob b => .ok b
  | v => typeError "blob" v

def asTimestamp : Value → Except ValueError Timestamp
  | timestamp t => .ok t
  | v => typeError "timestamp" v

def asArray : Value → Except ValueError (List Value)
  | array items => .ok items
  | v => typeError "array" v

def asMap : Value → Except ValueError ValueMap
  | map entries => .ok entries
  | v => typeError "map" v

/-- What a key of a map is bound to. -/
def get (v : Value) (key : String) : Except ValueError Value := do
  match (← v.asMap).find? key with
  | some found => .ok found
  | none => .error (.keyNotFound key)

/-- Bind a key of a map; gives what it was bound to and the map afterwards. -/
def insert (v : Value) (key : String) (new : Value) : Except ValueError (Option Value × Value) := do
  let entries ← v.asMap
  .ok (entries.find? key, map (entries.insert key new))

/-- Collect pairs into a map, the last binding of a key staying. -/
def ofPairs (pairs : List (String × Value)) : Value := map (Entries.ofList pairs)

end Value

end InterpreterHost
