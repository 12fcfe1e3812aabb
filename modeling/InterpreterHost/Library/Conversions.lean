import InterpreterHost.Interpreter.Library
import InterpreterHost.Interpreter.Files

/-!
# A module of functions that return objects of every kind

## Main definitions

* `Library.conversions` — the module
-/

namespace InterpreterHost.Library

open InterpreterHost.Computation

/-- A function that returns what is made for it. -/
def returning (make : Computation Ref) : Member := .function (.nullary make)

def someDateTime (zone : Option Zone) : Object := .datetime ⟨⟨2015, 4, 1⟩, 14, 27, 0, 500000, zone, false⟩

/-- A text, a dictionary and a list in a tuple. -/
def mixedTuple : Computation Ref := do
  let text ← newText "a"
  let dict ← newDict [("key1", ← newInt 1)]
  let list ← newList [← newInt 1, ← newInt 2]
  new (.tuple [text, dict, list])

/-- A dictionary of which only one key is a text. -/
def mixedKeys : Computation Ref := do
  let first ← newText "key1"
  let one ← newInt 1
  let second ← newInt 2
  let two ← newText "two"
  let third ← new (.tuple [← newInt 3, ← newInt 4])
  let tuple ← newText "tuple"
  let fourth ← new (.bytes (Utf8.encode "bytes".toList))
  let five ← newInt 5
  new (.dict [(first, one), (second, two), (third, tuple), (fourth, five)])

def octets (s : String) : Octets := Utf8.encode s.toList

/-- The fields of a date and time, and whether it has no time zone. -/
def timestampFields (r : Ref) : Computation Ref := do
  match ← look r with
  | .datetime t =>
    let clock : List Nat := [t.date.month, t.date.day, t.hour, t.minute, t.second, t.micros]
    let fields ← (t.date.year :: clock.map Int.ofNat).mapM newInt
    newList (fields ++ [← new (.bool t.zone.isNone)])
  | _ => lacks r "year"

/-- The sum of a text after an underscore and what is made for it. -/
def afterUnderscore (made : Ref) : Computation Ref := do
  let underscore ← newText "_"
  releasing [underscore, made] (add false underscore made)

/-- Add what is made to an object in place of it. -/
def extend (sum made : Ref) : Computation Ref := releasing [sum, made] (add true sum made)

def mapInMap (arg : Ref) : Computation Ref := do
  let sum ← part arg (.text "string")
  let inner ← consuming (← part arg (.text "map")) fun m => part m (.text "instr")
  let sum ← extend sum (← afterUnderscore inner)
  let items ← consuming (← part arg (.text "array")) iterate
  items.foldlM (fun sum item => do
    extend sum (← afterUnderscore (← consuming item newTextOf))) sum

def arrayInMap (arg : Ref) : Computation Ref := do
  let first (i : Nat) : Computation Ref := do consuming (← part arg (.int 0)) fun a => part a (.int i)
  let sum ← first 0
  let sum ← extend sum (← afterUnderscore (← consuming (← first 1) newTextOf))
  let last ← consuming (← part arg (.int 1)) fun m => part m (.text "map")
  extend sum (← afterUnderscore last)

def decodeOctets (arg : Ref) : Computation Ref := do
  match Heap.octets? (← look arg) with
  | some content => do new (.str (← Encoding.decode content))
  | none => lacks arg "decode"

/-! ## Time zones -/

/-- A class of time zones with routines that take the object and a date and time. -/
def zoneClass (offset daylight name : Computation Ref) : Member :=
  let routine (make : Computation Ref) : ClassMember := .method (.binary "self" "dt" fun _ _ => make)
  .cls none [("__init__", .method (.native fun _ _ => newNone)), ("utcoffset", routine offset),
    ("dst", routine daylight), ("tzname", routine name)]

/-- A duration, of which no more is known. -/
def duration : Computation Ref := new (.foreign { typeName := "datetime.timedelta" })

/-- The module of functions that return objects of every kind. -/
def conversions (name directory : String) : ModuleSource where
  name
  directory := some directory
  content := .ok [
    ("return_true", returning (new (.bool true))),
    ("return_false", returning (new (.bool false))),
    ("return_int", returning (newInt 123)),
    ("return_float", returning (new (.float (Binary64.ofInt 1)))),
    ("return_string", returning (newText "ABC")),
    ("return_bytearray", returning (new (.byteArray (octets "abcdefg")))),
    ("return_bytes", returning (new (.bytes (octets "hij")))),
    ("return_array", returning do
      newList [← newInt 1, ← newInt 2, ← newDict [("key", ← newInt 3)]]),
    ("return_map", returning do newDict [("key1", ← newInt 123), ("key2", ← newText "str")]),
    ("return_nested_map", returning do newDict [("key1", ← newDict [("key2", ← newInt 123)])]),
    ("return_map_with_non_str_keys", returning mixedKeys),
    ("return_none", returning newNone),
    ("return_timestamp", returning (new (someDateTime none))),
    ("return_timestamp_with_tz", returning (new (someDateTime (some (.offset ((9 * 3600 + 3 * 60) * 1000000)))))),
    ("TEST_TZ", zoneClass duration duration (newText "TEST")),
    ("BROKEN_TZ", zoneClass (raise "RuntimeError" "no offset") newNone (newText "BROKEN")),
    ("datetime", .constant (new (.module "datetime" []))),
    ("return_timestamp_with_broken_tz", returning (new (someDateTime (some .raising)))),
    ("return_onetuple", returning mixedTuple),
    ("return_astuple", returning mixedTuple),
    ("return_object", returning (new (.foreign { typeName := "FailureTest" }))),
    ("echo", .function (.unary "arg" retain)),
    ("type_name", .function (.unary "arg" fun a => do newText ((← get).heap.shortTypeName a))),
    ("to_str", .function (.unary "arg" newTextOf)),
    ("decode_utf8", .function (.unary "arg" decodeOctets)),
    ("timestamp_fields", .function (.unary "arg" timestampFields)),
    ("map_in_map", .function (.unary "arg" mapInMap)),
    ("array_in_map", .function (.unary "arg" arrayInMap))]

end InterpreterHost.Library
