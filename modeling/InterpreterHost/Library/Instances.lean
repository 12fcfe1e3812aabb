import InterpreterHost.Interpreter.Attribute
import InterpreterHost.Library.Conversions

/-!
# A module of classes

## Main definitions

* `Library.instances` — the module
-/

namespace InterpreterHost.Library

open InterpreterHost.Computation

/-- Texts of attributes of an instance with underscores between them. -/
def joinFields (self : Ref) (names : List String) : Computation Ref := do
  let texts ← names.mapM fun name => do textOf (← getField self name)
  new (.str (List.intercalate (CodePoints.ofString "_") texts))

/-- Add an object after an underscore to what an instance has written. -/
def logText (self s : Ref) : Computation Ref := do
  let before ← retain (← getField self "a")
  let sum ← extend before (← afterUnderscore (← retain s))
  setField self "a" (← retain sum)
  return sum

/-- The class with the functions that are not bound to an instance. -/
def staticClass : String := "PythonTest3"

/-- An attribute of a class, as a new reference. -/
def classField (c : Ref) (name : String) : Computation Ref := do
  match (← get).heap.classAttribute? c name with
  | some r => retain r
  | none => raise "AttributeError" s!"type object '{(← get).heap.className c}' has no attribute '{name}'"

/-- What a dictionary binds a text to, or an empty text. -/
def entryOrEmpty (d : Ref) (key : String) : Computation Ref := do
  match ← entry? d key with
  | some v => retain v
  | none => newText ""

def initializeNamed : Routine :=
  .interpreted { parameters := ["self", "a", "b"], defaults := [.int 5], named := true } fun
    | [self, a, b, c] => do
      setField self "a" (← retain a)
      setField self "b" (← retain b)
      for name in ["c", "d", "e"] do setField self name (← entryOrEmpty c name)
      newNone
    | _ => newNone

def makeWithNamed (moduleName : String) : Routine :=
  .interpreted { parameters := ["a", "b"], defaults := [.int 5], named := true } fun
    | [a, b, c] => do
      let last ← part c (.text "v1")
      newInstance moduleName staticClass [("a", ← retain a), ("b", ← retain b), ("c1", last)]
    | _ => newNone

/-- The module of classes. -/
def instances (name directory : String) : ModuleSource where
  name
  directory := some directory
  content := .ok [
    ("PythonTest", .cls none [
      ("a", .constant (newText "")),
      ("__init__", .method (.unary "self" fun self => do
        setField self "a" (← newText "initialized")
        newNone)),
      ("logger", .method (.binary "self" "s" logText))]),
    ("PythonTest2", .cls none [
      ("__init__", .method (.binary "self" "s" fun self s => do
        setField self "a" (← retain s)
        newNone)),
      ("get_a", .method (.unary "self" fun self => do retain (← getField self "a")))]),
    (staticClass, .cls none [
      ("v", .constant (newText "class_value")),
      ("get_static_value", .described .static (.nullary do
        classField (← classNamed name staticClass) "v")),
      ("get_instance", .described .static (.nullary do
        newInstance name staticClass [("val1", ← newText "test1")])),
      ("get_class_value", .described .ofClass (.unary "cls" fun c => classField c "v")),
      ("get_instance_str", .method (.unary "self" fun self => do
        let value ← getField self "val1"
        consuming (← newText "instance method ") fun start => add false start value)),
      ("get_instance2", .described .static (makeWithNamed name)),
      ("confirm", .method (.unary "self" fun self => joinFields self ["a", "b", "c1"]))]),
    ("ChildClass", .cls (some staticClass) [("v", .constant (newText "instance_value"))]),
    ("PythonTestForKwd", .cls none [
      ("__init__", .method initializeNamed),
      ("confirm_init", .method (.unary "self" fun self => joinFields self ["a", "b", "c", "d", "e"]))]),
    ("not_callable", .constant (newText "just a string"))]

end InterpreterHost.Library
