import InterpreterHost.Interpreter.Blueprint.Exception
import InterpreterHost.Library.Builtins

/-!
# A module of specimens

Functions that make objects and raise exceptions of every kind from their descriptions, functions with every kind
of signature, and a class of boxes that hold one object each.

## Main definitions

* `Library.specimenMembers` — the attributes of the module
-/

namespace InterpreterHost.Library

open InterpreterHost.Computation

/-! ## Objects and exceptions from descriptions -/

def buildSpecimen (moduleName : String) : Routine :=
  .unary "text" fun text => do Blueprint.build moduleName (← readDocument text)

def raiseSpecimen (moduleName : String) : Routine :=
  .unary "text" fun text => do throw (← Blueprint.raised moduleName "raise_exc" (← readDocument text))

/-! ## Functions with every kind of signature -/

def collectArguments : Routine :=
  .interpreted { rest := true, named := true } fun
    | [rest, named] => do newList [← newList (← iterate rest), ← retain named]
    | _ => newNone

/-- A function with a default for its second parameter, and a third parameter that only a named argument reaches. -/
def withDefaults : Routine :=
  .interpreted { parameters := ["a", "b"], defaults := [.int 2], options := [("c", .int 3)] } fun args => do
    newList (← retainAll args)

/-- A list of a text and an object. -/
def tagged (tag : String) (r : Ref) : Computation Ref := do newList [← newText tag, ← retain r]

/-- The name of a class with instances that can be called. -/
def callableClass : String := "Callable"

/-- An instance that can be called. -/
def callableInstance (moduleName : String) : Computation Ref := do
  let f ← new (.function ⟨moduleName, callableClass ++ ".__call__"⟩)
  let c ← new (.cls callableClass moduleName none [("__call__", f)])
  new (.instanceOf c [])

/-! ## Boxes -/

def refuseFailing (r : Ref) (message : String) : Computation Unit := do
  if ← isText r "fail" then valueError message

/-- An object that is no value of the host. -/
def oddity : Computation Ref := do new (.set false [← newInt 1])

/-- Put an object into a new box. -/
def initializeBox (self value : Ref) : Computation Ref := do
  refuseFailing value "cannot box"
  setField self "value" (← retain value)
  setField self "weird" (← oddity)
  newNone

/-- A new box with an object in it. -/
def newBox (moduleName : String) (value : Ref) : Computation Ref := do
  let box ← newInstance moduleName "Box" []
  let made ← tryCatch (within "Box.__init__" (initializeBox box value)) fun e => do
    release box
    throw e
  release made
  return box

/-- Put an object into a box and take out the one that was there. -/
def exchange (self value : Ref) : Computation Ref := do
  let old ← retain (← getField self "value")
  setField self "value" (← retain value)
  return old

def boxMembers (moduleName : String) : List (String × ClassMember) := [
  ("label", .constant (newText "box")),
  ("__init__", .method (.binary "self" "value" initializeBox [.none])),
  ("get", .method (.unary "self" fun self => do retain (← getField self "value"))),
  ("put", .method (.binary "self" "value" exchange)),
  ("me", .method (.unary "self" retain)),
  ("other", .method (.binary "self" "value" fun _ value => newBox moduleName value)),
  ("opaque", .method (.unary "self" fun _ => oddity)),
  ("named", .method (.interpreted { parameters := ["self", "a"], options := [("key", .text "d")] } fun args => do
    newList (← retainAll (args.drop 1)))),
  ("broken", .described .property (.unary "self" fun _ => raise "KeyError" "'broken'")),
  ("make", .described .ofClass (.binary "cls" "value" fun _ value => newBox moduleName value)),
  ("static", .described .static (.unary "value" (tagged "static")))]

/-- The attributes of the module of specimens. -/
def specimenMembers (moduleName : String) : List (String × Member) := [
  ("Plain", .cls none []),
  ("build", .function (buildSpecimen moduleName)),
  ("raise_exc", .function (raiseSpecimen moduleName)),
  ("echo", .function (.unary "arg" retain)),
  ("take_one", .function (.unary "obj" retain)),
  ("collect", .function collectArguments),
  ("defaults", .function withDefaults),
  ("no_args", .function (.nullary (newText "none"))),
  ("constant", .constant (newInt 42)),
  (callableClass, .cls none [("__call__", .method (.binary "self" "x" fun _ x => tagged "called" x))]),
  ("callable_instance", .constant (callableInstance moduleName)),
  ("Box", .cls none (boxMembers moduleName))]

end InterpreterHost.Library
