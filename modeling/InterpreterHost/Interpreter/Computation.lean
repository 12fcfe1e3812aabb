import InterpreterHost.Interpreter.Heap
import InterpreterHost.Interpreter.Raised
import InterpreterHost.Interpreter.SearchPath

/-!
# Computations of the interpreter

What the code of the interpreter does: it changes the interpreter and gives a result or raises an exception.

## Main definitions

* `Interpreter` — the interpreter: its heap, its modules, its search path, the files it can reach
* `Computation` — code that runs in it

## Design notes

Whether an exception is pending is no part of `Interpreter`.  A computation that raises says so by its result; the
slot in which the host finds the exception belongs to the host.  So no computation can leave one behind by
accident, and only the host can forget to look.
-/

namespace InterpreterHost

/-- The functions that may stand in for the formatter of tracebacks. -/
inductive Formatter where
  | standard
  /-- Gives entries in a tuple. -/
  | tuple
  /-- Gives an entry that is no text. -/
  | number
  /-- Gives an entry that is no text of the host. -/
  | surrogate
  /-- Gives no entries. -/
  | empty
  | raising
deriving DecidableEq, Repr, Inhabited

/-- What the interpreter offers for the host's own use. -/
structure Services where
  /-- Whether the module of tracebacks can be imported. -/
  traceback : Bool := true
  /-- The formatter in that module. -/
  formatter : Option Formatter := some .standard
  /-- Whether the module of dates can be imported. -/
  datetime : Bool := true
deriving DecidableEq, Repr, Inhabited

/-- The interpreter. -/
structure Interpreter where
  heap : Heap := .initial
  /-- The modules that are imported. -/
  modules : Entries Ref := []
  searchPath : SearchPath := .list []
  /-- The files within reach. -/
  files : Entries Octets := []
  /-- The directories that files can be made in. -/
  directories : List String := [".", "/", "/tmp"]
  services : Services := {}
deriving Repr, Inhabited

/-- Code that runs in the interpreter. -/
abbrev Computation := ExceptT Raised (StateM Interpreter)

namespace Computation

/-! ## Exceptions -/

/-- Raise an exception of a class that is built in. -/
def raise (className message : String) : Computation α := throw (.builtin className message)

def typeError (message : String) : Computation α := raise "TypeError" message
def valueError (message : String) : Computation α := raise "ValueError" message

/-- Run code as the body of a function: an exception shows that it went through it. -/
def within (function : String) (code : Computation α) : Computation α :=
  tryCatch code fun e => throw (e.through function)

/-! ## Objects -/

/-- The object at a place. -/
def look (r : Ref) : Computation Object := return (← get).heap.object r

/-- A reference to a new object, or to the one that there is. -/
def new (o : Object) : Computation Ref := do
  let i ← get
  let (r, heap) := i.heap.new o
  set { i with heap }
  return r

/-- One reference more, which is the result. -/
def retain (r : Ref) : Computation Ref := do
  modify fun i => { i with heap := i.heap.retain r }
  return r

/-- One reference to each of the objects more. -/
def retainAll (refs : List Ref) : Computation (List Ref) := refs.mapM retain

/-- One reference less. -/
def release (r : Ref) : Computation Unit := modify fun i => { i with heap := i.heap.release r }

/-- One reference to each of the objects less. -/
def releaseAll (refs : List Ref) : Computation Unit := modify fun i => { i with heap := i.heap.releaseAll refs }

/-- Change an object. -/
def setObject (r : Ref) (o : Object) : Computation Unit :=
  modify fun i => { i with heap := i.heap.setObject r o }

/-- Run code and give up references whatever comes of it. -/
def releasing (refs : List Ref) (code : Computation α) : Computation α := do
  let result ← tryCatch code fun e => do
    releaseAll refs
    throw e
  releaseAll refs
  return result

def newNone : Computation Ref := new .none
def newText (s : String) : Computation Ref := new (.str (.ofString s))
def newInt (i : Int) : Computation Ref := new (.int i)

/-- A new list that takes over the references it is given. -/
def newList (items : List Ref) : Computation Ref := new (.list items)

/-- A new dictionary with texts as keys that takes over the references it is given. -/
def newDict (entries : List (String × Ref)) : Computation Ref := do
  new (.dict (← entries.mapM fun e => return (← newText e.1, e.2)))

/-! ## Types -/

end Computation

namespace Heap

/-- The place of the object of a built-in type that an object is, if its class extends that type. -/
def basis (h : Heap) (r : Ref) : Ref :=
  match h.object r with
  | .derived _ base => base
  | _ => r

/-- The object at a place; the object of a built-in type that it is, if its class extends that type. -/
def plain (h : Heap) (r : Ref) : Object := h.object (h.basis r)

/-- The text that an object is. -/
def text? (h : Heap) (r : Ref) : Option CodePoints :=
  match h.plain r with
  | .str t => some t
  | _ => none

/-- The name of the type of an object. -/
def typeName (h : Heap) (r : Ref) : String :=
  match h.object r with
  | .none => "NoneType"
  | .bool _ => "bool"
  | .int _ => "int"
  | .float _ => "float"
  | .str _ => "str"
  | .bytes _ => "bytes"
  | .byteArray _ => "bytearray"
  | .list _ => "list"
  | .tuple _ => "tuple"
  | .unfilled kind _ => kind.typeName
  | .dict _ => "dict"
  | .set frozen _ => if frozen then "frozenset" else "set"
  | .datetime _ => "datetime.datetime"
  | .derived e _ => e.typeName
  | .foreign o => o.typeName
  | .function ⟨"builtins", _⟩ => "builtin_function_or_method"
  | .function _ => "function"
  | .method f _ =>
    match h.object f with
    | .function ⟨"builtins", _⟩ => "builtin_function_or_method"
    | _ => "method"
  | .descriptor .static _ => "staticmethod"
  | .descriptor .ofClass _ => "classmethod"
  | .descriptor .property _ => "property"
  | .builtinClass _ => "type"
  | .cls .. => "type"
  | .instanceOf c _ =>
    match h.object c with
    | .cls name .. => name
    | _ => "object"
  | .module .. => "module"

/-- The name of the type of an object without that of a module. -/
def shortTypeName (h : Heap) (r : Ref) : String :=
  let name := (h.typeName r).toList
  String.ofList (name.reverse.takeWhile (· ≠ '.')).reverse

end Heap

/-- The name of the type of an object. -/
def Computation.typeName (r : Ref) : Computation String := return (← get).heap.typeName r

end InterpreterHost
