import InterpreterHost.Interpreter.Attribute

/-!
# Calls

What happens when an object is called.

## Main definitions

* `Library.invoke` — run a function
* `Library.getAttribute` — the attribute of an object
* `Library.call` — call an object
-/

namespace InterpreterHost.Library

open InterpreterHost.Computation

variable (library : Library)

/-- Run a function with positional and named arguments. -/
def invoke (name : RoutineName) (args : List Ref) (named : List (String × Ref)) : Computation Ref := do
  match library.routine? name with
  | none => typeError s!"'{name.qualified}' object is not callable"
  | some (.native body) => body args named
  | some (.interpreted signature body) =>
    let (values, made) ← bind signature name.qualified args named
    releasing made (within name.qualified (body values))

/-- Run the function at a place. -/
def invokeAt (f : Ref) (args : List Ref) (named : List (String × Ref)) : Computation Ref := do
  match ← look f with
  | .function name => library.invoke name args named
  | .method g self =>
    match ← look g with
    | .function name => library.invoke name (self :: args) named
    | _ => typeError s!"'{← typeName g}' object is not callable"
  | _ => typeError s!"'{← typeName f}' object is not callable"

/-- The attribute of an object, as a new reference. -/
def getAttribute (r : Ref) (name : String) : Computation Ref := do
  match (← get).heap.attribute? library r name with
  | some (.held value) => retain value
  | some (.made object) => new object
  | some (.bound f self) => new (.method (← retain f) (← retain self))
  | some (.builtin f self) => new (.method (← new (.function f)) (← retain self))
  | some (.computed getter self) => library.invokeAt getter [self] []
  | some (.entries attributes) => newDict (← attributes.mapM fun e => return (e.1, ← retain e.2))
  | none => raise "AttributeError" ((← get).heap.noAttribute r name)

/-- Make an instance of a class. -/
def instantiate (c : Ref) (args : List Ref) (named : List (String × Ref)) : Computation Ref := do
  let self ← new (.instanceOf (← retain c) [])
  match (← get).heap.classAttribute? c "__init__" with
  | some initializer =>
    let result ← tryCatch (library.invokeAt initializer (self :: args) named) fun e => do
      release self
      throw e
    release result
    return self
  | none =>
    if args.isEmpty ∧ named.isEmpty then return self
    else
      release self
      typeError s!"{(← get).heap.className c}() takes no arguments"

/-- Call an object; the result is a new reference. -/
def call (callee : Ref) (args : List Ref) (named : List (String × Ref)) : Computation Ref := do
  match ← look callee with
  | .cls .. => library.instantiate callee args named
  | .builtinClass name => library.invoke ⟨builtins, name⟩ args named
  | .instanceOf c _ =>
    match (← get).heap.classAttribute? c "__call__" with
    | some f => library.invokeAt f (callee :: args) named
    | none => typeError s!"'{← typeName callee}' object is not callable"
  | _ => library.invokeAt callee args named

end InterpreterHost.Library
