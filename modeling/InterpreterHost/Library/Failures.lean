import InterpreterHost.Interpreter.Library
import InterpreterHost.Interpreter.Operations

/-!
# Modules that fail

A module whose functions raise exceptions, and one that cannot be imported since its text is not well formed.

## Main definitions

* `Library.failures`, `Library.malformed` — the modules
-/

namespace InterpreterHost.Library

open InterpreterHost.Computation

/-- The exception that the import of the malformed module raises. -/
def malformedError (name directory : String) : Raised where
  thrown := {
    exceptionClass := { name := "SyntaxError", isSyntaxError := true }
    message := some (.ofString s!"invalid syntax ({name}.py, line 2)")
    place := some {
      message := some (.ofString "invalid syntax")
      file := some (.ofString s!"{directory}/{name}.py")
      line := some 2
      offset := some 12
      text := some (.ofString "def broken(:\n") } }

/-- The module whose text is not well formed. -/
def malformed (name directory : String) : ModuleSource where
  name
  directory := some directory
  content := .error (malformedError name directory)

/-- The module whose functions raise exceptions; one imports the malformed module. -/
def failures (name malformedName directory : String) : ModuleSource where
  name
  directory := some directory
  content := .ok [
    ("raise_value_error", .function (.nullary (within "_inner" (valueError "bad value")))),
    ("_inner", .function (.nullary (valueError "bad value"))),
    ("one_arg", .function (.unary "x" retain)),
    ("import_broken", .function (.nullary (throw (malformedError malformedName directory))))]

end InterpreterHost.Library
