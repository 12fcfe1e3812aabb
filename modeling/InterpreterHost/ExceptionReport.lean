import InterpreterHost.Text.Property

/-!
# Reports of exceptions

What the host keeps of an exception of the interpreter: its last line, the lines that show a syntax error and the
stack trace.

## Main definitions

* `ExceptionReport` — the report
* `ExceptionReport.ofFormatted` — the report of a formatted traceback
* `ExceptionReport.display` — the report as one text
* `InterpreterError` — a report, or the word that memory ran out
-/

namespace InterpreterHost

/-- What the host keeps of an exception. -/
structure ExceptionReport where
  /-- The last line, such as `ValueError: invalid literal`. -/
  main : String
  /-- The source line and the caret line of a syntax error. -/
  details : List String
  /-- What stands before them. -/
  trace : String
deriving DecidableEq, Repr, Inhabited

namespace ExceptionReport

/-- A report with a last line only. -/
def ofMain (main : String) : ExceptionReport := ⟨main, [], ""⟩

def trimEnd (s : String) : String := String.ofList (Text.trimEnd s.toList)
def trim (s : String) : String := String.ofList (Text.trim s.toList)

/-- How many entries before the last show a syntax error. -/
def detailCount (entries : List String) (isSyntaxError : Bool) : Nat :=
  if isSyntaxError ∧ 2 < entries.length then 2 else 0

/-- The report of the entries of a formatted traceback, each of any number of lines. -/
def ofFormatted (entries : List String) (isSyntaxError : Bool) : ExceptionReport :=
  match entries.getLast? with
  | none => ofMain ""
  | some last =>
    let before := entries.dropLast
    let traceLength := before.length - detailCount entries isSyntaxError
    ⟨trim last, (before.drop traceLength).map trimEnd, trimEnd (String.join (before.take traceLength))⟩

def isSyntaxError (r : ExceptionReport) : Bool := !r.details.isEmpty

/-- The last line, the details and the stack trace, in this order. -/
def display (r : ExceptionReport) : String :=
  r.main ++ "\n" ++ String.join (r.details.map (· ++ "\n")) ++ r.trace

/-- Split characters into lines; a carriage return before a line feed belongs to the line's end. -/
def linesAux : List Char → List Char → List (List Char)
  | [], line => if line.isEmpty then [] else [line.reverse]
  | '\n' :: rest, line => (match line with | '\r' :: line => line | line => line).reverse :: linesAux rest []
  | c :: rest, line => linesAux rest (c :: line)

/-- The lines of the stack trace. -/
def traceLines (r : ExceptionReport) : List String := (linesAux r.trace.toList []).map String.ofList

end ExceptionReport

/-- What an operation of the interpreter failed with. -/
inductive InterpreterError where
  /-- Memory ran out; the exception stays set. -/
  | noMemory
  | exception (report : ExceptionReport)
deriving DecidableEq, Repr, Inhabited

/-- The error in words. -/
def InterpreterError.message : InterpreterError → String
  | noMemory => "python interpreter failed to allocate memory"
  | exception report => report.display

end InterpreterHost
