import InterpreterHost.Interpreter.CodePoint
import InterpreterHost.Text.Quoted

/-!
# Exceptions in flight

An exception that was raised, and the entries in which the interpreter's formatter writes it: exceptions before it
first, then the stack, the place of a syntax error, the last line and the notes.

## Main definitions

* `ExceptionClass` — the class of an exception
* `Thrown` — one exception
* `Raised` — an exception with those that led to it
* `Raised.entries` — the entries of the formatted traceback
* `Raised.shortText` — class and message, for when there is no formatter
-/

namespace InterpreterHost

/-- The class of an exception. -/
structure ExceptionClass where
  name : String
  /-- The module of the class, if it is not built in. -/
  moduleName : Option String := none
  isMemoryError : Bool := false
  isSyntaxError : Bool := false
  /-- Whether the formatter can look at exceptions of the class. -/
  formattable : Bool := true
deriving DecidableEq, Repr, Inhabited

/-- The name of the class with that of its module. -/
def ExceptionClass.qualified (c : ExceptionClass) : String :=
  match c.moduleName with
  | some m => m ++ "." ++ c.name
  | none => c.name

/-- Where the source text of a syntax error stands. -/
structure SourcePlace where
  message : Option CodePoints := none
  file : Option CodePoints := none
  line : Option Int := none
  /-- The column, from one on. -/
  offset : Option Int := none
  text : Option CodePoints := none
deriving DecidableEq, Repr, Inhabited

/-- One exception. -/
structure Thrown where
  exceptionClass : ExceptionClass
  /-- The message; absent if it cannot be had. -/
  message : Option CodePoints := some []
  notes : List CodePoints := []
  /-- The source of a syntax error. -/
  place : Option SourcePlace := none
  /-- The functions that the exception went through, outermost first; absent if it never went through any. -/
  stack : Option (List String) := none
  /-- What is raised where the message cannot be had: the class and the message of that. -/
  complaint : ExceptionClass × CodePoints := ({ name := "RuntimeError" }, [])
deriving DecidableEq, Repr, Inhabited

/-- How an exception led to a later one. -/
inductive Link where
  | cause
  | context
deriving DecidableEq, Repr

/-- An exception with those that led to it, the nearest first. -/
structure Raised where
  thrown : Thrown
  earlier : List (Link × Thrown) := []
deriving DecidableEq, Repr, Inhabited

/-- An exception of a class with the message that can be had, or with what is raised in place of it. -/
def Thrown.ofText (exceptionClass : ExceptionClass) : Except Raised CodePoints → Thrown
  | .ok message => { exceptionClass, message := some message }
  | .error e =>
    { exceptionClass, message := none, complaint := (e.thrown.exceptionClass, e.thrown.message.getD []) }

namespace CodePoints

def newline : CodePoint := .ofChar '\n'
def space : CodePoint := .ofChar ' '

/-- Split at every newline. -/
def lines : CodePoints → List CodePoints
  | [] => [[]]
  | p :: rest =>
    if p = newline then [] :: lines rest
    else match lines rest with
      | [] => [[p]]
      | l :: ls => (p :: l) :: ls

end CodePoints

open CodePoints (ofString newline space)

namespace SourcePlace

/-- White space that is kept when a caret is put under a text. -/
def isBlank (p : CodePoint) : Bool :=
  (9 ≤ p.val && p.val ≤ 13) || (28 ≤ p.val && p.val ≤ 32) ||
    [0x85, 0xa0, 0x1680, 0x2028, 0x2029, 0x202f, 0x205f, 0x3000].contains p.val ||
    (0x2000 ≤ p.val && p.val ≤ 0x200a)

/-- The text without newlines at its end. -/
def trimNewlines (text : CodePoints) : CodePoints := (text.reverse.dropWhile (· = newline)).reverse

/-- Blanks before a text that are not shown. -/
def isIndent (p : CodePoint) : Bool := p = space || p = newline || p = .ofChar '\x0c'

/-- The text on a line of its own and, if the column lies within it, a caret on the next. -/
def textEntries (text : CodePoints) (offset : Option Int) : List CodePoints :=
  let whole := trimNewlines text
  let shown := whole.dropWhile isIndent
  let removed : Int := whole.length - shown.length
  let line := ofString "    " ++ shown ++ [newline]
  match offset with
  | none => [line]
  | some offset =>
    let column := offset - 1 - removed
    if column < 0 then [line]
    else
      let blanks := (shown.take column.toNat).map fun p => if isBlank p then p else space
      [line, ofString "    " ++ blanks ++ ofString "^\n"]

/-- The entries that show where the error is. -/
def entries (p : SourcePlace) : List CodePoints :=
  let lineEntry := match p.line with
    | some n => [ofString "  File \"" ++ p.file.getD (ofString "<string>") ++ ofString s!"\", line {n}\n"]
    | none => []
  lineEntry ++ match p.text with
    | some text => textEntries text p.offset
    | none => []

/-- The message as the last line shows it. -/
def lastLine (p : SourcePlace) : CodePoints :=
  let message := match p.message with
    | some (q :: m) => q :: m
    | _ => ofString "<no detail available>"
  match p.line, p.file with
  | none, some file => message ++ ofString " (" ++ file ++ ofString ")"
  | _, _ => message

end SourcePlace

namespace Thrown

/-- The words that stand for a message that cannot be had. -/
def unprintable : CodePoints := ofString "<exception str() failed>"

/-- The line with the class and the message. -/
def lastLine (t : Thrown) : CodePoints :=
  let name := ofString t.exceptionClass.qualified
  match t.place with
  | some place => name ++ ofString ": " ++ place.lastLine ++ [newline]
  | none =>
    match t.message.getD unprintable with
    | [] => name ++ [newline]
    | message => name ++ ofString ": " ++ message ++ [newline]

/-- The entries of one exception. -/
def entries (t : Thrown) : List CodePoints :=
  let stack := match t.stack with
    | some frames => ofString "Traceback (most recent call last):\n" ::
        frames.map fun f => ofString s!"  in {f}\n"
    | none => []
  let place := match t.place with
    | some place => place.entries
    | none => []
  stack ++ place ++ [t.lastLine] ++ t.notes.flatMap fun note => (CodePoints.lines note).map (· ++ [newline])

end Thrown

/-- The line between an exception and the one it led to. -/
def Link.entry : Link → CodePoints
  | .cause => ofString "\nThe above exception was the direct cause of the following exception:\n\n"
  | .context => ofString "\nDuring handling of the above exception, another exception occurred:\n\n"

namespace Raised

/-- The entries of the formatted traceback. -/
def entries (e : Raised) : List CodePoints :=
  (e.earlier.reverse.flatMap fun p => p.2.entries ++ [p.1.entry]) ++ e.thrown.entries

/-- Whether the formatter can look at the exception and those before it. -/
def formattable (e : Raised) : Bool :=
  e.thrown.exceptionClass.formattable && e.earlier.all (·.2.exceptionClass.formattable)

/-- Class and message, for when the formatter is of no use. -/
def shortText (e : Raised) : String :=
  match (e.thrown.message.bind CodePoints.toString?).getD "" with
  | "" => e.thrown.exceptionClass.name
  | message => e.thrown.exceptionClass.name ++ ": " ++ message

/-- An exception without a stack. -/
def of (exceptionClass : ExceptionClass) (message : CodePoints) : Raised :=
  { thrown := { exceptionClass, message := some message } }

/-- The exception that is raised where the message of this one cannot be had. -/
def complaint (e : Raised) : Raised := of e.thrown.complaint.1 e.thrown.complaint.2

/-- An exception of a class that is built in, without a stack. -/
def builtin (className message : String) : Raised := of { name := className } (ofString message)

/-- The exception that memory ran out. -/
def exhausted : Raised := of { name := "MemoryError", isMemoryError := true } []

/-- The words that an activity takes too many calls within one another. -/
def tooManyCallsMessage (activity : String) : String := s!"maximum recursion depth exceeded while {activity}"

/-- The exception that an activity takes too many calls within one another. -/
def tooManyCalls (activity : String) : Raised := builtin "RecursionError" (tooManyCallsMessage activity)

/-- The words that a text with surrogates is no text of the host. -/
def encodeMessage (text : CodePoints) : String :=
  match text.firstSurrogates with
  | some (start, 1) =>
    let code := String.ofList (Text.hex 4 ((text[start]?.map Fin.val).getD 0))
    s!"'utf-8' codec can't encode character '\\u{code}' in position {start}: surrogates not allowed"
  | some (start, n) =>
    s!"'utf-8' codec can't encode characters in position {start}-{start + n - 1}: surrogates not allowed"
  | none => ""

/-- The exception that a text with surrogates is no text of the host. -/
def unencodable (text : CodePoints) : Raised := builtin "UnicodeEncodeError" (encodeMessage text)

/-- The exception after it went through a function. -/
def through (function : String) (e : Raised) : Raised :=
  { e with thrown := { e.thrown with stack := some (function :: e.thrown.stack.getD []) } }

end Raised

end InterpreterHost
