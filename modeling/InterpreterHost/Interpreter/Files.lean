import InterpreterHost.Interpreter.Document
import InterpreterHost.Interpreter.Encoding
import InterpreterHost.Interpreter.Operations
import InterpreterHost.Interpreter.Path

/-!
# Files and documents in the interpreter

## Main definitions

* `Computation.pathOf` — the path that an object names
* `Computation.openToRead`, `Computation.openToWrite` — what a file holds, and an empty file
* `Computation.loadDocument`, `Computation.writeDocument` — objects from and to documents
-/

namespace InterpreterHost.Computation

/-! ## Paths -/

/-- The path that an object names.  A whole number stands for a file that is open, and none is. -/
def pathOf (r : Ref) : Computation String := do
  let h := (← get).heap
  let needPath : Computation String :=
    typeError s!"expected str, bytes or os.PathLike object, not {h.shortTypeName r}"
  match h.plain r with
  | .str t => if t.contains (.ofChar '\x00') then valueError "embedded null byte" else return t.toStringLossy
  | o =>
    match integer? o with
    | some i =>
      if i < -0x80000000 ∨ 0x80000000 ≤ i then needPath
      else if i < 0 then valueError "negative file descriptor"
      else raise "OSError" "[Errno 9] Bad file descriptor"
    | none => needPath

/-- An exception of the system about a path. -/
def systemError (className : String) (number : Nat) (reason path : String) : Computation α :=
  raise className s!"[Errno {number}] {reason}: {Representation.quote (.ofString path)}"

def noSuchFile (path : String) : Computation α := systemError "FileNotFoundError" 2 "No such file or directory" path

def isDirectory (path : String) : Computation α := systemError "IsADirectoryError" 21 "Is a directory" path

/-- What a path leads to. -/
def locate (path : String) : Computation Place := do
  match (← get).locate path with
  | .ok place => return place
  | .error .missing => noSuchFile path
  | .error .notDirectory => systemError "NotADirectoryError" 20 "Not a directory" path
  | .error .tooLong => systemError "OSError" 36 "File name too long" path

/-! ## Files -/

/-- What a file holds. -/
def openToRead (path : String) : Computation Octets := do
  match ← locate path with
  | .directory => isDirectory path
  | .file place => return ((← get).content? place).getD []
  | .vacant _ => noSuchFile path

/-- Replace what a file holds. -/
def writeFile (place : String) (content : Octets) : Computation Unit := do
  if place = Path.fullDevice ∧ ¬ content.isEmpty then raise "OSError" "[Errno 28] No space left on device"
  if place ≠ Path.emptyDevice then modify fun i => { i with files := i.files.insert place content }

/-- Make a file empty, and make it if there is none; the shortest path to it. -/
def openToWrite (path : String) : Computation String := do
  match ← locate path with
  | .directory => isDirectory path
  | .file place =>
    writeFile place []
    return place
  | .vacant place =>
    if path.endsWith "/" then isDirectory path
    else
      writeFile place []
      return place

/-- The text with each of the three ways to end a line written as a newline. -/
def unifyLineEnds : CodePoints → CodePoints
  | [] => []
  | p :: rest =>
    if p = 13 then
      match rest with
      | q :: rest' => if q = 10 then 10 :: unifyLineEnds rest' else 10 :: unifyLineEnds (q :: rest')
      | [] => [10]
    else p :: unifyLineEnds rest

/-- The text of a file. -/
def readText (path : String) : Computation CodePoints := do
  let text ← Encoding.decode (← openToRead path)
  return unifyLineEnds text

def removeFile (path : String) : Computation Unit := do
  match ← locate path with
  | .file place => modify fun i => { i with files := i.files.erase place }
  | _ => noSuchFile path

/-! ## Documents -/

/-- The document that an object spells: a text, or octets. -/
def readDocument (r : Ref) : Computation Document := do
  match (← get).heap.plain r with
  | .str t => Document.read t
  | .bytes content | .byteArray content => do Document.readDecoded (← Encoding.decodeDocument content)
  | _ => typeError s!"the JSON object must be str, bytes or bytearray, not {(← get).heap.shortTypeName r}"

/-- A new object for a document that a text spells. -/
def loadDocument (t : CodePoints) : Computation Ref := do (← Document.read t).build

/-- An object written as a document. -/
def dumpDocument (style : JsonStyle) (r : Ref) : Computation String := do
  match (← get).heap.jsonText style r with
  | .ok text => return text
  | .error (className, message) => raise className message

/-- Write an object as a document to a file that is open. -/
def writeDocument (sorted : Bool) (place : String) (r : Ref) : Computation Unit := do
  writeFile place (Utf8.encode (← dumpDocument { sorted, activity := "calling a Python object" } r).toList)

end InterpreterHost.Computation
