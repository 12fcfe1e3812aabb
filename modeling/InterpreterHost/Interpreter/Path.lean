import InterpreterHost.Interpreter.Computation

/-!
# Paths

What a path leads to, as it is followed from one directory to the next.

## Main definitions

* `Place` — what is at the end of a path
* `Place.Fault` — why a path has no end
* `Interpreter.locate` — follow a path

## Design notes

A directory is known by the shortest path to it, from the root or from the directory in which the interpreter runs.
Besides those that are given there are the directories and files that every system has.
-/

namespace InterpreterHost

/-- What is at the end of a path, by the shortest path to it. -/
inductive Place where
  | directory
  | file (path : String)
  /-- Nothing, in a directory that is there. -/
  | vacant (path : String)
deriving DecidableEq, Repr

/-- Why a path has no end. -/
inductive Place.Fault where
  | missing
  | notDirectory
  | tooLong
deriving DecidableEq, Repr

namespace Path

/-- Directories of every system. -/
def systemDirectories : List String :=
  ["/bin", "/boot", "/dev", "/etc", "/home", "/lib", "/media", "/mnt", "/opt", "/proc", "/root", "/run", "/sbin",
    "/srv", "/sys", "/usr", "/usr/bin", "/usr/lib", "/usr/local", "/usr/share", "/var", "/var/lib", "/var/log",
    "/var/tmp"]

/-- The file that is empty whatever is written to it. -/
def emptyDevice : String := "/dev/null"

/-- The file that nothing can be written to. -/
def fullDevice : String := "/dev/full"

/-- Files of every system, with what their contents start with. -/
def systemFiles : Entries Octets :=
  Entries.ofList [(emptyDevice, []), (fullDevice, []), ("/etc/passwd", Utf8.encode "root:x:0:0:root".toList)]

/-- How many octets a path and a name in it may have. -/
def maxPath : Nat := 4095
def maxName : Nat := 255

/-- The directory in which the interpreter runs. -/
def here : String := "."

/-- The names in a path. -/
def names (path : String) : List String := (path.splitOn "/").filter (· ≠ "")

/-- The path of a name in a directory. -/
def join (directory name : String) : String :=
  if directory = here then name else if directory = "/" then "/" ++ name else directory ++ "/" ++ name

/-- Whether a path from where the interpreter runs only leads up. -/
def leadsUp (path : String) : Bool := path ≠ "" && !path.startsWith "/" && (names path).all (· = "..")

/-- The directory around a directory. -/
def parent (path : String) : String :=
  if path = "/" then "/"
  else if path = here then ".."
  else if leadsUp path then path ++ "/.."
  else
    match (names path).dropLast, path.startsWith "/" with
    | [], true => "/"
    | [], false => here
    | above, true => "/" ++ "/".intercalate above
    | above, false => "/".intercalate above

end Path

namespace Interpreter

open InterpreterHost.Path

/-- Whether there is a directory at a path. -/
def hasDirectory (i : Interpreter) (path : String) : Bool :=
  i.directories.contains path || systemDirectories.contains path || leadsUp path

/-- What a file holds. -/
def content? (i : Interpreter) (path : String) : Option Octets := i.files.find? path <|> systemFiles.find? path

/-- Follow the names in a path from a directory on; `closed` says whether it ends like that of a directory. -/
def follow (i : Interpreter) (closed : Bool) (directory : String) : List String → Except Place.Fault Place
  | [] => .ok .directory
  | name :: rest =>
    if maxName < name.utf8ByteSize then .error .tooLong
    else if name = "." then i.follow closed directory rest
    else if name = ".." then i.follow closed (parent directory) rest
    else
      let path := join directory name
      if i.hasDirectory path then i.follow closed path rest
      else if (i.content? path).isSome then
        if rest.isEmpty && !closed then .ok (.file path) else .error .notDirectory
      else if rest.isEmpty then .ok (.vacant path)
      else .error .missing

/-- Follow a path. -/
def locate (i : Interpreter) (path : String) : Except Place.Fault Place :=
  if path = "" then .error .missing
  else if maxPath < path.utf8ByteSize then .error .tooLong
  else i.follow (path.endsWith "/") (if path.startsWith "/" then "/" else here) (names path)

end Interpreter

end InterpreterHost
