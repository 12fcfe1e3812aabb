import InterpreterHost.Interpreter.CodePoint

/-!
# The search path

The list of directories in which modules are searched, as the code of the interpreter may have left it.

## Main definitions

* `SearchPath` — the search path
* `SearchPath.append` — add directories that are not in it yet
-/

namespace InterpreterHost

/-- One item of the search path. -/
inductive SearchItem where
  /-- A text of the interpreter, which need not be one of the host. -/
  | text (t : CodePoints)
  /-- An object whose comparison with anything fails. -/
  | incomparable
deriving DecidableEq, Repr, Inhabited

namespace SearchItem

/-- The item for a directory that the host names. -/
def directory (path : String) : SearchItem := .text (.ofString path)

/-- The directory that an item names to the host. -/
def directory? : SearchItem → Option String
  | text t => t.toString?
  | incomparable => none

end SearchItem

/-- What the interpreter keeps as its search path. -/
inductive SearchPath where
  | list (items : List SearchItem)
  /-- Items in something that is not a list. -/
  | frozen (items : List SearchItem)
  | missing
deriving DecidableEq, Repr, Inhabited

namespace SearchPath

/-- The items, wherever they are kept. -/
def items : SearchPath → List SearchItem
  | list items => items
  | frozen items => items
  | missing => []

/-- The directories among the items. -/
def directories (s : SearchPath) : List String := s.items.filterMap SearchItem.directory?

/-- Whether modules are searched in a directory. -/
def searches (s : SearchPath) (path : String) : Bool := s.items.contains (.directory path)

/-- Whether a directory is among the items, unless a comparison before it fails. -/
def membership (path : String) : List SearchItem → Option Bool
  | [] => some false
  | .incomparable :: _ => none
  | .text t :: rest => if t = .ofString path then some true else membership path rest

/-- Add directories one after the other, each unless it is there.  The first one that cannot be compared with
what is there ends this; the ones before it stay. -/
def appendItems (items : List SearchItem) : List String → List SearchItem × Option String
  | [] => (items, none)
  | path :: paths =>
    match membership path items with
    | none => (items, some path)
    | some true => appendItems items paths
    | some false => appendItems (items ++ [.directory path]) paths

/-- Add directories that are not in the search path yet; the reason if that fails. -/
def append (s : SearchPath) (paths : List String) : SearchPath × Option String :=
  match paths, s with
  | [], s => (s, none)
  | paths, list items =>
    let (items, failed) := appendItems items paths
    (list items, failed.map fun path => s!"cannot append '{path}'")
  | _, s => (s, some "sys.path is not a list")

end SearchPath

end InterpreterHost
