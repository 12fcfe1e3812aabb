import InterpreterHost.Entries

/-!
# Directories of shared things

Things that are shared by whoever knows their numbers, some of them bound to names.

## Main definitions

* `Directory` — things by number, and numbers by name
* `Directory.bind?`, `Directory.unbind?` — bind a name that is free, unbind one that is bound

## Design notes

A name keeps its number until it is unbound, and a number keeps its thing, which may change but goes on being
that one.  So whoever looked up a name before it was unbound still shares the thing.
-/

namespace InterpreterHost

/-- Things by number, and numbers by name. -/
structure Directory (α : Type) where
  items : Array α := #[]
  names : Entries Nat := []
deriving Inhabited

namespace Directory

variable {α : Type}

/-- One thing more, under a new number. -/
def add (d : Directory α) (a : α) : Nat × Directory α := (d.items.size, { d with items := d.items.push a })

def item? (d : Directory α) (n : Nat) : Option α := d.items[n]?

/-- Change the thing with a number. -/
def update (d : Directory α) (n : Nat) (a : α) : Directory α := { d with items := d.items.modify n fun _ => a }

/-- The number that a name is bound to. -/
def number? (d : Directory α) (name : String) : Option Nat := d.names.find? name

def contains (d : Directory α) (name : String) : Bool := d.names.contains name

/-- Bind a name to a number, if the name is free. -/
def bind? (d : Directory α) (name : String) (n : Nat) : Option (Directory α) :=
  if d.contains name then none else some { d with names := d.names.insert name n }

/-- Unbind a name, if it is bound; the number stays with its thing. -/
def unbind? (d : Directory α) (name : String) : Option (Nat × Directory α) :=
  (d.number? name).map fun n => (n, { d with names := d.names.erase name })

/-- The names that are bound, in order. -/
def boundNames (d : Directory α) : List String := d.names.keys

end Directory

end InterpreterHost
