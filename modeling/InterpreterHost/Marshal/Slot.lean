import InterpreterHost.Owner.Fetch
import InterpreterHost.Text.Quoted

/-!
# Places in containers

Where a reference is put into a container of the interpreter, and whose it is afterwards.

## Main definitions

* `Memory` — what there is memory for
* `Heap.tryNew` — a new object, if there is memory for it
* `Slot` — a place in a list, a tuple or a dictionary
* `Slot.itemOf` — the place of an item in a list or a tuple
* `Slot.transfer` — whether the container takes over the reference it is handed
* `Slot.put` — put a reference there
* `Slot.settle` — the same, with the reference given up if the container has taken one of its own
* `Job.insert` — the same as part of a job, which in any case gives up the one reference it has
-/

namespace InterpreterHost

/-- What a container does with the reference it is handed. -/
inductive Transfer where
  /-- The reference is its own, even if it cannot be put there. -/
  | taken
  /-- The container takes a reference of its own. -/
  | shared
deriving DecidableEq, Repr

/-- What there is memory for. -/
structure Memory where
  /-- Whether there is memory for an object that is to stand at a place. -/
  object : Ref → Bool := fun _ => true
  /-- Whether the container at a place can have an item or an entry more, where it has so many. -/
  room : Ref → Nat → Bool := fun _ _ => true

/-- There is memory for everything. -/
structure Memory.IsEnough (m : Memory) : Prop where
  object : ∀ r, m.object r = true
  room : ∀ r n, m.room r n = true

theorem Memory.IsEnough.default : ({} : Memory).IsEnough := ⟨fun _ => rfl, fun _ _ => rfl⟩

/-- A reference to an object, as `new` gives it, unless there is no memory for a new one. -/
def Heap.tryNew (h : Heap) (o : Object) (memory : Memory) : Except Raised Ref × Heap :=
  match singleton? o with
  | some r => (.ok r, h.retain r)
  | none =>
    if memory.object h.cells.size then (.ok h.cells.size, (h.alloc o).2) else (.error .exhausted, h)

/-- A place in a container. -/
inductive Slot where
  | listItem (index : Nat)
  | listEnd
  | tupleItem (index : Nat)
  | key (name : String)
deriving DecidableEq, Repr

namespace Slot

/-- The place of an item. -/
def itemOf : SequenceKind → Nat → Slot
  | .list => listItem
  | .tuple => tupleItem

def transfer : Slot → Transfer
  | listItem _ => .taken
  | listEnd => .shared
  | tupleItem _ => .taken
  | key _ => .shared

/-- The text of a slot for debugging. -/
def text : Slot → String
  | listItem index => s!"ListItem({index})"
  | listEnd => "ListAppend"
  | tupleItem index => s!"TupleItem({index})"
  | key name => s!"DictItem({Text.quote name})"

/-- What is raised where a container is not of the kind that the slot is for, or is not for its holder alone. -/
def misuse : Raised := .builtin "SystemError" "bad argument to internal function"

/-- The place in entries of a key that is a text. -/
def findKey (h : Heap) (entries : List (Ref × Ref)) (text : CodePoints) : Option Nat :=
  entries.findIdx? fun e => h.text? e.1 = some text

/-- Put a reference at one of the places of a list or a tuple, and give up the one that was there. -/
def replace (h : Heap) (container item : Ref) (kind : SequenceKind) (places : List (Option Ref)) (index : Nat) :
    Except Raised Unit × Heap :=
  match places[index]? with
  | some old =>
    let changed := h.setObject (h.basis container) (.ofPlaces kind (places.set index (some item)))
    (.ok (), changed.releaseAll old.toList)
  | none => (.error (.builtin "IndexError" s!"{kind.typeName} assignment index out of range"), h.release item)

/-- Bind a text in a dictionary, which takes references of its own, and give up the one that it was bound to. -/
def bind (h : Heap) (container key item : Ref) (text : CodePoints) (memory : Memory) : Except Raised Unit × Heap :=
  match h.plain container with
  | .dict entries =>
    match findKey h entries text with
    | some i =>
      let old := (entries.getD i (item, item)).2
      let h := (h.retain item).setObject (h.basis container) (.dict (entries.modify i fun e => (e.1, item)))
      (.ok (), h.release old)
    | none =>
      if memory.room (h.basis container) entries.length then
        (.ok (), ((h.retain key).retain item).setObject (h.basis container) (.dict (entries ++ [(key, item)])))
      else (.error .exhausted, h)
  | _ => (.error misuse, h)

/-- Put a reference into a container, and give up the one that was there. -/
def put (h : Heap) (container item : Ref) (slot : Slot) (memory : Memory) : Except Raised Unit × Heap :=
  match slot with
  | listItem i =>
    match (h.plain container).places? .list with
    | some places => replace h container item .list places i
    | none => (.error misuse, h.release item)
  | listEnd =>
    match (h.plain container).places? .list with
    | some places =>
      if memory.room (h.basis container) places.length then
        (.ok (), (h.retain item).setObject (h.basis container) (.ofPlaces .list (places ++ [some item])))
      else (.error .exhausted, h)
    | none => (.error misuse, h)
  | tupleItem i =>
    match (h.plain container).places? .tuple with
    | some places =>
      if h.count container = 1 then replace h container item .tuple places i else (.error misuse, h.release item)
    | none => (.error misuse, h.release item)
  | key name =>
    match h.tryNew (.str (.ofString name)) memory with
    | (.error e, h) => (.error e, h)
    | (.ok k, h) =>
      let (result, h) := bind h container k item (.ofString name) memory
      (result, h.release k)

/-- Put a reference into a container and give up what the container does not take over. -/
def settle (h : Heap) (container item : Ref) (slot : Slot) (memory : Memory) : Except Raised Unit × Heap :=
  let (result, h) := put h container item slot memory
  (result, if slot.transfer = .shared then h.release item else h)

end Slot

/-- Put an object into a container.  The one reference that the job has to it is its own no more. -/
def Job.insert (slot : Slot) (container item : Ref) (memory : Memory := {}) :
    Job (Except InterpreterError Unit) :=
  checked do
    let i ← get
    let (result, heap) := slot.settle i.heap container item memory
    set { i with heap }
    match result with
    | .ok () => return
    | .error e => throw e

end InterpreterHost
