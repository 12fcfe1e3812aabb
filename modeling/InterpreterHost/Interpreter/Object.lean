import InterpreterHost.Binary64
import InterpreterHost.Entries
import InterpreterHost.Interpreter.DateTime
import InterpreterHost.Text.Utf8

/-!
# Objects of the interpreter

An object is named by its place in the heap and refers to other objects by theirs, so that objects may be shared
and may contain themselves.

## Main definitions

* `Ref` — the place of an object
* `Object` — what stands at a place
* `Object.children` — the places an object holds references to
* `Object.places?`, `Object.ofPlaces` — the places for items that a list or a tuple has
-/

namespace InterpreterHost

/-- The place of an object in the heap. -/
abbrev Ref := Nat

/-- An object that is made anew whenever it is asked for. -/
inductive Constant where
  | none
  | bool (b : Bool)
  | int (i : Int)
  | float (f : Binary64)
  | text (s : String)
deriving DecidableEq, Repr

/-- An object that never changes and of which no more is known than its type, how it is written and some of its
attributes. -/
structure Foreign where
  typeName : String
  callable : Bool := false
  /-- How it is written within others. -/
  shown : Option String := none
  /-- How it is written by itself, if that is not how it is written within others. -/
  written : Option String := none
  fields : List (String × Constant) := []
  /-- Whether another object of which the same is known is the same object. -/
  byValue : Bool := false
  /-- Whether it may be a key. -/
  hashable : Bool := true
deriving DecidableEq, Repr, Inhabited

/-- How an instance of a class that extends a built-in type is written. -/
inductive Look where
  /-- As the object of that type which it is; the types that write their names write that of the class. -/
  | plain
  /-- As that object after a start and before a closing parenthesis. -/
  | enclosed (start : String)
  /-- As the entries of that dictionary, in parentheses after a name. -/
  | pairs (name : String)
  /-- As the items of that tuple under names of their own, in parentheses after a name. -/
  | named (name : String) (fields : List String)
  /-- As a member of an enumeration within others, and as that object by itself. -/
  | member (name : String)
deriving DecidableEq, Repr, Inhabited

/-- A class that extends a built-in type. -/
structure Extension where
  typeName : String
  look : Look := .plain
deriving DecidableEq, Repr, Inhabited

/-- The name of a routine of the library: its module, and its name within it, with that of its class. -/
structure RoutineName where
  moduleName : String
  qualified : String
deriving DecidableEq, Repr, Inhabited

/-- How a class hands out an attribute. -/
inductive Descriptor where
  /-- A function that is not bound to an instance. -/
  | static
  /-- A function that is bound to the class. -/
  | ofClass
  /-- A function that computes the attribute. -/
  | property
deriving DecidableEq, Repr

/-- What has items at numbered places. -/
inductive SequenceKind where
  | list
  | tuple
deriving DecidableEq, Repr, Inhabited

/-- The name of the type. -/
def SequenceKind.typeName : SequenceKind → String
  | list => "list"
  | tuple => "tuple"

/-- An object. -/
inductive Object where
  | none
  | bool (b : Bool)
  | int (i : Int)
  | float (f : Binary64)
  | str (text : CodePoints)
  | bytes (content : Octets)
  | byteArray (content : Octets)
  | list (items : List Ref)
  | tuple (items : List Ref)
  /-- A list or a tuple that was made with places for its items, to some of which no item has come yet. -/
  | unfilled (kind : SequenceKind) (places : List (Option Ref))
  /-- The entries, in the order in which their keys were first inserted. -/
  | dict (entries : List (Ref × Ref))
  /-- A set of objects that are not the same; one that is frozen never changes. -/
  | set (frozen : Bool) (items : List Ref)
  | datetime (t : DateTime)
  /-- An instance of a class that extends a built-in type, with the object of that type which it is. -/
  | derived (extension : Extension) (base : Ref)
  | foreign (o : Foreign)
  | function (name : RoutineName)
  /-- A function with its first argument. -/
  | method (function self : Ref)
  | descriptor (kind : Descriptor) (function : Ref)
  | builtinClass (name : String)
  /-- A class of a module, with the class it extends. -/
  | cls (name moduleName : String) (base : Option Ref) (attributes : Entries Ref)
  | instanceOf (cls : Ref) (attributes : Entries Ref)
  | module (name : String) (attributes : Entries Ref)
deriving Repr, Inhabited

/-- The object that a constant is. -/
def Constant.object : Constant → Object
  | none => .none
  | bool b => .bool b
  | int i => .int i
  | float f => .float f
  | text s => .str (.ofString s)

/-- The places that an object holds one reference each to. -/
def Object.children : Object → List Ref
  | list items => items
  | tuple items => items
  | unfilled _ places => places.filterMap id
  | dict entries => entries.flatMap fun e => [e.1, e.2]
  | set _ items => items
  | derived _ base => [base]
  | method f self => [f, self]
  | descriptor _ f => [f]
  | cls _ _ base attributes => base.toList ++ attributes.map (·.2)
  | instanceOf c attributes => c :: attributes.map (·.2)
  | module _ attributes => attributes.map (·.2)
  | _ => []

/-! ## Places for items -/

/-- A list or a tuple of items. -/
def SequenceKind.of : SequenceKind → List Ref → Object
  | list, items => .list items
  | tuple, items => .tuple items

namespace Object

/-- The places for items that a list or a tuple has, with the items that have come to them. -/
def places? (kind : SequenceKind) : Object → Option (List (Option Ref))
  | list items => if kind = .list then some (items.map some) else Option.none
  | tuple items => if kind = .tuple then some (items.map some) else Option.none
  | unfilled kind' places => if kind = kind' then some places else Option.none
  | _ => Option.none

/-- A list or a tuple with the given places. -/
def ofPlaces (kind : SequenceKind) (places : List (Option Ref)) : Object :=
  if places.all Option.isSome then kind.of (places.filterMap id) else .unfilled kind places

theorem map_some_filterMap {places : List (Option Ref)} (filled : places.all Option.isSome) :
    (places.filterMap id).map some = places := by
  induction places with
  | nil => rfl
  | cons place places ih =>
    simp only [List.all_cons, Bool.and_eq_true] at filled
    obtain ⟨r, rfl⟩ := Option.isSome_iff_exists.1 filled.1
    exact congrArg (some r :: ·) (ih filled.2)

@[simp] theorem places?_ofPlaces (kind : SequenceKind) (places : List (Option Ref)) :
    (ofPlaces kind places).places? kind = some places := by
  unfold ofPlaces
  split
  · next filled =>
    have back := map_some_filterMap filled
    cases kind <;> exact congrArg some back
  · exact if_pos rfl

@[simp] theorem children_ofPlaces (kind : SequenceKind) (places : List (Option Ref)) :
    (ofPlaces kind places).children = places.filterMap id := by
  unfold ofPlaces
  split
  · cases kind <;> rfl
  · rfl

/-- Once there is an item at every place it is a list or a tuple of these. -/
theorem ofPlaces_map_some (kind : SequenceKind) (items : List Ref) :
    ofPlaces kind (items.map some) = kind.of items := by
  have filled : (items.map some).all Option.isSome := by simp
  rw [ofPlaces, if_pos filled, List.filterMap_map]
  exact congrArg kind.of (List.filterMap_some (l := items))

end Object

end InterpreterHost
