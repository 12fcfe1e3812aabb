import InterpreterHost.Interpreter.BuiltinType
import InterpreterHost.Interpreter.Library

/-!
# Attributes

Which attributes objects have and how they are handed out.

## Main definitions

* `Heap.attribute?` — an attribute of an object
* `Heap.noAttribute` — the words that there is none of that name
* `Heap.isCallable` — whether an object can be called
-/

namespace InterpreterHost

/-- How an attribute is had. -/
inductive Attribute where
  /-- The object at this place. -/
  | held (r : Ref)
  /-- An object that is made when it is asked for. -/
  | made (o : Object)
  /-- A function with its first argument. -/
  | bound (function self : Ref)
  /-- A function that is built in with its first argument. -/
  | builtin (name : RoutineName) (self : Ref)
  /-- The result of a function of the object. -/
  | computed (function self : Ref)
  /-- A dictionary of these attributes. -/
  | entries (attributes : Entries Ref)
deriving Repr

namespace Library

/-- The module of what is built in. -/
def builtins : String := "builtins"

/-- An attribute of a type of which no more is known, unless objects of the type are all alike. -/
def attributeOfType (typeName : String) : Object :=
  match typeName with
  | "NoneType" => .none
  | "str" => .str []
  | "tuple" => .tuple []
  | typeName => BuiltinType.unknown typeName

/-- The attributes that objects of a type have by the type alone, those of the nearest type that it extends. -/
def typeAttribute? (library : Library) (typeName : String) (r : Ref) (name : String) : Option Attribute :=
  (BuiltinType.lineage typeName).findSome? fun t =>
    let method : RoutineName := ⟨builtins, t.name ++ "." ++ name⟩
    if (library.routine? method).isSome then some (.builtin method r)
    else (t.own? name).map fun type =>
      .made (if type = "type" then .builtinClass typeName else attributeOfType type)

/-- The attributes of a whole number. -/
def integerAttributes (i : Int) : List (String × Constant) :=
  [("real", .int i), ("numerator", .int i), ("imag", .int 0), ("denominator", .int 1)]

/-- The attributes of an object that its value decides. -/
def valueAttributes : Object → List (String × Constant)
  | .bool b => integerAttributes (if b then 1 else 0)
  | .int i => integerAttributes i
  | .float f => [("real", .float f), ("imag", .float (.ofInt 0))]
  | .datetime t =>
    let clock : List Nat := [t.date.month, t.date.day, t.hour, t.minute, t.second, t.micros, t.fold.toNat]
    ("year", .int t.date.year) ::
      ["month", "day", "hour", "minute", "second", "microsecond", "fold"].zip (clock.map fun n => .int n) ++
      if t.zone.isNone then [("tzinfo", .none)] else []
  | .foreign o => o.fields
  | .function f =>
    let last := f.qualified.toList.reverse.takeWhile (· ≠ '.')
    [("__name__", .text (String.ofList last.reverse)), ("__qualname__", .text f.qualified),
      ("__module__", .text f.moduleName)]
  | .builtinClass name =>
    [("__name__", .text name), ("__qualname__", .text name), ("__module__", .text builtins)]
  | .cls name moduleName .. =>
    [("__name__", .text name), ("__qualname__", .text name), ("__module__", .text moduleName), ("__doc__", .none)]
  | .module name _ => [("__name__", .text name)]
  | _ => []

end Library

namespace Heap

/-- An attribute of a class, its own or of the class it extends.  A class is made after the one it extends. -/
def classAttribute? (h : Heap) (c : Ref) (name : String) : Option Ref :=
  match h.object c with
  | .cls _ _ base attributes =>
    match attributes.find? name with
    | some r => some r
    | none =>
      match base with
      | some b => if b < c then classAttribute? h b name else none
      | none => none
  | _ => none
termination_by c

def className (h : Heap) (c : Ref) : String :=
  match h.object c with
  | .cls name .. => name
  | _ => h.typeName c

/-- How an attribute of a class is handed out by an instance (`self`), or by the class. -/
def handOut (h : Heap) (value c : Ref) (self : Option Ref) : Attribute :=
  match h.object value, self with
  | .function _, some self => .bound value self
  | .descriptor .static f, _ => .held f
  | .descriptor .ofClass f, _ => .bound f c
  | .descriptor .property f, some self => .computed f self
  | _, _ => .held value

/-- The name under which the attributes of an object by its type are known. -/
def kindName (h : Heap) (r : Ref) : String :=
  match h.object r with
  | .cls .. => "class"
  | .builtinClass name => if (BuiltinType.find? ("class " ++ name)).isSome then "class " ++ name else "class"
  | .instanceOf .. => "object"
  | _ => h.typeName r

/-- The item of a tuple that has a name of its own. -/
def namedItem? (h : Heap) (r : Ref) (name : String) : Option Ref :=
  match h.object r, h.plain r with
  | .derived ⟨_, .named _ fields⟩ _, .tuple items => (fields.zip items).lookup name
  | _, _ => none

/-- The time zone of a date and time. -/
def zoneAttribute? (h : Heap) (r : Ref) (name : String) : Option Attribute :=
  match h.plain r, name with
  | .datetime ⟨_, _, _, _, _, some zone, _⟩, "tzinfo" => some (.made (BuiltinType.unknown zone.typeName))
  | _, _ => none

/-- The attributes that an instance of a class has by being one. -/
def instanceAttribute? (h : Heap) (c : Ref) (attributes : Entries Ref) (name : String) : Option Attribute :=
  match name with
  | "__class__" => some (.held c)
  | "__dict__" => some (.entries attributes)
  | "__doc__" | "__weakref__" => some (.made .none)
  | "__module__" => ((Library.valueAttributes (h.object c)).lookup name).map fun c => .made c.object
  | _ => none

/-- An attribute of an object. -/
def attribute? (h : Heap) (library : Library) (r : Ref) (name : String) : Option Attribute :=
  let own := match h.object r with
    | .module _ attributes => (attributes.find? name).map .held
    | .cls .. => (h.classAttribute? r name).map fun value => h.handOut value r none
    | .instanceOf c attributes =>
      match attributes.find? name with
      | some value => some (.held value)
      | none =>
        match h.classAttribute? c name with
        | some value => some (h.handOut value c (some r))
        | none => h.instanceAttribute? c attributes name
    | .method f self =>
      if name = "__self__" then some (.held self)
      else if name = "__func__" then some (.held f)
      else ((Library.valueAttributes (h.object f)).lookup name).map fun c => .made c.object
    | _ => (h.namedItem? r name).map .held
  let value := ((Library.valueAttributes (h.plain r)).lookup name).map fun c => Attribute.made c.object
  own <|> value <|> h.zoneAttribute? r name <|> library.typeAttribute? (h.kindName r) r name

/-- The words that an object has no attribute of a name. -/
def noAttribute (h : Heap) (r : Ref) (name : String) : String :=
  match h.object r with
  | .module moduleName _ => s!"module '{moduleName}' has no attribute '{name}'"
  | .cls className .. | .builtinClass className =>
    if name = "__abstractmethods__" then name else s!"type object '{className}' has no attribute '{name}'"
  | _ => s!"'{h.typeName r}' object has no attribute '{name}'"

/-- Whether an object can be called. -/
def isCallable (h : Heap) (r : Ref) : Bool :=
  match h.object r with
  | .function _ => true
  | .method .. => true
  | .builtinClass _ => true
  | .cls .. => true
  | .descriptor .static _ => true
  | .foreign o => o.callable
  | .instanceOf c _ => (h.classAttribute? c "__call__").isSome
  | _ => false

end Heap

end InterpreterHost
