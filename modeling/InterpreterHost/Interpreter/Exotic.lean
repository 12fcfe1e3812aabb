import InterpreterHost.Interpreter.Operations

/-!
# Objects that are no values of the host

One object of each kind that the host does not read, by the name of its kind.

## Main definitions

* `Exotic.make?` — the object of a kind
-/

namespace InterpreterHost.Exotic

open InterpreterHost.Computation

/-- The objects that nothing is done to: what they are written as and what attributes they have. -/
def inert : List (String × Foreign) := [
  ("object", { typeName := "object" }),
  ("complex", {
    typeName := "complex", shown := some "1j", byValue := true
    fields := [("real", .float (.ofInt 0)), ("imag", .float (.ofInt 1))] }),
  ("range", {
    typeName := "range", shown := some "range(0, 3)", byValue := true
    fields := [("start", .int 0), ("stop", .int 3), ("step", .int 1)] }),
  ("slice", {
    typeName := "slice", shown := some "slice(None, 1, None)", byValue := true, hashable := false
    fields := [("start", .none), ("stop", .int 1), ("step", .none)] }),
  ("ellipsis", { typeName := "ellipsis", shown := some "Ellipsis", byValue := true }),
  ("notimplemented", { typeName := "NotImplementedType", shown := some "NotImplemented", byValue := true }),
  ("module", { typeName := "module" }),
  ("function", { typeName := "function", callable := true }),
  ("lambda", { typeName := "function", callable := true }),
  ("builtin", { typeName := "builtin_function_or_method", callable := true, shown := some "<built-in function len>" }),
  ("method", { typeName := "builtin_function_or_method", callable := true }),
  ("generator", { typeName := "generator" }),
  ("iterator", { typeName := "list_iterator" }),
  ("memoryview", { typeName := "memoryview" }),
  ("date", {
    typeName := "datetime.date", shown := some "datetime.date(2020, 1, 2)", written := some "2020-01-02"
    fields := [("year", .int 2020), ("month", .int 1), ("day", .int 2)], byValue := true }),
  ("time", {
    typeName := "datetime.time", shown := some "datetime.time(1, 2, 3)", written := some "01:02:03"
    fields := [("hour", .int 1), ("minute", .int 2), ("second", .int 3), ("microsecond", .int 0)]
    byValue := true }),
  ("timedelta", {
    typeName := "datetime.timedelta", shown := some "datetime.timedelta(days=1)", written := some "1 day, 0:00:00"
    fields := [("days", .int 1), ("seconds", .int 0), ("microseconds", .int 0)], byValue := true }),
  ("timezone", {
    typeName := "datetime.timezone", shown := some "datetime.timezone.utc", written := some "UTC"
    byValue := true }),
  ("deque", { typeName := "collections.deque", shown := some "deque([1])", hashable := false }),
  ("dict_keys", { typeName := "dict_keys", shown := some "dict_keys([])", hashable := false }),
  ("dict_items", { typeName := "dict_items", shown := some "dict_items([])", hashable := false }),
  ("exception", { typeName := "ValueError", shown := some "ValueError('x')", written := some "x" })]

/-- An instance of a class that extends a built-in type. -/
def derived (typeName : String) (base : Computation Ref) (look : Look := .plain) : Computation Ref := do
  new (.derived ⟨typeName, look⟩ (← base))

def one : Computation Ref := newInt 1
def octets : Octets := Utf8.encode ['b']
def entries : Computation Ref := do newDict [("a", ← one)]

/-- The objects that are made of others, or are instances of classes; those of the module are the class `Plain` and an
instance of it. -/
def composed (moduleName : String) : List (String × Computation Ref) := [
  ("set", do new (.set false [← one])),
  ("frozenset", new (.set true [])),
  ("type", new (.builtinClass "int")),
  ("metaclass", do retain (← classNamed moduleName "Plain")),
  ("plain", newInstance moduleName "Plain" []),
  ("ordereddict", derived "collections.OrderedDict" entries (.pairs "OrderedDict")),
  ("defaultdict", derived "collections.defaultdict" (newDict []) (.enclosed "defaultdict(<class 'int'>, ")),
  ("counter", derived "Counter" (do newDict [("a", ← newInt 2), ("b", ← one)]) (.enclosed "Counter(")),
  ("namedtuple", derived "Point" (do new (.tuple [← one, ← newInt 2])) (.named "Point" ["x", "y"])),
  ("intenum", derived "Color" one (.member "Color.RED")),
  ("myint", derived "MyInt" one),
  ("myfloat", derived "MyFloat" (new (.float (.ofInt 1)))),
  ("mystr", derived "MyStr" (newText "s")),
  ("mybytes", derived "MyBytes" (new (.bytes octets))),
  ("mybytearray", derived "MyByteArray" (new (.byteArray octets))),
  ("mylist", derived "MyList" (do newList [← one])),
  ("mydict", derived "MyDict" entries),
  ("mytuple", derived "MyTuple" (do new (.tuple [← one]))),
  ("mydatetime", derived "MyDateTime" (new (.datetime ⟨⟨2015, 4, 1⟩, 0, 0, 0, 0, none, false⟩)))]

/-- The object of a kind. -/
def make? (moduleName kind : String) : Option (Computation Ref) :=
  (inert.lookup kind).map (fun o => new (.foreign o)) <|> (composed moduleName).lookup kind

end InterpreterHost.Exotic
