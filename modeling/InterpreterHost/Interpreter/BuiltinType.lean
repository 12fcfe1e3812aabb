import InterpreterHost.Interpreter.Object

/-!
# Types that are built in

Which attributes the objects of a type have by their type alone, and of what types those attributes are.

## Main definitions

* `BuiltinType` — a type with its attributes
* `BuiltinType.all` — the types
* `BuiltinType.lineage` — a type with those that it extends
* `BuiltinType.own?` — the type of an attribute

## Design notes

An attribute has the type that an object shows for it, not the class: what a class keeps as a descriptor is bound
when an object hands it out.  The entry `class` is for classes themselves, and `class int` for the class of whole
numbers; a type without an entry has the attributes that all objects have.
-/

namespace InterpreterHost

/-- A type with the attributes that its objects have. -/
structure BuiltinType where
  name : String
  /-- The type that it extends, which has no base but that of all objects. -/
  base : String
  /-- The attributes that the base does not have or has otherwise: names with blanks between them, by their types. -/
  attributes : List (String × String)
deriving Repr

namespace BuiltinType

/-- The types with attributes of their own. -/
def all : List BuiltinType := [
  ⟨"object", "object", [
    ("method-wrapper",
      "__delattr__ __eq__ __ge__ __getattribute__ __gt__ __hash__ __init__ __le__ __lt__ __ne__ " ++
        "__repr__ __setattr__ __str__"),
    ("builtin_function_or_method",
      "__dir__ __format__ __getstate__ __init_subclass__ __new__ __reduce__ __reduce_ex__ __sizeof__ " ++
        "__subclasshook__"),
    ("str", "__doc__"),
    ("type", "__class__")]⟩,
  ⟨"NoneType", "object", [
    ("method-wrapper", "__bool__"),
    ("NoneType", "__doc__")]⟩,
  ⟨"bool", "int", []⟩,
  ⟨"int", "object", [
    ("method-wrapper",
      "__abs__ __add__ __and__ __bool__ __divmod__ __float__ __floordiv__ __index__ __int__ __invert__ " ++
        "__lshift__ __mod__ __mul__ __neg__ __or__ __pos__ __pow__ __radd__ __rand__ __rdivmod__ " ++
        "__rfloordiv__ __rlshift__ __rmod__ __rmul__ __ror__ __rpow__ __rrshift__ __rshift__ __rsub__ " ++
        "__rtruediv__ __rxor__ __sub__ __truediv__ __xor__"),
    ("builtin_function_or_method",
      "__ceil__ __floor__ __getnewargs__ __round__ __trunc__ as_integer_ratio bit_count bit_length " ++
        "conjugate from_bytes to_bytes"),
    ("int", "denominator imag numerator real")]⟩,
  ⟨"float", "object", [
    ("method-wrapper",
      "__abs__ __add__ __bool__ __divmod__ __float__ __floordiv__ __int__ __mod__ __mul__ __neg__ " ++
        "__pos__ __pow__ __radd__ __rdivmod__ __rfloordiv__ __rmod__ __rmul__ __rpow__ __rsub__ " ++
        "__rtruediv__ __sub__ __truediv__"),
    ("builtin_function_or_method",
      "__ceil__ __floor__ __getformat__ __getnewargs__ __round__ __trunc__ as_integer_ratio conjugate " ++
        "fromhex hex is_integer"),
    ("float", "imag real")]⟩,
  ⟨"str", "object", [
    ("method-wrapper",
      "__add__ __contains__ __getitem__ __iter__ __len__ __mod__ __mul__ __rmod__ __rmul__"),
    ("builtin_function_or_method",
      "__getnewargs__ capitalize casefold center count encode endswith expandtabs find format " ++
        "format_map index isalnum isalpha isascii isdecimal isdigit isidentifier islower isnumeric " ++
        "isprintable isspace istitle isupper join ljust lower lstrip maketrans partition removeprefix " ++
        "removesuffix replace rfind rindex rjust rpartition rsplit rstrip split splitlines startswith " ++
        "strip swapcase title translate upper zfill")]⟩,
  ⟨"bytes", "object", [
    ("method-wrapper",
      "__add__ __contains__ __getitem__ __iter__ __len__ __mod__ __mul__ __rmod__ __rmul__"),
    ("builtin_function_or_method",
      "__bytes__ __getnewargs__ capitalize center count decode endswith expandtabs find fromhex hex " ++
        "index isalnum isalpha isascii isdigit islower isspace istitle isupper join ljust lower lstrip " ++
        "maketrans partition removeprefix removesuffix replace rfind rindex rjust rpartition rsplit " ++
        "rstrip split splitlines startswith strip swapcase title translate upper zfill")]⟩,
  ⟨"bytearray", "object", [
    ("method-wrapper",
      "__add__ __contains__ __delitem__ __getitem__ __iadd__ __imul__ __iter__ __len__ __mod__ __mul__ " ++
        "__rmod__ __rmul__ __setitem__"),
    ("builtin_function_or_method",
      "__alloc__ append capitalize center clear copy count decode endswith expandtabs extend find " ++
        "fromhex hex index insert isalnum isalpha isascii isdigit islower isspace istitle isupper join " ++
        "ljust lower lstrip maketrans partition pop remove removeprefix removesuffix replace reverse " ++
        "rfind rindex rjust rpartition rsplit rstrip split splitlines startswith strip swapcase title " ++
        "translate upper zfill"),
    ("NoneType", "__hash__")]⟩,
  ⟨"list", "object", [
    ("method-wrapper",
      "__add__ __contains__ __delitem__ __iadd__ __imul__ __iter__ __len__ __mul__ __rmul__ __setitem__"),
    ("builtin_function_or_method",
      "__class_getitem__ __getitem__ __reversed__ append clear copy count extend index insert pop " ++
        "remove reverse sort"),
    ("NoneType", "__hash__")]⟩,
  ⟨"tuple", "object", [
    ("method-wrapper", "__add__ __contains__ __getitem__ __iter__ __len__ __mul__ __rmul__"),
    ("builtin_function_or_method", "__class_getitem__ __getnewargs__ count index")]⟩,
  ⟨"dict", "object", [
    ("builtin_function_or_method",
      "__class_getitem__ __contains__ __getitem__ __reversed__ clear copy fromkeys get items keys pop " ++
        "popitem setdefault update values"),
    ("method-wrapper", "__delitem__ __ior__ __iter__ __len__ __or__ __ror__ __setitem__"),
    ("NoneType", "__hash__")]⟩,
  ⟨"datetime.datetime", "object", [
    ("method-wrapper", "__add__ __radd__ __rsub__ __sub__"),
    ("builtin_function_or_method",
      "astimezone combine ctime date dst fromisocalendar fromisoformat fromordinal fromtimestamp " ++
        "isocalendar isoformat isoweekday now replace strftime strptime time timestamp timetuple timetz " ++
        "today toordinal tzname utcfromtimestamp utcnow utcoffset utctimetuple weekday"),
    ("int", "day fold hour microsecond minute month second year"),
    ("datetime.datetime", "max min"),
    ("datetime.timedelta", "resolution"),
    ("NoneType", "tzinfo")]⟩,
  ⟨"set", "object", [
    ("method-wrapper",
      "__and__ __iand__ __ior__ __isub__ __iter__ __ixor__ __len__ __or__ __rand__ __ror__ __rsub__ " ++
        "__rxor__ __sub__ __xor__"),
    ("builtin_function_or_method",
      "__class_getitem__ __contains__ add clear copy difference difference_update discard intersection " ++
        "intersection_update isdisjoint issubset issuperset pop remove symmetric_difference " ++
        "symmetric_difference_update union update"),
    ("NoneType", "__hash__")]⟩,
  ⟨"frozenset", "object", [
    ("method-wrapper",
      "__and__ __iter__ __len__ __or__ __rand__ __ror__ __rsub__ __rxor__ __sub__ __xor__"),
    ("builtin_function_or_method",
      "__class_getitem__ __contains__ copy difference intersection isdisjoint issubset issuperset " ++
        "symmetric_difference union")]⟩,
  ⟨"complex", "object", [
    ("method-wrapper",
      "__abs__ __add__ __bool__ __mul__ __neg__ __pos__ __pow__ __radd__ __rmul__ __rpow__ __rsub__ " ++
        "__rtruediv__ __sub__ __truediv__"),
    ("builtin_function_or_method", "__complex__ __getnewargs__ conjugate"),
    ("float", "imag real")]⟩,
  ⟨"range", "object", [
    ("method-wrapper", "__bool__ __contains__ __getitem__ __iter__ __len__"),
    ("builtin_function_or_method", "__reversed__ count index"),
    ("int", "start step stop")]⟩,
  ⟨"slice", "object", [
    ("NoneType", "__hash__ start step"),
    ("builtin_function_or_method", "indices"),
    ("int", "stop")]⟩,
  ⟨"ellipsis", "object", [
    ("NoneType", "__doc__")]⟩,
  ⟨"NotImplementedType", "object", [
    ("method-wrapper", "__bool__"),
    ("NoneType", "__doc__")]⟩,
  ⟨"class int", "object", [
    ("wrapper_descriptor",
      "__abs__ __add__ __and__ __bool__ __delattr__ __divmod__ __eq__ __float__ __floordiv__ __ge__ " ++
        "__getattribute__ __gt__ __hash__ __index__ __init__ __int__ __invert__ __le__ __lshift__ __lt__ " ++
        "__mod__ __mul__ __ne__ __neg__ __or__ __pos__ __pow__ __radd__ __rand__ __rdivmod__ __repr__ " ++
        "__rfloordiv__ __rlshift__ __rmod__ __rmul__ __ror__ __rpow__ __rrshift__ __rshift__ __rsub__ " ++
        "__rtruediv__ __rxor__ __setattr__ __str__ __sub__ __truediv__ __xor__"),
    ("type", "__base__"),
    ("tuple", "__bases__ __mro__"),
    ("int", "__basicsize__ __dictoffset__ __flags__ __itemsize__ __weakrefoffset__"),
    ("method-wrapper", "__call__"),
    ("method_descriptor",
      "__ceil__ __dir__ __floor__ __format__ __getnewargs__ __getstate__ __reduce__ __reduce_ex__ " ++
        "__round__ __sizeof__ __trunc__ as_integer_ratio bit_count bit_length conjugate to_bytes"),
    ("mappingproxy", "__dict__"),
    ("builtin_function_or_method",
      "__instancecheck__ __prepare__ __subclasscheck__ __subclasses__ from_bytes mro"),
    ("str", "__module__ __name__ __qualname__"),
    ("NoneType", "__text_signature__"),
    ("getset_descriptor", "denominator imag numerator real")]⟩,
  ⟨"class", "object", [
    ("dict", "__annotations__"),
    ("type", "__base__"),
    ("tuple", "__bases__ __mro__"),
    ("int", "__basicsize__ __dictoffset__ __flags__ __itemsize__ __weakrefoffset__"),
    ("method-wrapper", "__call__ __or__ __ror__"),
    ("wrapper_descriptor",
      "__delattr__ __eq__ __ge__ __getattribute__ __gt__ __hash__ __init__ __le__ __lt__ __ne__ " ++
        "__repr__ __setattr__ __str__"),
    ("mappingproxy", "__dict__"),
    ("method_descriptor", "__dir__ __format__ __getstate__ __reduce__ __reduce_ex__ __sizeof__"),
    ("NoneType", "__doc__ __text_signature__"),
    ("builtin_function_or_method", "__instancecheck__ __prepare__ __subclasscheck__ __subclasses__ mro"),
    ("str", "__module__ __name__ __qualname__"),
    ("getset_descriptor", "__weakref__")]⟩,
  ⟨"module", "object", [
    ("dict", "__annotations__ __builtins__ __dict__"),
    ("str", "__cached__ __file__ __name__ __package__"),
    ("NoneType", "__doc__"),
    ("SourceFileLoader", "__loader__"),
    ("ModuleSpec", "__spec__")]⟩,
  ⟨"function", "object", [
    ("dict", "__annotations__ __builtins__ __dict__ __globals__"),
    ("method-wrapper", "__call__ __get__"),
    ("NoneType", "__closure__ __defaults__ __doc__ __kwdefaults__"),
    ("code", "__code__"),
    ("str", "__module__ __name__ __qualname__")]⟩,
  ⟨"builtin_function_or_method", "object", [
    ("method-wrapper", "__call__"),
    ("str", "__module__ __name__ __qualname__ __text_signature__"),
    ("module", "__self__")]⟩,
  ⟨"generator", "object", [
    ("method-wrapper", "__del__ __iter__ __next__"),
    ("NoneType", "__doc__ gi_yieldfrom"),
    ("str", "__name__ __qualname__"),
    ("builtin_function_or_method", "close send throw"),
    ("code", "gi_code"),
    ("frame", "gi_frame"),
    ("bool", "gi_running gi_suspended")]⟩,
  ⟨"list_iterator", "object", [
    ("NoneType", "__doc__"),
    ("method-wrapper", "__iter__ __next__"),
    ("builtin_function_or_method", "__length_hint__ __setstate__")]⟩,
  ⟨"memoryview", "object", [
    ("method-wrapper", "__delitem__ __getitem__ __iter__ __len__ __setitem__"),
    ("builtin_function_or_method", "__enter__ __exit__ cast hex release tobytes tolist toreadonly"),
    ("bool", "c_contiguous contiguous f_contiguous readonly"),
    ("str", "format"),
    ("int", "itemsize nbytes ndim"),
    ("bytes", "obj"),
    ("tuple", "shape strides suboffsets")]⟩,
  ⟨"datetime.date", "object", [
    ("method-wrapper", "__add__ __radd__ __rsub__ __sub__"),
    ("builtin_function_or_method",
      "ctime fromisocalendar fromisoformat fromordinal fromtimestamp isocalendar isoformat isoweekday " ++
        "replace strftime timetuple today toordinal weekday"),
    ("int", "day month year"),
    ("datetime.date", "max min"),
    ("datetime.timedelta", "resolution")]⟩,
  ⟨"datetime.time", "object", [
    ("builtin_function_or_method", "dst fromisoformat isoformat replace strftime tzname utcoffset"),
    ("int", "fold hour microsecond minute second"),
    ("datetime.time", "max min"),
    ("datetime.timedelta", "resolution"),
    ("NoneType", "tzinfo")]⟩,
  ⟨"datetime.timedelta", "object", [
    ("method-wrapper",
      "__abs__ __add__ __bool__ __divmod__ __floordiv__ __mod__ __mul__ __neg__ __pos__ __radd__ " ++
        "__rdivmod__ __rfloordiv__ __rmod__ __rmul__ __rsub__ __rtruediv__ __sub__ __truediv__"),
    ("int", "days microseconds seconds"),
    ("datetime.timedelta", "max min resolution"),
    ("builtin_function_or_method", "total_seconds")]⟩,
  ⟨"datetime.timezone", "object", [
    ("builtin_function_or_method", "__getinitargs__ dst fromutc tzname utcoffset"),
    ("datetime.timezone", "max min utc")]⟩,
  ⟨"collections.OrderedDict", "dict", [
    ("dict", "__dict__"),
    ("builtin_function_or_method", "move_to_end")]⟩,
  ⟨"collections.defaultdict", "dict", [
    ("builtin_function_or_method", "__copy__ __missing__"),
    ("type", "default_factory")]⟩,
  ⟨"Counter", "dict", [
    ("method",
      "__add__ __and__ __delitem__ __eq__ __ge__ __gt__ __iadd__ __iand__ __init__ __ior__ __isub__ " ++
        "__le__ __lt__ __missing__ __ne__ __neg__ __or__ __pos__ __reduce__ __repr__ __sub__ " ++
        "_keep_positive copy elements fromkeys most_common subtract total update"),
    ("dict", "__dict__"),
    ("str", "__module__"),
    ("NoneType", "__weakref__")]⟩,
  ⟨"collections.deque", "object", [
    ("method-wrapper",
      "__add__ __contains__ __delitem__ __getitem__ __iadd__ __imul__ __iter__ __len__ __mul__ __rmul__ " ++
        "__setitem__"),
    ("builtin_function_or_method",
      "__class_getitem__ __copy__ __reversed__ append appendleft clear copy count extend extendleft " ++
        "index insert pop popleft remove reverse rotate"),
    ("NoneType", "__hash__ maxlen")]⟩,
  ⟨"dict_keys", "object", [
    ("method-wrapper",
      "__and__ __contains__ __iter__ __len__ __or__ __rand__ __ror__ __rsub__ __rxor__ __sub__ __xor__"),
    ("NoneType", "__doc__ __hash__"),
    ("builtin_function_or_method", "__reversed__ isdisjoint"),
    ("mappingproxy", "mapping")]⟩,
  ⟨"dict_items", "object", [
    ("method-wrapper",
      "__and__ __contains__ __iter__ __len__ __or__ __rand__ __ror__ __rsub__ __rxor__ __sub__ __xor__"),
    ("NoneType", "__doc__ __hash__"),
    ("builtin_function_or_method", "__reversed__ isdisjoint"),
    ("mappingproxy", "mapping")]⟩,
  ⟨"Point", "tuple", [
    ("method", "__getnewargs__ __repr__ _asdict _make _replace"),
    ("tuple", "__match_args__ __slots__ _fields"),
    ("str", "__module__"),
    ("function", "__new__"),
    ("dict", "_field_defaults"),
    ("int", "x y")]⟩,
  ⟨"Color", "int", [
    ("Color", "RED"),
    ("EnumType", "__class__ __objclass__"),
    ("method",
      "__copy__ __deepcopy__ __dir__ __init__ __new__ __reduce_ex__ __repr__ _generate_next_value_ " ++
        "_missing_"),
    ("dict", "__dict__ _member_map_ _value2member_map_"),
    ("NoneType", "__doc__"),
    ("str", "__module__ _name_ name"),
    ("list", "_member_names_ _unhashable_values_"),
    ("type", "_member_type_"),
    ("builtin_function_or_method", "_new_member_"),
    ("int", "_sort_order_ _value_ value"),
    ("bool", "_use_args_"),
    ("method-wrapper", "_value_repr_")]⟩,
  ⟨"ValueError", "object", [
    ("NoneType", "__cause__ __context__ __traceback__"),
    ("dict", "__dict__"),
    ("builtin_function_or_method", "__setstate__ add_note with_traceback"),
    ("bool", "__suppress_context__"),
    ("tuple", "args")]⟩,
  ⟨"Plain", "object", [
    ("dict", "__dict__"),
    ("NoneType", "__doc__ __weakref__"),
    ("str", "__module__")]⟩,
  ⟨"MyInt", "int", [
    ("dict", "__dict__"),
    ("NoneType", "__doc__"),
    ("str", "__module__")]⟩,
  ⟨"MyFloat", "float", [
    ("dict", "__dict__"),
    ("NoneType", "__doc__ __weakref__"),
    ("str", "__module__")]⟩,
  ⟨"MyStr", "str", [
    ("dict", "__dict__"),
    ("NoneType", "__doc__ __weakref__"),
    ("str", "__module__")]⟩,
  ⟨"MyBytes", "bytes", [
    ("dict", "__dict__"),
    ("NoneType", "__doc__"),
    ("str", "__module__")]⟩,
  ⟨"MyByteArray", "bytearray", [
    ("dict", "__dict__"),
    ("NoneType", "__doc__ __weakref__"),
    ("str", "__module__")]⟩,
  ⟨"MyList", "list", [
    ("dict", "__dict__"),
    ("NoneType", "__doc__ __weakref__"),
    ("str", "__module__")]⟩,
  ⟨"MyDict", "dict", [
    ("dict", "__dict__"),
    ("NoneType", "__doc__ __weakref__"),
    ("str", "__module__")]⟩,
  ⟨"MyTuple", "tuple", [
    ("dict", "__dict__"),
    ("NoneType", "__doc__"),
    ("str", "__module__")]⟩,
  ⟨"MyDateTime", "datetime.datetime", [
    ("dict", "__dict__"),
    ("NoneType", "__doc__ __weakref__"),
    ("str", "__module__")]⟩,
  ⟨"method", "object", [
    ("dict", "__annotations__ __builtins__ __dict__ __globals__"),
    ("method-wrapper", "__call__ __get__"),
    ("NoneType", "__closure__ __defaults__ __doc__ __kwdefaults__"),
    ("code", "__code__"),
    ("function", "__func__"),
    ("str", "__module__ __name__ __qualname__"),
    ("int", "__self__")]⟩,
  ⟨"property", "object", [
    ("method-wrapper", "__delete__ __get__ __set__"),
    ("NoneType", "__doc__ fdel fget fset"),
    ("bool", "__isabstractmethod__"),
    ("builtin_function_or_method", "__set_name__ deleter getter setter")]⟩,
  ⟨"staticmethod", "object", [
    ("dict", "__annotations__ __dict__"),
    ("method-wrapper", "__call__ __get__"),
    ("NoneType", "__doc__"),
    ("function", "__func__ __wrapped__"),
    ("bool", "__isabstractmethod__"),
    ("str", "__module__ __name__ __qualname__")]⟩]

/-- The type of a name. -/
def find? (name : String) : Option BuiltinType := all.find? (·.name = name)

/-- A type with those that it extends, the nearest first. -/
def lineage (name : String) : List BuiltinType :=
  let own := find? name
  own.toList ++ (own.bind fun t => find? t.base).toList ++ (find? "object").toList

/-- The type of an attribute that a type itself has. -/
def own? (t : BuiltinType) (name : String) : Option String :=
  (t.attributes.find? fun group => (group.2.splitOn " ").contains name).map (·.1)

/-- The types of attributes that can be called. -/
def callable : List String :=
  ["EnumType", "builtin_function_or_method", "function", "method", "method-wrapper", "method_descriptor", "type",
    "wrapper_descriptor"]

/-- An attribute of a type of which no more is known. -/
def unknown (typeName : String) : Object := .foreign { typeName, callable := callable.contains typeName }

end BuiltinType

end InterpreterHost
