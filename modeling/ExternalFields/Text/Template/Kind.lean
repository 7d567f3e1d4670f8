/-!
# Kinds

Every value that a template can reach has a kind, and kinds are values, too. A kind says what its
values have: members, which are listed by sort, in the order in which they are shown. What a kind
does not say itself, the kinds it descends from may say.

* **`Kind`**, **`Kind.line`**: the kinds and their descent
* **`Facts`**, **`Kind.facts`**: what is known of each kind
* **`Entry`**, **`Kind.entry?`**: the entry of a kind that has a name
* **`Kind.find?`**: the same in the whole line
-/

namespace ExternalFields.Template

/-- The sorts of members: what a value does when an operator is applied to it, what it does when
asked by name, what its kind does then, what is worked out of it, and what it stores. -/
inductive MemberSort where
  | slot
  | method
  | kindMethod
  | property
  | field
  deriving DecidableEq, Repr

/-- The kinds of values. -/
inductive Kind where
  /-- Anything. -/
  | object
  | text
  | number
  /-- A truth value, which counts as a number. -/
  | flag
  | nothing
  | tuple
  | kind
  /-- The entries of a kind. -/
  | entries
  /-- A kind with an argument in brackets. -/
  | applied
  /-- A slot of a value. -/
  | boundSlot
  /-- A method of a value or of a kind. -/
  | boundMethod
  /-- A slot, not of any value. -/
  | slot
  | method
  | kindMethod
  | property
  | field
  deriving DecidableEq, Repr

/-- The kind of members of a sort. -/
def MemberSort.kind : MemberSort → Kind
  | .slot => .slot
  | .method => .method
  | .kindMethod => .kindMethod
  | .property => .property
  | .field => .field

/-- What is known of a kind. Names of members are parted by blanks. -/
structure Facts where
  name : String
  /-- The module that the kind belongs to. -/
  home : String := "builtins"
  /-- The octets that a value takes, and those that each item of it takes. -/
  size : Nat
  itemSize : Nat := 0
  /-- Where a value keeps its own names, and what watches it; zero if nowhere. -/
  tableOffset : Nat := 0
  weakOffset : Nat := 0
  flags : Nat
  /-- How values are made. -/
  signature : Option String := none
  /-- What is told about the kind. -/
  note : Option String := none
  slots : String := ""
  methods : String := ""
  kindMethods : String := ""
  fields : String := ""
  properties : String := ""
  /-- Whether the kind has a way of its own to make values. -/
  isMade : Bool := false

/-- The name of a kind, after that of its module unless it is the usual one. -/
def Facts.fullName (facts : Facts) : String :=
  if facts.home = "builtins" then facts.name else facts.home ++ "." ++ facts.name

namespace Kind

/-- A kind and those it descends from, the closest first. -/
def line : Kind → List Kind
  | .object => [.object]
  | .flag => [.flag, .number, .object]
  | k => [k, .object]

/-- The facts about each kind. -/
def facts : Kind → Facts
  | .object => {
    name := "object"
    size := 16
    flags := 529664
    signature := some "()"
    note := some (
      "The base class of the class hierarchy.\n\nWhen called, it accepts no arguments and "
      ++ "returns a new featureless\ninstance that has no instance attributes and cannot be given "
      ++ "any.\n")
    slots :=
      "__repr__ __hash__ __str__ __getattribute__ __setattr__ __delattr__ __lt__ __le__ __eq__ "
      ++ "__ne__ __gt__ __ge__ __init__"
    methods := "__reduce_ex__ __reduce__ __getstate__ __format__ __sizeof__ __dir__"
    kindMethods := "__subclasshook__ __init_subclass__"
    properties := "__class__"
    isMade := true }
  | .text => {
    name := "str"
    size := 80
    flags := 273159424
    note := some (
      "str(object='') -> str\nstr(bytes_or_buffer[, encoding[, errors]]) -> str\n\nCreate a "
      ++ "new string object from the given object. If encoding or\nerrors is specified, then the "
      ++ "object must expose a data buffer\nthat will be decoded using the given encoding and "
      ++ "error handler.\nOtherwise, returns the result of object.__str__() (if defined)\nor "
      ++ "repr(object).\nencoding defaults to sys.getdefaultencoding().\nerrors defaults to "
      ++ "'strict'.")
    slots :=
      "__repr__ __hash__ __str__ __getattribute__ __lt__ __le__ __eq__ __ne__ __gt__ __ge__ "
      ++ "__iter__ __mod__ __rmod__ __len__ __getitem__ __add__ __mul__ __rmul__ __contains__"
    methods :=
      "encode replace split rsplit join capitalize casefold title center count expandtabs find "
      ++ "partition index ljust lower lstrip rfind rindex rjust rstrip rpartition splitlines strip "
      ++ "swapcase translate upper startswith endswith removeprefix removesuffix isascii islower "
      ++ "isupper istitle isspace isdecimal isdigit isnumeric isalpha isalnum isidentifier "
      ++ "isprintable zfill format format_map __format__ __sizeof__ __getnewargs__"
    isMade := true }
  | .number => {
    name := "int"
    size := 24
    itemSize := 4
    flags := 21501184
    note := some (
      "int([x]) -> integer\nint(x, base=10) -> integer\n\nConvert a number or string to an "
      ++ "integer, or return 0 if no arguments\nare given.  If x is a number, return x.__int__(). "
      ++ " For floating point\nnumbers, this truncates towards zero.\n\nIf x is not a number or "
      ++ "if base is given, then x must be a string,\nbytes, or bytearray instance representing "
      ++ "an integer literal in the\ngiven base.  The literal can be preceded by '+' or '-' and "
      ++ "be surrounded\nby whitespace.  The base defaults to 10.  Valid bases are 0 and 2-36.\n"
      ++ "Base 0 means to interpret the base from the string as an integer literal.\n>>> "
      ++ "int('0b100', base=0)\n4")
    slots :=
      "__repr__ __hash__ __getattribute__ __lt__ __le__ __eq__ __ne__ __gt__ __ge__ __add__ "
      ++ "__radd__ __sub__ __rsub__ __mul__ __rmul__ __mod__ __rmod__ __divmod__ __rdivmod__ "
      ++ "__pow__ __rpow__ __neg__ __pos__ __abs__ __bool__ __invert__ __lshift__ __rlshift__ "
      ++ "__rshift__ __rrshift__ __and__ __rand__ __xor__ __rxor__ __or__ __ror__ __int__ "
      ++ "__float__ __floordiv__ __rfloordiv__ __truediv__ __rtruediv__ __index__"
    methods :=
      "conjugate bit_length bit_count to_bytes as_integer_ratio __trunc__ __floor__ __ceil__ "
      ++ "__round__ __getnewargs__ __format__ __sizeof__"
    kindMethods := "from_bytes"
    properties := "real imag numerator denominator"
    isMade := true }
  | .flag => {
    name := "bool"
    size := 32
    itemSize := 4
    flags := 21500160
    note := some (
      "bool(x) -> bool\n\nReturns True when the argument x is true, False otherwise.\nThe "
      ++ "builtins True and False are the only two instances of the class bool.\nThe class bool "
      ++ "is a subclass of the class int, and cannot be subclassed.")
    slots := "__repr__ __and__ __rand__ __xor__ __rxor__ __or__ __ror__"
    isMade := true }
  | .nothing => {
    name := "NoneType"
    size := 16
    flags := 528640
    slots := "__repr__ __bool__"
    isMade := true }
  | .tuple => {
    name := "tuple"
    size := 24
    itemSize := 8
    flags := 71849248
    signature := some "(iterable=(), /)"
    note := some (
      "Built-in immutable sequence.\n\nIf no argument is given, the constructor returns an "
      ++ "empty tuple.\nIf iterable is specified the tuple is initialized from iterable's items.\n"
      ++ "\nIf the argument is a tuple, the return value is the same object.")
    slots :=
      "__repr__ __hash__ __getattribute__ __lt__ __le__ __eq__ __ne__ __gt__ __ge__ __iter__ "
      ++ "__len__ __getitem__ __add__ __mul__ __rmul__ __contains__"
    methods := "__getnewargs__ index count"
    kindMethods := "__class_getitem__"
    isMade := true }
  | .kind => {
    name := "type"
    size := 904
    itemSize := 40
    tableOffset := 264
    weakOffset := 368
    flags := 2148031744
    note := some (
      "type(object) -> the object's type\ntype(name, bases, dict, **kwds) -> a new type")
    slots := "__repr__ __call__ __getattribute__ __setattr__ __delattr__ __init__ __or__ __ror__"
    methods := "mro __subclasses__ __instancecheck__ __subclasscheck__ __dir__ __sizeof__"
    kindMethods := "__prepare__"
    fields :=
      "__basicsize__ __itemsize__ __flags__ __weakrefoffset__ __base__ __dictoffset__ __mro__"
    properties :=
      "__name__ __qualname__ __bases__ __module__ __abstractmethods__ __dict__ __doc__ "
      ++ "__text_signature__ __annotations__"
    isMade := true }
  | .entries => {
    name := "mappingproxy"
    size := 24
    flags := 545088
    slots :=
      "__repr__ __str__ __getattribute__ __lt__ __le__ __eq__ __ne__ __gt__ __ge__ __iter__ "
      ++ "__or__ __ror__ __ior__ __len__ __getitem__ __contains__"
    methods := "get keys values items copy __reversed__"
    kindMethods := "__class_getitem__"
    isMade := true }
  | .applied => {
    name := "GenericAlias"
    home := "types"
    size := 64
    weakOffset := 40
    flags := 548096
    note := some (
      "Represent a PEP 585 generic type\n\nE.g. for t = list[int], t.__origin__ is list and "
      ++ "t.__args__ is (int,).")
    slots :=
      "__repr__ __hash__ __call__ __getattribute__ __lt__ __le__ __eq__ __ne__ __gt__ __ge__ "
      ++ "__iter__ __or__ __ror__ __getitem__"
    methods := "__mro_entries__ __instancecheck__ __subclasscheck__ __reduce__ __dir__"
    fields := "__origin__ __args__ __unpacked__"
    properties := "__parameters__ __typing_unpacked_tuple_args__"
    isMade := true }
  | .boundSlot => {
    name := "method-wrapper"
    size := 32
    flags := 545152
    slots := "__repr__ __hash__ __call__ __getattribute__ __lt__ __le__ __eq__ __ne__ __gt__ __ge__"
    methods := "__reduce__"
    fields := "__self__"
    properties := "__objclass__ __name__ __qualname__ __doc__ __text_signature__" }
  | .boundMethod => {
    name := "builtin_function_or_method"
    size := 56
    weakOffset := 40
    flags := 547200
    slots := "__repr__ __hash__ __call__ __getattribute__ __lt__ __le__ __eq__ __ne__ __gt__ __ge__"
    methods := "__reduce__"
    fields := "__module__"
    properties := "__doc__ __name__ __qualname__ __self__ __text_signature__" }
  | .slot => {
    name := "wrapper_descriptor"
    size := 56
    flags := 676224
    slots := "__repr__ __call__ __getattribute__ __get__"
    methods := "__reduce__"
    fields := "__objclass__ __name__"
    properties := "__doc__ __qualname__ __text_signature__" }
  | .method => {
    name := "method_descriptor"
    size := 56
    flags := 678272
    slots := "__repr__ __call__ __getattribute__ __get__"
    methods := "__reduce__"
    fields := "__objclass__ __name__"
    properties := "__doc__ __qualname__ __text_signature__" }
  | .kindMethod => {
    name := "classmethod_descriptor"
    size := 56
    flags := 545152
    slots := "__repr__ __call__ __getattribute__ __get__"
    fields := "__objclass__ __name__"
    properties := "__doc__ __qualname__ __text_signature__" }
  | .property => {
    name := "getset_descriptor"
    size := 48
    flags := 545152
    slots := "__repr__ __getattribute__ __get__ __set__ __delete__"
    fields := "__objclass__ __name__"
    properties := "__doc__ __qualname__" }
  | .field => {
    name := "member_descriptor"
    size := 48
    flags := 545152
    slots := "__repr__ __getattribute__ __get__ __set__ __delete__"
    methods := "__reduce__"
    fields := "__objclass__ __name__"
    properties := "__doc__ __qualname__" }

end Kind

/-! ## Entries -/

/-- What a name stands for among the entries of a kind. -/
inductive Entry where
  | member (sort : MemberSort)
  /-- What makes values of the kind. -/
  | maker
  /-- What belongs to the kind, but to no value. -/
  | helper
  /-- A text, or nothing. -/
  | note (text : Option String)
  deriving DecidableEq, Repr

namespace Kind

/-- The members of a kind in the order in which they are shown. -/
def members (k : Kind) : List (MemberSort × String) :=
  let facts := k.facts
  [(.slot, facts.slots), (.method, facts.methods), (.kindMethod, facts.kindMethods),
    (.field, facts.fields), (.property, facts.properties)].flatMap fun (sort, names) =>
      ((names.splitOn " ").filter (!·.isEmpty)).map fun name => (sort, name)

/-- The entry of a kind that has a name. -/
def entry? (k : Kind) (name : String) : Option Entry :=
  match k.members.find? (·.2 == name) with
  | some (sort, _) => some (.member sort)
  | none =>
    if name == "__new__" && k.facts.isMade then some .maker
    else if name == "maketrans" && k == .text then some .helper
    else if name == "__doc__" then some (.note k.facts.note)
    else if name == "__hash__" && k == .entries then some (.note none)
    else none

/-- The entry that a name stands for in the line of a kind, and the kind that it is from. -/
def find? (k : Kind) (name : String) : Option (Kind × Entry) :=
  k.line.findSome? fun other => (other.entry? name).map fun entry => (other, entry)

end Kind

end ExternalFields.Template
