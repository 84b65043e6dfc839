/-!
The classes that exist before any value is made: their names, their ancestors, and what each of
them holds under which name, in the order in which it lists them.
-/

namespace VariableExplorer

/-- Names of one kind that a class defines side by side. -/
inductive NativeGroup
  /-- Bound to a value, an operation of its own kind. -/
  | method (names : List String)
  /-- Bound to a value, one of its special operations. -/
  | wrapper (names : List String)
  /-- Bound to the class. -/
  | classMethod (names : List String)
  /-- A function that is not bound at all. -/
  | function (names : List String)
  /-- A function in the language, bound to the value. -/
  | defined (names : List String)
  /-- A value computed from the bearer. -/
  | computed (names : List String)
  /-- A value stored in the bearer. -/
  | member (names : List String)
  | text (name content : String)
  | nothing (names : List String)
  deriving Repr

inductive NativeEntry
  | method
  | wrapper
  | classMethod
  | function
  | defined
  | computed
  | member
  | text (content : String)
  | nothing
  deriving Repr, DecidableEq

def NativeGroup.entries : NativeGroup → List (String × NativeEntry)
  | method names => names.map (·, .method)
  | wrapper names => names.map (·, .wrapper)
  | classMethod names => names.map (·, .classMethod)
  | function names => names.map (·, .function)
  | defined names => names.map (·, .defined)
  | computed names => names.map (·, .computed)
  | member names => names.map (·, .member)
  | text name content => [(name, .text content)]
  | nothing names => names.map (·, .nothing)

structure NativeClass where
  name : String
  /-- The name in messages about a value of the class. -/
  fullName : String := name
  /-- Empty for the classes that need no qualification. -/
  module : String := ""
  /-- The nearest first, without the class itself. -/
  ancestors : List String
  groups : List NativeGroup
  deriving Repr

namespace NativeClass

def entries (c : NativeClass) : List (String × NativeEntry) := c.groups.flatMap NativeGroup.entries

def objectClass : NativeClass where
  name := "object"
  ancestors := []
  groups := [
    .function ["__new__"],
    .wrapper [
      "__repr__", "__hash__", "__str__", "__getattribute__", "__setattr__", "__delattr__",
      "__lt__", "__le__", "__eq__", "__ne__", "__gt__", "__ge__", "__init__"],
    .method ["__reduce_ex__", "__reduce__", "__getstate__"],
    .classMethod ["__subclasshook__", "__init_subclass__"],
    .method ["__format__", "__sizeof__", "__dir__"],
    .computed ["__class__"],
    .text "__doc__"
      ("The base class of the class hierarchy.\n\nWhen called, it accepts no arguments and " ++
      "returns a new featureless\ninstance that has no instance attributes and cannot be " ++
      "given any.\n")]

def classClass : NativeClass where
  name := "type"
  ancestors := ["object"]
  groups := [
    .function ["__new__"],
    .wrapper [
      "__repr__", "__call__", "__getattribute__", "__setattr__", "__delattr__", "__init__",
      "__or__", "__ror__"],
    .method ["mro", "__subclasses__"],
    .classMethod ["__prepare__"],
    .method ["__instancecheck__", "__subclasscheck__", "__dir__", "__sizeof__"],
    .member [
      "__basicsize__", "__itemsize__", "__flags__", "__weakrefoffset__", "__base__",
      "__dictoffset__", "__mro__"],
    .computed [
      "__name__", "__qualname__", "__bases__", "__module__", "__abstractmethods__", "__dict__",
      "__doc__", "__text_signature__", "__annotations__"]]

def intClass : NativeClass where
  name := "int"
  ancestors := ["object"]
  groups := [
    .function ["__new__"],
    .wrapper [
      "__repr__", "__hash__", "__getattribute__", "__lt__", "__le__", "__eq__", "__ne__",
      "__gt__", "__ge__", "__add__", "__radd__", "__sub__", "__rsub__", "__mul__", "__rmul__",
      "__mod__", "__rmod__", "__divmod__", "__rdivmod__", "__pow__", "__rpow__", "__neg__",
      "__pos__", "__abs__", "__bool__", "__invert__", "__lshift__", "__rlshift__", "__rshift__",
      "__rrshift__", "__and__", "__rand__", "__xor__", "__rxor__", "__or__", "__ror__",
      "__int__", "__float__", "__floordiv__", "__rfloordiv__", "__truediv__", "__rtruediv__",
      "__index__"],
    .method ["conjugate", "bit_length", "bit_count", "to_bytes"],
    .classMethod ["from_bytes"],
    .method [
      "as_integer_ratio", "__trunc__", "__floor__", "__ceil__", "__round__", "__getnewargs__",
      "__format__", "__sizeof__"],
    .computed ["real", "imag", "numerator", "denominator"],
    .text "__doc__"
      ("int([x]) -> integer\nint(x, base=10) -> integer\n\nConvert a number or string to an " ++
      "integer, or return 0 if no arguments\nare given.  If x is a number, return " ++
      "x.__int__().  For floating point\nnumbers, this truncates towards zero.\n\nIf x is not " ++
      "a number or if base is given, then x must be a string,\nbytes, or bytearray instance " ++
      "representing an integer literal in the\ngiven base.  The literal can be preceded by " ++
      "'+' or '-' and be surrounded\nby whitespace.  The base defaults to 10.  Valid bases " ++
      "are 0 and 2-36.\nBase 0 means to interpret the base from the string as an integer " ++
      "literal.\n>>> int('0b100', base=0)\n4")]

def boolClass : NativeClass where
  name := "bool"
  ancestors := ["int", "object"]
  groups := [
    .function ["__new__"],
    .wrapper ["__repr__", "__and__", "__rand__", "__xor__", "__rxor__", "__or__", "__ror__"],
    .text "__doc__"
      ("bool(x) -> bool\n\nReturns True when the argument x is true, False otherwise.\nThe " ++
      "builtins True and False are the only two instances of the class bool.\nThe class bool " ++
      "is a subclass of the class int, and cannot be subclassed.")]

def floatClass : NativeClass where
  name := "float"
  ancestors := ["object"]
  groups := [
    .function ["__new__"],
    .wrapper [
      "__repr__", "__hash__", "__getattribute__", "__lt__", "__le__", "__eq__", "__ne__",
      "__gt__", "__ge__", "__add__", "__radd__", "__sub__", "__rsub__", "__mul__", "__rmul__",
      "__mod__", "__rmod__", "__divmod__", "__rdivmod__", "__pow__", "__rpow__", "__neg__",
      "__pos__", "__abs__", "__bool__", "__int__", "__float__", "__floordiv__", "__rfloordiv__",
      "__truediv__", "__rtruediv__"],
    .method ["conjugate", "__trunc__", "__floor__", "__ceil__", "__round__", "as_integer_ratio"],
    .classMethod ["fromhex"],
    .method ["hex", "is_integer", "__getnewargs__"],
    .classMethod ["__getformat__"],
    .method ["__format__"],
    .computed ["real", "imag"],
    .text "__doc__" "Convert a string or number to a floating point number, if possible."]

def complexClass : NativeClass where
  name := "complex"
  ancestors := ["object"]
  groups := [
    .function ["__new__"],
    .wrapper [
      "__repr__", "__hash__", "__getattribute__", "__lt__", "__le__", "__eq__", "__ne__",
      "__gt__", "__ge__", "__add__", "__radd__", "__sub__", "__rsub__", "__mul__", "__rmul__",
      "__pow__", "__rpow__", "__neg__", "__pos__", "__abs__", "__bool__", "__truediv__",
      "__rtruediv__"],
    .method ["conjugate", "__complex__", "__getnewargs__", "__format__"],
    .member ["real", "imag"],
    .text "__doc__"
      ("Create a complex number from a real part and an optional imaginary part.\n\nThis is " ++
      "equivalent to (real + imag*1j) where imag defaults to 0.")]

def strClass : NativeClass where
  name := "str"
  ancestors := ["object"]
  groups := [
    .function ["__new__"],
    .wrapper [
      "__repr__", "__hash__", "__str__", "__getattribute__", "__lt__", "__le__", "__eq__",
      "__ne__", "__gt__", "__ge__", "__iter__", "__mod__", "__rmod__", "__len__", "__getitem__",
      "__add__", "__mul__", "__rmul__", "__contains__"],
    .method [
      "encode", "replace", "split", "rsplit", "join", "capitalize", "casefold", "title",
      "center", "count", "expandtabs", "find", "partition", "index", "ljust", "lower", "lstrip",
      "rfind", "rindex", "rjust", "rstrip", "rpartition", "splitlines", "strip", "swapcase",
      "translate", "upper", "startswith", "endswith", "removeprefix", "removesuffix", "isascii",
      "islower", "isupper", "istitle", "isspace", "isdecimal", "isdigit", "isnumeric", "isalpha",
      "isalnum", "isidentifier", "isprintable", "zfill", "format", "format_map", "__format__"],
    .function ["maketrans"],
    .method ["__sizeof__", "__getnewargs__"],
    .text "__doc__"
      ("str(object='') -> str\nstr(bytes_or_buffer[, encoding[, errors]]) -> str\n\nCreate a " ++
      "new string object from the given object. If encoding or\nerrors is specified, then the " ++
      "object must expose a data buffer\nthat will be decoded using the given encoding and " ++
      "error handler.\nOtherwise, returns the result of object.__str__() (if defined)\nor " ++
      "repr(object).\nencoding defaults to sys.getdefaultencoding().\nerrors defaults to " ++
      "'strict'.")]

def bytesClass : NativeClass where
  name := "bytes"
  ancestors := ["object"]
  groups := [
    .function ["__new__"],
    .wrapper [
      "__repr__", "__hash__", "__str__", "__getattribute__", "__lt__", "__le__", "__eq__",
      "__ne__", "__gt__", "__ge__", "__iter__", "__mod__", "__rmod__", "__len__", "__getitem__",
      "__add__", "__mul__", "__rmul__", "__contains__"],
    .method [
      "__getnewargs__", "__bytes__", "capitalize", "center", "count", "decode", "endswith",
      "expandtabs", "find"],
    .classMethod ["fromhex"],
    .method [
      "hex", "index", "isalnum", "isalpha", "isascii", "isdigit", "islower", "isspace",
      "istitle", "isupper", "join", "ljust", "lower", "lstrip"],
    .function ["maketrans"],
    .method [
      "partition", "replace", "removeprefix", "removesuffix", "rfind", "rindex", "rjust",
      "rpartition", "rsplit", "rstrip", "split", "splitlines", "startswith", "strip", "swapcase",
      "title", "translate", "upper", "zfill"],
    .text "__doc__"
      ("bytes(iterable_of_ints) -> bytes\nbytes(string, encoding[, errors]) -> " ++
      "bytes\nbytes(bytes_or_buffer) -> immutable copy of bytes_or_buffer\nbytes(int) -> " ++
      "bytes object of size given by the parameter initialized with null bytes\nbytes() -> " ++
      "empty bytes object\n\nConstruct an immutable array of bytes from:\n  - an iterable " ++
      "yielding integers in range(256)\n  - a text string encoded using the specified " ++
      "encoding\n  - any object implementing the buffer API.\n  - an integer")]

def bytearrayClass : NativeClass where
  name := "bytearray"
  ancestors := ["object"]
  groups := [
    .function ["__new__"],
    .wrapper [
      "__repr__", "__str__", "__getattribute__", "__lt__", "__le__", "__eq__", "__ne__",
      "__gt__", "__ge__", "__iter__", "__init__", "__mod__", "__rmod__", "__len__",
      "__getitem__", "__setitem__", "__delitem__", "__add__", "__mul__", "__rmul__",
      "__contains__", "__iadd__", "__imul__"],
    .method [
      "__alloc__", "__reduce__", "__reduce_ex__", "__sizeof__", "append", "capitalize", "center",
      "clear", "copy", "count", "decode", "endswith", "expandtabs", "extend", "find"],
    .classMethod ["fromhex"],
    .method [
      "hex", "index", "insert", "isalnum", "isalpha", "isascii", "isdigit", "islower", "isspace",
      "istitle", "isupper", "join", "ljust", "lower", "lstrip"],
    .function ["maketrans"],
    .method [
      "partition", "pop", "remove", "replace", "removeprefix", "removesuffix", "reverse",
      "rfind", "rindex", "rjust", "rpartition", "rsplit", "rstrip", "split", "splitlines",
      "startswith", "strip", "swapcase", "title", "translate", "upper", "zfill"],
    .text "__doc__"
      ("bytearray(iterable_of_ints) -> bytearray\nbytearray(string, encoding[, errors]) -> " ++
      "bytearray\nbytearray(bytes_or_buffer) -> mutable copy of " ++
      "bytes_or_buffer\nbytearray(int) -> bytes array of size given by the parameter " ++
      "initialized with null bytes\nbytearray() -> empty bytes array\n\nConstruct a mutable " ++
      "bytearray object from:\n  - an iterable yielding integers in range(256)\n  - a text " ++
      "string encoded using the specified encoding\n  - a bytes or a buffer object\n  - any " ++
      "object implementing the buffer API.\n  - an integer"),
    .nothing ["__hash__"]]

def listClass : NativeClass where
  name := "list"
  ancestors := ["object"]
  groups := [
    .function ["__new__"],
    .wrapper ["__repr__"],
    .nothing ["__hash__"],
    .wrapper [
      "__getattribute__", "__lt__", "__le__", "__eq__", "__ne__", "__gt__", "__ge__", "__iter__",
      "__init__", "__len__"],
    .method ["__getitem__"],
    .wrapper [
      "__setitem__", "__delitem__", "__add__", "__mul__", "__rmul__", "__contains__", "__iadd__",
      "__imul__"],
    .method [
      "__reversed__", "__sizeof__", "clear", "copy", "append", "insert", "extend", "pop",
      "remove", "index", "count", "reverse", "sort"],
    .classMethod ["__class_getitem__"],
    .text "__doc__"
      ("Built-in mutable sequence.\n\nIf no argument is given, the constructor creates a new " ++
      "empty list.\nThe argument must be an iterable if specified.")]

def tupleClass : NativeClass where
  name := "tuple"
  ancestors := ["object"]
  groups := [
    .function ["__new__"],
    .wrapper [
      "__repr__", "__hash__", "__getattribute__", "__lt__", "__le__", "__eq__", "__ne__",
      "__gt__", "__ge__", "__iter__", "__len__", "__getitem__", "__add__", "__mul__", "__rmul__",
      "__contains__"],
    .method ["__getnewargs__", "index", "count"],
    .classMethod ["__class_getitem__"],
    .text "__doc__"
      ("Built-in immutable sequence.\n\nIf no argument is given, the constructor returns an " ++
      "empty tuple.\nIf iterable is specified the tuple is initialized from iterable's " ++
      "items.\n\nIf the argument is a tuple, the return value is the same object.")]

def dictClass : NativeClass where
  name := "dict"
  ancestors := ["object"]
  groups := [
    .function ["__new__"],
    .wrapper ["__repr__"],
    .nothing ["__hash__"],
    .wrapper [
      "__getattribute__", "__lt__", "__le__", "__eq__", "__ne__", "__gt__", "__ge__", "__iter__",
      "__init__", "__or__", "__ror__", "__ior__", "__len__"],
    .method ["__getitem__"],
    .wrapper ["__setitem__", "__delitem__"],
    .method [
      "__contains__", "__sizeof__", "get", "setdefault", "pop", "popitem", "keys", "items",
      "values", "update"],
    .classMethod ["fromkeys"],
    .method ["clear", "copy", "__reversed__"],
    .classMethod ["__class_getitem__"],
    .text "__doc__"
      ("dict() -> new empty dictionary\ndict(mapping) -> new dictionary initialized from a " ++
      "mapping object's\n    (key, value) pairs\ndict(iterable) -> new dictionary initialized " ++
      "as if via:\n    d = \x7b\x7d\n    for k, v in iterable:\n        d[k] = " ++
      "v\ndict(**kwargs) -> new dictionary initialized with the name=value pairs\n    in the " ++
      "keyword argument list.  For example:  dict(one=1, two=2)")]

def setClass : NativeClass where
  name := "set"
  ancestors := ["object"]
  groups := [
    .function ["__new__"],
    .wrapper ["__repr__"],
    .nothing ["__hash__"],
    .wrapper [
      "__getattribute__", "__lt__", "__le__", "__eq__", "__ne__", "__gt__", "__ge__", "__iter__",
      "__init__", "__sub__", "__rsub__", "__and__", "__rand__", "__xor__", "__rxor__", "__or__",
      "__ror__", "__isub__", "__iand__", "__ixor__", "__ior__", "__len__"],
    .method [
      "__contains__", "add", "clear", "copy", "discard", "difference", "difference_update",
      "intersection", "intersection_update", "isdisjoint", "issubset", "issuperset", "pop",
      "__reduce__", "remove", "__sizeof__", "symmetric_difference",
      "symmetric_difference_update", "union", "update"],
    .classMethod ["__class_getitem__"],
    .text "__doc__"
      ("set() -> new empty set object\nset(iterable) -> new set object\n\nBuild an unordered " ++
      "collection of unique elements.")]

def frozensetClass : NativeClass where
  name := "frozenset"
  ancestors := ["object"]
  groups := [
    .function ["__new__"],
    .wrapper [
      "__repr__", "__hash__", "__getattribute__", "__lt__", "__le__", "__eq__", "__ne__",
      "__gt__", "__ge__", "__iter__", "__sub__", "__rsub__", "__and__", "__rand__", "__xor__",
      "__rxor__", "__or__", "__ror__", "__len__"],
    .method [
      "__contains__", "copy", "difference", "intersection", "isdisjoint", "issubset",
      "issuperset", "__reduce__", "__sizeof__", "symmetric_difference", "union"],
    .classMethod ["__class_getitem__"],
    .text "__doc__"
      ("frozenset() -> empty frozenset object\nfrozenset(iterable) -> frozenset " ++
      "object\n\nBuild an immutable unordered collection of unique elements.")]

def rangeClass : NativeClass where
  name := "range"
  ancestors := ["object"]
  groups := [
    .function ["__new__"],
    .wrapper [
      "__repr__", "__hash__", "__getattribute__", "__lt__", "__le__", "__eq__", "__ne__",
      "__gt__", "__ge__", "__iter__", "__bool__", "__len__", "__getitem__", "__contains__"],
    .method ["__reversed__", "__reduce__", "count", "index"],
    .member ["start", "stop", "step"],
    .text "__doc__"
      ("range(stop) -> range object\nrange(start, stop[, step]) -> range object\n\nReturn an " ++
      "object that produces a sequence of integers from start (inclusive)\nto stop " ++
      "(exclusive) by step.  range(i, j) produces i, i+1, i+2, ..., j-1.\nstart defaults to " ++
      "0, and stop is omitted!  range(4) produces 0, 1, 2, 3.\nThese are exactly the valid " ++
      "indices for a list of 4 elements.\nWhen step is given, it specifies the increment (or " ++
      "decrement).")]

def sliceClass : NativeClass where
  name := "slice"
  ancestors := ["object"]
  groups := [
    .function ["__new__"],
    .wrapper ["__repr__"],
    .nothing ["__hash__"],
    .wrapper ["__getattribute__", "__lt__", "__le__", "__eq__", "__ne__", "__gt__", "__ge__"],
    .method ["indices", "__reduce__"],
    .member ["start", "stop", "step"],
    .text "__doc__"
      ("slice(stop)\nslice(start, stop[, step])\n\nCreate a slice object.  This is used for " ++
      "extended slicing (e.g. a[0:10:2]).")]

def noneClass : NativeClass where
  name := "NoneType"
  ancestors := ["object"]
  groups := [
    .function ["__new__"],
    .wrapper ["__repr__", "__bool__"],
    .nothing ["__doc__"]]

def ellipsisClass : NativeClass where
  name := "ellipsis"
  ancestors := ["object"]
  groups := [
    .function ["__new__"],
    .wrapper ["__repr__", "__getattribute__"],
    .method ["__reduce__"],
    .nothing ["__doc__"]]

def functionClass : NativeClass where
  name := "function"
  ancestors := ["object"]
  groups := [
    .function ["__new__"],
    .wrapper ["__repr__", "__call__", "__get__"],
    .member ["__closure__", "__doc__", "__globals__", "__module__", "__builtins__"],
    .computed [
      "__code__", "__defaults__", "__kwdefaults__", "__annotations__", "__dict__", "__name__",
      "__qualname__"]]

def methodClass : NativeClass where
  name := "method"
  ancestors := ["object"]
  groups := [
    .function ["__new__"],
    .wrapper [
      "__repr__", "__hash__", "__call__", "__getattribute__", "__setattr__", "__delattr__",
      "__lt__", "__le__", "__eq__", "__ne__", "__gt__", "__ge__"],
    .method ["__reduce__"],
    .member ["__func__", "__self__"],
    .computed ["__doc__"]]

def builtinClass : NativeClass where
  name := "builtin_function_or_method"
  ancestors := ["object"]
  groups := [
    .wrapper [
      "__repr__", "__hash__", "__call__", "__getattribute__", "__lt__", "__le__", "__eq__",
      "__ne__", "__gt__", "__ge__"],
    .method ["__reduce__"],
    .member ["__module__"],
    .computed ["__doc__", "__name__", "__qualname__", "__self__", "__text_signature__"]]

def methodWrapperClass : NativeClass where
  name := "method-wrapper"
  ancestors := ["object"]
  groups := [
    .wrapper [
      "__repr__", "__hash__", "__call__", "__getattribute__", "__lt__", "__le__", "__eq__",
      "__ne__", "__gt__", "__ge__"],
    .method ["__reduce__"],
    .member ["__self__"],
    .computed ["__objclass__", "__name__", "__qualname__", "__doc__", "__text_signature__"]]

def wrapperDescriptorClass : NativeClass where
  name := "wrapper_descriptor"
  ancestors := ["object"]
  groups := [
    .wrapper ["__repr__", "__call__", "__getattribute__", "__get__"],
    .method ["__reduce__"],
    .member ["__objclass__", "__name__"],
    .computed ["__doc__", "__qualname__", "__text_signature__"]]

def methodDescriptorClass : NativeClass where
  name := "method_descriptor"
  ancestors := ["object"]
  groups := [
    .wrapper ["__repr__", "__call__", "__getattribute__", "__get__"],
    .method ["__reduce__"],
    .member ["__objclass__", "__name__"],
    .computed ["__doc__", "__qualname__", "__text_signature__"]]

def classMethodDescriptorClass : NativeClass where
  name := "classmethod_descriptor"
  ancestors := ["object"]
  groups := [
    .wrapper ["__repr__", "__call__", "__getattribute__", "__get__"],
    .member ["__objclass__", "__name__"],
    .computed ["__doc__", "__qualname__", "__text_signature__"]]

def computedDescriptorClass : NativeClass where
  name := "getset_descriptor"
  ancestors := ["object"]
  groups := [
    .wrapper ["__repr__", "__getattribute__", "__get__", "__set__", "__delete__"],
    .member ["__objclass__", "__name__"],
    .computed ["__doc__", "__qualname__"]]

def memberDescriptorClass : NativeClass where
  name := "member_descriptor"
  ancestors := ["object"]
  groups := [
    .wrapper ["__repr__", "__getattribute__", "__get__", "__set__", "__delete__"],
    .method ["__reduce__"],
    .member ["__objclass__", "__name__"],
    .computed ["__doc__", "__qualname__"]]

def propertyClass : NativeClass where
  name := "property"
  ancestors := ["object"]
  groups := [
    .function ["__new__"],
    .wrapper ["__getattribute__", "__get__", "__set__", "__delete__", "__init__"],
    .method ["getter", "setter", "deleter", "__set_name__"],
    .member ["fget", "fset", "fdel", "__doc__"],
    .computed ["__isabstractmethod__"]]

def partialClass : NativeClass where
  name := "partial"
  module := "functools"
  fullName := "functools.partial"
  ancestors := ["object"]
  groups := [
    .function ["__new__"],
    .wrapper ["__repr__", "__call__", "__getattribute__", "__setattr__", "__delattr__"],
    .method ["__reduce__", "__setstate__"],
    .classMethod ["__class_getitem__"],
    .member ["func", "args", "keywords", "__vectorcalloffset__"],
    .computed ["__dict__"],
    .text "__doc__"
      ("partial(func, *args, **keywords) - new function with partial application\n    of the " ++
      "given arguments and keywords.\n"),
    .text "__module__" "functools"]

def moduleClass : NativeClass where
  name := "module"
  ancestors := ["object"]
  groups := [
    .function ["__new__"],
    .wrapper ["__repr__", "__getattribute__", "__setattr__", "__delattr__", "__init__"],
    .method ["__dir__"],
    .member ["__dict__"],
    .computed ["__annotations__"],
    .text "__doc__"
      ("Create a module object.\n\nThe name must be a string; the optional doc argument can " ++
      "have any type.")]

def namespaceClass : NativeClass where
  name := "SimpleNamespace"
  module := "types"
  fullName := "types.SimpleNamespace"
  ancestors := ["object"]
  groups := [
    .function ["__new__"],
    .wrapper [
      "__repr__", "__getattribute__", "__setattr__", "__delattr__", "__lt__", "__le__", "__eq__",
      "__ne__", "__gt__", "__ge__", "__init__"],
    .method ["__reduce__"],
    .member ["__dict__"],
    .text "__doc__" "A simple attribute-based namespace.\n\nSimpleNamespace(**kwargs)",
    .nothing ["__hash__"]]

def orderedClass : NativeClass where
  name := "OrderedDict"
  module := "collections"
  fullName := "collections.OrderedDict"
  ancestors := ["dict", "object"]
  groups := [
    .wrapper [
      "__repr__", "__lt__", "__le__", "__eq__", "__ne__", "__gt__", "__ge__", "__iter__",
      "__init__", "__or__", "__ror__", "__ior__", "__setitem__", "__delitem__"],
    .classMethod ["fromkeys"],
    .method [
      "__sizeof__", "__reduce__", "setdefault", "pop", "popitem", "keys", "values", "items",
      "update", "clear", "copy", "__reversed__", "move_to_end"],
    .computed ["__dict__"],
    .text "__doc__" "Dictionary that remembers insertion order",
    .nothing ["__hash__"]]

def proxyClass : NativeClass where
  name := "mappingproxy"
  ancestors := ["object"]
  groups := [
    .function ["__new__"],
    .wrapper [
      "__repr__", "__str__", "__getattribute__", "__lt__", "__le__", "__eq__", "__ne__",
      "__gt__", "__ge__", "__iter__", "__or__", "__ror__", "__ior__", "__len__", "__getitem__",
      "__contains__"],
    .method ["get", "keys", "values", "items", "copy"],
    .classMethod ["__class_getitem__"],
    .method ["__reversed__"],
    .nothing ["__doc__", "__hash__"]]

def exceptionClass : NativeClass where
  name := "BaseException"
  ancestors := ["object"]
  groups := [
    .function ["__new__"],
    .wrapper ["__repr__", "__str__", "__getattribute__", "__setattr__", "__delattr__", "__init__"],
    .method ["__reduce__", "__setstate__", "with_traceback", "add_note"],
    .member ["__suppress_context__"],
    .computed ["__dict__", "args", "__traceback__", "__context__", "__cause__"],
    .text "__doc__" "Common base class for all exceptions"]

def MappingClass : NativeClass where
  name := "Mapping"
  module := "collections.abc"
  ancestors := ["Collection", "Sized", "Iterable", "Container", "object"]
  groups := [
    .defined ["__getitem__", "get", "__contains__", "keys", "items", "values", "__eq__"],
    .nothing ["__reversed__", "__hash__"]]

def CollectionClass : NativeClass where
  name := "Collection"
  module := "collections.abc"
  ancestors := ["Sized", "Iterable", "Container", "object"]
  groups := [
    .classMethod ["__subclasshook__"]]

def SizedClass : NativeClass where
  name := "Sized"
  module := "collections.abc"
  ancestors := ["object"]
  groups := [
    .defined ["__len__"],
    .classMethod ["__subclasshook__"]]

def IterableClass : NativeClass where
  name := "Iterable"
  module := "collections.abc"
  ancestors := ["object"]
  groups := [
    .defined ["__iter__"],
    .classMethod ["__subclasshook__", "__class_getitem__"]]

def ContainerClass : NativeClass where
  name := "Container"
  module := "collections.abc"
  ancestors := ["object"]
  groups := [
    .defined ["__contains__"],
    .classMethod ["__subclasshook__", "__class_getitem__"]]

def exceptionParents : List (String × String) := [
  ("ArithmeticError", "Exception"), ("AssertionError", "Exception"),
  ("AttributeError", "Exception"), ("BaseExceptionGroup", "BaseException"),
  ("BlockingIOError", "OSError"), ("BrokenPipeError", "ConnectionError"),
  ("BufferError", "Exception"), ("BytesWarning", "Warning"), ("ChildProcessError", "OSError"),
  ("ConnectionAbortedError", "ConnectionError"), ("ConnectionError", "OSError"),
  ("ConnectionRefusedError", "ConnectionError"), ("ConnectionResetError", "ConnectionError"),
  ("DeprecationWarning", "Warning"), ("EOFError", "Exception"), ("EncodingWarning", "Warning"),
  ("Exception", "BaseException"), ("ExceptionGroup", "BaseExceptionGroup"),
  ("FileExistsError", "OSError"), ("FileNotFoundError", "OSError"),
  ("FloatingPointError", "ArithmeticError"), ("FutureWarning", "Warning"),
  ("GeneratorExit", "BaseException"), ("ImportError", "Exception"), ("ImportWarning", "Warning"),
  ("IndentationError", "SyntaxError"), ("IndexError", "LookupError"),
  ("InterruptedError", "OSError"), ("IsADirectoryError", "OSError"), ("KeyError", "LookupError"),
  ("KeyboardInterrupt", "BaseException"), ("LookupError", "Exception"),
  ("MemoryError", "Exception"), ("ModuleNotFoundError", "ImportError"),
  ("NameError", "Exception"), ("NotADirectoryError", "OSError"),
  ("NotImplementedError", "RuntimeError"), ("OSError", "Exception"),
  ("OverflowError", "ArithmeticError"), ("PendingDeprecationWarning", "Warning"),
  ("PermissionError", "OSError"), ("ProcessLookupError", "OSError"),
  ("RecursionError", "RuntimeError"), ("ReferenceError", "Exception"),
  ("ResourceWarning", "Warning"), ("RuntimeError", "Exception"), ("RuntimeWarning", "Warning"),
  ("StopAsyncIteration", "Exception"), ("StopIteration", "Exception"),
  ("SyntaxError", "Exception"), ("SyntaxWarning", "Warning"), ("SystemError", "Exception"),
  ("SystemExit", "BaseException"), ("TabError", "IndentationError"), ("TimeoutError", "OSError"),
  ("TypeError", "Exception"), ("UnboundLocalError", "NameError"),
  ("UnicodeDecodeError", "UnicodeError"), ("UnicodeEncodeError", "UnicodeError"),
  ("UnicodeError", "ValueError"), ("UnicodeTranslateError", "UnicodeError"),
  ("UnicodeWarning", "Warning"), ("UserWarning", "Warning"), ("ValueError", "Exception"),
  ("Warning", "Exception"), ("ZeroDivisionError", "ArithmeticError")]

def exceptionChain : (fuel : Nat) → String → List String
  | 0, name => [name]
  | fuel + 1, name =>
    match exceptionParents.lookup name with
    | some parent => name :: exceptionChain fuel parent
    | none => [name]

def all : List NativeClass := [
  objectClass, classClass, intClass, boolClass, floatClass, complexClass, strClass, bytesClass,
  bytearrayClass, listClass, tupleClass, dictClass, setClass, frozensetClass, rangeClass,
  sliceClass, noneClass, ellipsisClass, functionClass, methodClass, builtinClass,
  methodWrapperClass, wrapperDescriptorClass, methodDescriptorClass, classMethodDescriptorClass,
  computedDescriptorClass, memberDescriptorClass, propertyClass, partialClass, moduleClass,
  namespaceClass, orderedClass, proxyClass, exceptionClass, MappingClass, CollectionClass,
  SizedClass, IterableClass, ContainerClass]

/-- The class of a name; an exception class defines nothing beyond its ancestors. -/
def find? (name : String) : Option NativeClass :=
  match all.find? (·.name = name) with
  | some c => some c
  | none =>
    if (exceptionParents.lookup name).isSome then
      some ⟨name, name, "", (exceptionChain 10 name).tail ++ ["object"], []⟩
    else none

end NativeClass

end VariableExplorer
