import VariableExplorer.Value.Equality

/-!
The names that are known everywhere, and what they stand for.
-/

namespace VariableExplorer

def named (make : String → Value) (names : List String) : List (String × Value) :=
  names.map fun name ↦ (name, make name)

def universalNames : List (String × Value) :=
  [
    ("__name__", .str "builtins"), ("__doc__", .none), ("__package__", .none),
    ("__loader__", .native "BuiltinImporter"), ("__spec__", .none)] ++
  named .function [
    "__build_class__", "__import__", "abs", "all", "any", "ascii", "bin", "breakpoint",
    "callable", "chr", "compile", "delattr", "dir", "divmod", "eval", "exec", "format",
    "getattr", "globals", "hasattr", "hash", "hex", "id", "input", "isinstance", "issubclass",
    "iter", "aiter", "len", "locals", "max", "min", "next", "anext", "oct", "ord", "pow",
    "print", "repr", "round", "setattr", "sorted", "sum", "vars"] ++
  [
    ("None", .none), ("Ellipsis", .ellipsis), ("NotImplemented", .none), ("False", .bool false),
    ("True", .bool true)] ++
  named .native [
    "bool", "memoryview", "bytearray", "bytes", "classmethod", "complex", "dict", "enumerate",
    "filter", "float", "frozenset", "property", "int", "list", "map", "object", "range",
    "reversed", "set", "slice", "staticmethod", "str", "super", "tuple", "type", "zip"] ++
  [
    ("__debug__", .bool true)] ++
  named .native [
    "BaseException", "BaseExceptionGroup", "Exception", "GeneratorExit", "KeyboardInterrupt",
    "SystemExit", "ArithmeticError", "AssertionError", "AttributeError", "BufferError",
    "EOFError", "ImportError", "LookupError", "MemoryError", "NameError", "OSError",
    "ReferenceError", "RuntimeError", "StopAsyncIteration", "StopIteration", "SyntaxError",
    "SystemError", "TypeError", "ValueError", "Warning", "FloatingPointError", "OverflowError",
    "ZeroDivisionError", "BytesWarning", "DeprecationWarning", "EncodingWarning",
    "FutureWarning", "ImportWarning", "PendingDeprecationWarning", "ResourceWarning",
    "RuntimeWarning", "SyntaxWarning", "UnicodeWarning", "UserWarning", "BlockingIOError",
    "ChildProcessError", "ConnectionError", "FileExistsError", "FileNotFoundError",
    "InterruptedError", "IsADirectoryError", "NotADirectoryError", "PermissionError",
    "ProcessLookupError", "TimeoutError", "IndentationError", "IndexError", "KeyError",
    "ModuleNotFoundError", "NotImplementedError", "RecursionError", "UnboundLocalError",
    "UnicodeError", "BrokenPipeError", "ConnectionAbortedError", "ConnectionRefusedError",
    "ConnectionResetError", "TabError", "UnicodeDecodeError", "UnicodeEncodeError",
    "UnicodeTranslateError", "ExceptionGroup"] ++
  [
    ("EnvironmentError", .native "OSError"), ("IOError", .native "OSError")] ++
  named .function [
    "open"] ++
  [
    ("quit", .none), ("exit", .none), ("copyright", .none), ("credits", .none),
    ("license", .none), ("help", .none)]

end VariableExplorer
