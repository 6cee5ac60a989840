import PicAssembly.Recorded.Name

/-!
# Names that recorded scripts know

What names stand for before a script binds them: functions, types, exceptions and a few values, and
what a script brings in from the library.
-/

namespace PicAssembly.Recorded.Known

/-- The functions that are known everywhere. -/
def functions : List String :=
  [ "__build_class__", "__import__", "abs", "aiter", "all", "anext", "any", "ascii", "bin",
    "breakpoint", "callable", "chr", "compile", "delattr", "dir", "divmod", "eval", "exec",
    "format", "getattr", "globals", "hasattr", "hash", "hex", "id", "input", "isinstance",
    "issubclass", "iter", "len", "locals", "max", "min", "next", "oct", "open", "ord", "pow",
    "print", "repr", "round", "setattr", "sorted", "sum", "vars" ]

/-- The types that are known everywhere. -/
def types : List String :=
  [ "bool", "bytearray", "bytes", "classmethod", "complex", "dict", "enumerate", "filter", "float",
    "frozenset", "int", "list", "map", "memoryview", "object", "property", "range", "reversed",
    "set", "slice", "staticmethod", "str", "super", "tuple", "type", "zip" ]

/-- The exceptions, with the one that the library has of its own. -/
def exceptions : List String :=
  [ "ArithmeticError", "AssertionError", "AttributeError", "BaseException", "BaseExceptionGroup",
    "BlockingIOError", "BrokenPipeError", "BufferError", "BytesWarning", "ChildProcessError",
    "ConnectionAbortedError", "ConnectionError", "ConnectionRefusedError", "ConnectionResetError",
    "DeprecationWarning", "EOFError", "EncodingWarning", "Exception", "ExceptionGroup",
    "FileExistsError", "FileNotFoundError", "FloatingPointError", "FutureWarning", "GeneratorExit",
    "ImportError", "ImportWarning", "IndentationError", "IndexError", "InterruptedError",
    "InvalidPinError", "IsADirectoryError", "KeyError", "KeyboardInterrupt", "LookupError",
    "MemoryError", "ModuleNotFoundError", "NameError", "NotADirectoryError", "NotImplementedError",
    "OSError", "OverflowError", "PendingDeprecationWarning", "PermissionError",
    "ProcessLookupError", "RecursionError", "ReferenceError", "ResourceWarning", "RuntimeError",
    "RuntimeWarning", "StopAsyncIteration", "StopIteration", "SyntaxError", "SyntaxWarning",
    "SystemError", "SystemExit", "TabError", "TimeoutError", "TypeError", "UnboundLocalError",
    "UnicodeDecodeError", "UnicodeEncodeError", "UnicodeError", "UnicodeTranslateError",
    "UnicodeWarning", "UserWarning", "ValueError", "Warning", "ZeroDivisionError" ]

/-- The function with a name. -/
def function (name : String) : Value :=
  .thing (.named "builtin_function_or_method" name ("<built-in function " ++ name ++ ">"))

/-- The function that replays commands on a program. -/
def replay : Value :=
  .thing (.named "function" "replay" "<function replay>")

/-- The type with a name. -/
def type (name : String) : Value :=
  match name with
  | "Program" | "InvalidPinError" => .thing (.type name ("pypic.core.program.context." ++ name))
  | "EnvironmentError" | "IOError" => .thing (.type "OSError" "OSError")
  | _ => .thing (.type name name)

/-- What ends a run when it is called, and says so. -/
def quitter (name : String) : Value :=
  .thing (.named "Quitter" name ("Use " ++ name ++ "() or Ctrl-D (i.e. EOF) to exit"))

/-- What a script brings in. -/
def broughtIn : List (String × Value) :=
  [ ("Program", type "Program"), ("replay", replay), ("InvalidPinError", type "InvalidPinError"),
    ("inf", .float (.infinite false)), ("nan", .float .nan) ]

/-- What the script at a path knows of itself. -/
def ofScript (path : String) : List (String × Value) :=
  [ ("__name__", .str "__main__"), ("__doc__", .null), ("__package__", .str ""),
    ("__loader__", .null), ("__spec__", .null), ("__file__", .str path), ("__cached__", .null) ]

/-- The values that are known everywhere. -/
def values : List (String × Value) :=
  [ (Name.fixed, .bool true), ("Ellipsis", .thing (.named "ellipsis" "Ellipsis" "Ellipsis")),
    ("NotImplemented", .thing .notImplemented), ("exit", quitter "exit"),
    ("quit", quitter "quit") ]

/-- What a name stands for everywhere. -/
def everywhere? (name : String) : Option Value :=
  if exceptions.contains name || types.contains name || name == "EnvironmentError" ||
      name == "IOError" then some (type name)
  else if functions.contains name then some (function name)
  else values.lookup name

/-- The name of a type. -/
def typeOf? : Value → Option String
  | .thing held => if held.typeName = "type" then some held.name else none
  | _ => none

end PicAssembly.Recorded.Known
