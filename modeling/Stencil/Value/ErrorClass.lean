import Stencil.Text.Basic

/-!
# Classes of errors

The error classes that code finds without defining them, each with the class it is a special case
of.
-/

namespace Stencil

/-- The error classes, each followed by the classes that are special cases of it. -/
def errorFamilies : List (String × List String) :=
  [("BaseException", ["Exception", "GeneratorExit", "KeyboardInterrupt", "SystemExit"]),
   ("Exception",
     ["ArithmeticError", "AssertionError", "AttributeError", "BufferError", "EOFError",
      "ImportError", "LookupError", "MemoryError", "NameError", "OSError", "ReferenceError",
      "RuntimeError", "StopAsyncIteration", "StopIteration", "SyntaxError", "SystemError",
      "TypeError", "ValueError", "Warning"]),
   ("ArithmeticError", ["FloatingPointError", "OverflowError", "ZeroDivisionError"]),
   ("ImportError", ["ModuleNotFoundError"]),
   ("LookupError", ["IndexError", "KeyError"]),
   ("NameError", ["UnboundLocalError"]),
   ("OSError",
     ["BlockingIOError", "ChildProcessError", "ConnectionError", "FileExistsError",
      "FileNotFoundError", "InterruptedError", "IsADirectoryError", "NotADirectoryError",
      "PermissionError", "ProcessLookupError", "TimeoutError"]),
   ("ConnectionError",
     ["BrokenPipeError", "ConnectionAbortedError", "ConnectionRefusedError",
      "ConnectionResetError"]),
   ("RuntimeError", ["NotImplementedError", "RecursionError"]),
   ("SyntaxError", ["IndentationError"]),
   ("IndentationError", ["TabError"]),
   ("ValueError", ["UnicodeError"]),
   ("UnicodeError", ["UnicodeDecodeError", "UnicodeEncodeError", "UnicodeTranslateError"]),
   ("Warning",
     ["BytesWarning", "DeprecationWarning", "EncodingWarning", "FutureWarning", "ImportWarning",
      "PendingDeprecationWarning", "ResourceWarning", "RuntimeWarning", "SyntaxWarning",
      "UnicodeWarning", "UserWarning"])]

/-- Each error class but the most general one, with the class it is a special case of. -/
def errorParents : List (Text × Text) :=
  errorFamilies.flatMap fun family => family.2.map fun name => (name.toList, family.1.toList)

/-- Is there an error class of this name? -/
def isErrorClass (name : Text) : Bool :=
  name == "BaseException".toList || (errorParents.lookup name).isSome

/-- Other names of error classes. -/
def errorAliases : List (Text × Text) :=
  [("EnvironmentError".toList, "OSError".toList), ("IOError".toList, "OSError".toList)]

/-- An error class and the classes it is a special case of; `n` bounds their number. -/
def errorLineage (name : Text) : (n : Nat) → List Text
  | 0 => []
  | n + 1 =>
    match errorParents.lookup name with
    | some parent => name :: errorLineage parent n
    | none => [name]

end Stencil
