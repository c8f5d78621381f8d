import Stencil.Diagnostic.ErrorCode
import Stencil.Log

/-!
# Include warnings

A directive that cannot be satisfied does not stop a compilation: empty text takes its place, and a
warning says which file was not included, where, and why.
-/

namespace Stencil

/-- A directive that was left out. -/
structure IncludeWarning where
  filename : Text
  line : Int
  path : Text
  code : ErrorCode
  deriving DecidableEq, Repr

namespace IncludeWarning

/-- Why the file was not included. -/
def reason (w : IncludeWarning) : Text :=
  if w.code = .includeCycle then "cyclic include".toList else "not found".toList

/-- What a warning says. -/
def message (w : IncludeWarning) : Text :=
  "Cannot include '".toList ++ w.path ++ "' (".toList ++ w.reason ++ ") at ".toList ++
    w.filename ++ ':' :: Text.ofInt w.line

/-- The record that a warning leaves in the log. -/
def record (w : IncludeWarning) : LogRecord := ⟨.warning, .inclusion, w.message⟩

end IncludeWarning

end Stencil
