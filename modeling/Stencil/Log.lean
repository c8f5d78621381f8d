import Stencil.Text.Basic

/-!
# Log records

What the library tells a log, beside its answers: each record has a level, the part of the library
that speaks, and a message.
-/

namespace Stencil

/-- How much a record matters. -/
inductive LogLevel where
  | debug
  | warning
  deriving DecidableEq, Repr

/-- The parts of the library that speak. -/
inductive LogPart where
  | inclusion
  | generator
  | run
  | registry
  deriving DecidableEq, Repr

/-- One entry of a log. -/
structure LogRecord where
  level : LogLevel
  part : LogPart
  message : Text
  deriving DecidableEq, Repr

end Stencil
