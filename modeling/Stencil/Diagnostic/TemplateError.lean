import Stencil.Diagnostic.ExecutionError

/-!
# Template errors

All the errors that the library raises on its own behalf, with what they have in common: a message,
perhaps a code, and a one-screen form.
-/

namespace Stencil

/-- An error of the library. -/
inductive TemplateError where
  /-- An error of no special kind. -/
  | general (message : Text)
  /-- A template that was asked for by name and not found. -/
  | notFound (message : Text)
  | compile (e : CompileError)
  | execution (e : ExecutionError)

namespace TemplateError

/-- The code of an error. -/
def code? : TemplateError → Option ErrorCode
  | .general _ => none
  | .notFound _ => some .templateNotFound
  | .compile e => e.code
  | .execution _ => some .executionFailed

/-- The plain text of an error. -/
def message (colour : Bool) : TemplateError → Text
  | .general message | .notFound message => message
  | .compile e => e.message colour
  | .execution e => e.message colour

/-- A message with a code in front, unless the code is somewhere in it already. -/
def withCode (colour : Bool) (code : ErrorCode) (message : Text) : Text :=
  if Text.hasMark message code.label then message
  else paintCode colour code.label ++ ": ".toList ++ message

/-- The one-screen form of an error. -/
def compact (colour : Bool) : TemplateError → Text
  | .general message => message
  | .notFound message => withCode colour .templateNotFound message
  | .compile e => e.compact colour
  | .execution e => e.compact colour

end TemplateError

end Stencil
