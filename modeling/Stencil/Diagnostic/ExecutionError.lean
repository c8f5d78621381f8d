import Stencil.Diagnostic.CompileError
import Stencil.Value.Basic

/-!
# Execution errors

An error that embedded code raised while a script ran, placed where that code was written. The error
itself is kept with it.
-/

namespace Stencil

/-- An error as code raised it, and the name of its class. -/
structure Cause where
  typeName : Text
  thrown : Thrown

/-- An error of embedded code at the place where the code was written. -/
structure ExecutionError where
  reason : Text
  templateName : Option Text
  line : Option Int
  cause : Option Cause
  snippet : Option Snippet
  namespaceId : Option Text

namespace ExecutionError

/-- The class of the cause, if there is one, and the reason. -/
def headline (e : ExecutionError) : Text :=
  match e.cause with
  | some cause => cause.typeName ++ ": ".toList ++ e.reason
  | none => e.reason

/-- The place of an error as it is shown. -/
def location (e : ExecutionError) : Text := locationText e.templateName e.line none

/-- The plain text of an error. -/
def message (colour : Bool) (e : ExecutionError) : Text :=
  let header := "Runtime Error: ".toList ++ e.headline
  let place := "  Location: ".toList ++ e.location
  Text.join ['\n']
    (header :: place :: (e.snippet.map fun s => stripColours (s.format colour)).toList)

/-- The one-screen form of an error. -/
def compact (colour : Bool) (e : ExecutionError) : Text :=
  let header := paintCode colour ErrorCode.executionFailed.label ++ ": ".toList ++ e.headline
  let place := "  Location: ".toList ++ paintLocation colour e.location
  Text.join ['\n'] (header :: place :: (e.snippet.map (·.format colour)).toList)

end ExecutionError

end Stencil
