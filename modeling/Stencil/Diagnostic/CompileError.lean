import Stencil.Diagnostic.ErrorCode
import Stencil.Diagnostic.Snippet
import Stencil.Scan

/-!
# Compile errors

An error that stops a compilation: what is wrong, where it was written, and the line in question.
`message` is the plain text of the error, `compact` its one-screen form, which may be in colour.
-/

namespace Stencil

/-- A place as it is shown: file, line and column, each only if the one before it is known. -/
def locationText (filename : Option Text) (line column : Option Int) : Text :=
  let file :=
    match filename with
    | some (c :: t) => c :: t
    | _ => "<template>".toList
  match line.filter (· != 0) with
  | none => file
  | some line =>
    file ++ ':' :: Text.ofInt line ++
      match column with
      | none => []
      | some column => ':' :: Text.ofInt column

/-- The kinds of compile error. -/
inductive CompileKind where
  /-- An error of no special kind. -/
  | general
  /-- A construct that is never closed. -/
  | scan
  /-- Code that cannot be read. -/
  | codeSyntax
  deriving DecidableEq, Repr

/-- The words that head the message of an error. -/
def CompileKind.heading : CompileKind → Text
  | .general => "Compile Error".toList
  | .scan => "Scan Error".toList
  | .codeSyntax => "Syntax Error".toList

/-- The code that an error has unless it is given another. -/
def CompileKind.code? : CompileKind → Option ErrorCode
  | .general => none
  | .scan => some .unterminatedCode
  | .codeSyntax => some .codeSyntax

/-- An error that stops a compilation. -/
structure CompileError where
  kind : CompileKind
  reason : Text
  line : Option Int
  filename : Option Text
  column : Option Int
  code : Option ErrorCode
  snippet : Option Snippet
  deriving DecidableEq, Repr

namespace CompileError

/-- An error with the line it is about, if its source and line are known. -/
def new (kind : CompileKind) (reason : Text) (line : Option Int) (filename source : Option Text)
    (column : Option Int) (code : Option ErrorCode) : CompileError where
  kind := kind
  reason := reason
  line := line
  filename := filename
  column := column
  code := code.or kind.code?
  snippet := do
    let source ← source.filter (! ·.isEmpty)
    let line ← line.filter (· != 0)
    Snippet.ofSource? source line 0 column

/-- The place of an error as it is shown. -/
def location (e : CompileError) : Text := locationText e.filename e.line e.column

/-- The plain text of an error. The snippet is made with colour as set and has it taken out. -/
def message (colour : Bool) (e : CompileError) : Text :=
  let header := e.kind.heading ++ ": ".toList ++ e.reason ++ "\n  --> ".toList ++ e.location
  match e.snippet with
  | none => header
  | some s => header ++ '\n' :: stripColours (s.format colour)

/-- The one-screen form of an error. -/
def compact (colour : Bool) (e : CompileError) : Text :=
  let header :=
    match e.code with
    | some code => paintCode colour code.label ++ ": ".toList ++ e.reason
    | none => e.reason
  let place := "  --> ".toList ++ paintLocation colour e.location
  Text.join ['\n'] (header :: place :: (e.snippet.map (·.format colour)).toList)

end CompileError

/-! ## Errors of the scan -/

/-- The code for a construct that is never closed. -/
def Opener.errorCode : Opener → ErrorCode
  | .code => .unterminatedCode
  | .directive => .unterminatedInclude
  | .interpolation => .unterminatedInterpolation

/-- What a construct is called in a message. -/
def Opener.noun : Opener → Text
  | .code => "code block".toList
  | .directive => "include directive".toList
  | .interpolation => "interpolation".toList

/-- The error for a construct that is never closed, placed at its opener. -/
def Unclosed.toError (u : Unclosed) (source filename : Text) : CompileError :=
  let place := Place.after u.before
  .new .scan
    ("Unterminated ".toList ++ u.opener.noun ++ " (missing '".toList ++ u.opener.closer ++
      "')".toList)
    (some place.line) (some filename) (some source) (some place.column) (some u.opener.errorCode)

/-- Scans the text of a template; the error names the opener that is never closed. -/
def scanTemplate (source filename : Text) : Except CompileError Document :=
  (scan source filename).mapError (·.toError source filename)

end Stencil
