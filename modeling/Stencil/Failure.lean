import Stencil.Diagnostic.TemplateError
import Stencil.Include.Resolve
import Stencil.Script.Generate

/-!
# Failures

Everything that can go wrong between a request and its answer. Most causes are errors of the
library; the others are errors of files, of arguments, and errors that code or an error sink raised
and that nothing in the library stops.
-/

namespace Stencil

/-- Why a request is not answered. -/
inductive Failure where
  | template (e : TemplateError)
  | file (fault : FileFault)
  | noAnswer (name : Text)
  /-- The generator refuses the document for another reason than its code. -/
  | refused (e : GenerateError)
  /-- Not exactly one source is given. -/
  | sourceCount
  /-- A value of this type cannot take output. -/
  | badOutput (typeName : Text)
  /-- A value of this type cannot take errors. -/
  | badErrorSink (typeName : Text)
  /-- A stream takes no more. -/
  | streamFull
  /-- An error that is passed on as it is: the name of its class and its text. -/
  | passedOn (typeName text : Text)
  /-- Files include each other too deep. -/
  | tooDeep
  /-- The code goes on for too long. -/
  | exhausted

namespace Failure

/-- What is said of a failure. -/
def message (colour : Bool) : Failure → Text
  | .template e => e.message colour
  | .file fault => fault.message
  | .noAnswer name => Text.quoted name
  | .refused e => e.message colour
  | .sourceCount => "Exactly one of 'source' or 'source_file' is required".toList
  | .badOutput typeName =>
    "output_file must be a path or a writable stream, got ".toList ++ typeName
  | .badErrorSink typeName =>
    "errors_to must be a callable or a writable stream, got ".toList ++ typeName
  | .streamFull => "disk full".toList
  | .passedOn _ text => text
  | .tooDeep => "maximum recursion depth exceeded".toList
  | .exhausted => []

/-- A loader's fault as a failure. -/
def ofLoad : LoadFault → Failure
  | .notFound message => .template (.notFound message)
  | .file fault => .file fault
  | .noAnswer name => .noAnswer name

/-- A fault of including files as a failure. -/
def ofResolve : ResolveFault → Failure
  | .scan e => .template (.compile e)
  | .load fault => ofLoad fault
  | .nulInPath => .file .nulInPath
  | .tooDeep => .tooDeep

/-- A fault of the generator as a failure. -/
def ofGenerate : GenerateError → Failure
  | .syntaxError e => .template (.compile e)
  | e => .refused e

end Failure

end Stencil
