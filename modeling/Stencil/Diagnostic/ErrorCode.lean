import Stencil.Text.Basic

/-!
# Error codes

Every error and warning carries a code that can be searched for: `KLN`, the family of the error,
and a number within the family.
-/

namespace Stencil

/-- The part of the work in which an error arises. -/
inductive Family where
  | scanner
  | compiler
  | inclusion
  | runtime
  | template
  deriving DecidableEq, Repr

/-- How a family is written in a code. -/
def Family.tag : Family → Text
  | .scanner => "SCN".toList
  | .compiler => "CMP".toList
  | .inclusion => "INC".toList
  | .runtime => "RUN".toList
  | .template => "TPL".toList

/-- The name of a family. -/
def Family.name : Family → Text
  | .scanner => "scanner".toList
  | .compiler => "compiler".toList
  | .inclusion => "include".toList
  | .runtime => "runtime".toList
  | .template => "template".toList

/-- The errors and warnings that have a code. -/
inductive ErrorCode where
  | unterminatedCode
  | unterminatedInclude
  | unterminatedInterpolation
  | codeSyntax
  | includeNotFound
  | includeCycle
  | executionFailed
  | templateNotFound
  deriving DecidableEq, Repr

namespace ErrorCode

/-- All codes, family by family. -/
def all : List ErrorCode :=
  [unterminatedCode, unterminatedInclude, unterminatedInterpolation, codeSyntax, includeNotFound,
   includeCycle, executionFailed, templateNotFound]

theorem mem_all (code : ErrorCode) : code ∈ all := by cases code <;> decide

/-- The family of a code. -/
def family : ErrorCode → Family
  | unterminatedCode | unterminatedInclude | unterminatedInterpolation => .scanner
  | codeSyntax => .compiler
  | includeNotFound | includeCycle => .inclusion
  | executionFailed => .runtime
  | templateNotFound => .template

/-- The number of a code within its family. -/
def number : ErrorCode → Nat
  | unterminatedInclude | includeCycle => 2
  | unterminatedInterpolation => 3
  | _ => 1

/-- The code as it is shown. -/
def label (code : ErrorCode) : Text :=
  "KLN-".toList ++ code.family.tag ++ "-00".toList ++ Text.ofNat code.number

/-- The name of a code in capitals. -/
def title : ErrorCode → Text
  | unterminatedCode => "UNTERMINATED_CODE".toList
  | unterminatedInclude => "UNTERMINATED_INCLUDE".toList
  | unterminatedInterpolation => "UNTERMINATED_INTERPOLATION".toList
  | codeSyntax => "CODE_SYNTAX".toList
  | includeNotFound => "INCLUDE_NOT_FOUND".toList
  | includeCycle => "INCLUDE_CYCLE".toList
  | executionFailed => "EXECUTION_FAILED".toList
  | templateNotFound => "TEMPLATE_NOT_FOUND".toList

/-- The code that is shown in a given way. -/
def ofLabel? (label : Text) : Option ErrorCode := all.find? (·.label == label)

theorem ofLabel?_label (code : ErrorCode) : ofLabel? code.label = some code := by
  cases code <;> decide

end ErrorCode

end Stencil
