import Stencil.Text.Basic

/-!
# Syntax trees of embedded code

The statements and expressions of the language that code blocks are written in. Every node knows
the line it begins on, a statement also the line it ends on, and an attribute the line of its name:
those are the lines that errors report.

`mapLines` renumbers a tree. Moving a block down by `k` lines is `mapLines (· + k)`, and two trees
are the same code when they agree after `mapLines fun _ => 0`.
-/

namespace Stencil.Code

/-- The values that are written out in code. -/
inductive Constant where
  | none
  | ellipsis
  | bool (b : Bool)
  | int (n : Nat)
  | float (x : Float)
  | text (t : Text)
  | bytes (bs : List UInt8)
  deriving DecidableEq, Repr

/-- Operators before an operand. -/
inductive UnaryOp where
  | not
  | negative
  | positive
  deriving DecidableEq, Repr

/-- Arithmetic operators. -/
inductive BinaryOp where
  | add
  | sub
  | mul
  | div
  | floorDiv
  | mod
  | pow
  deriving DecidableEq, Repr

/-- Comparisons. -/
inductive CompareOp where
  | eq
  | ne
  | lt
  | le
  | gt
  | ge
  | is
  | isNot
  | isIn
  | notIn
  deriving DecidableEq, Repr

/-- Operators that may leave their later operands alone. -/
inductive BoolOp where
  | and
  | or
  deriving DecidableEq, Repr

/-- Expressions. -/
inductive Expr where
  | name (line : Nat) (id : Text)
  | constant (line : Nat) (value : Constant)
  /-- Text put together from constants and fields. -/
  | joined (line : Nat) (parts : List Expr)
  /-- A field of such a text: a value, perhaps the letter of a conversion, perhaps a format. -/
  | field (line : Nat) (value : Expr) (conversion : Option Char) (format : Option Expr)
  | tuple (line : Nat) (items : List Expr)
  | list (line : Nat) (items : List Expr)
  /-- A dictionary; the keys and the values are lists of one length. -/
  | dict (line : Nat) (keys values : List Expr)
  | attribute (line nameLine : Nat) (value : Expr) (id : Text)
  | subscript (line : Nat) (value index : Expr)
  | slice (line : Nat) (lower upper step : Option Expr)
  /-- A call. The keywords and the values given to them are lists of one length. -/
  | call (line : Nat) (function : Expr) (args : List Expr) (keywords : List Text)
      (keywordArgs : List Expr)
  | unary (line : Nat) (op : UnaryOp) (operand : Expr)
  | binary (line : Nat) (op : BinaryOp) (left right : Expr)
  | boolean (line : Nat) (op : BoolOp) (operands : List Expr)
  /-- A chain of comparisons: each operator stands before one of the operands. -/
  | compare (line : Nat) (left : Expr) (ops : List CompareOp) (operands : List Expr)
  | conditional (line : Nat) (test body orelse : Expr)
  | yield (line : Nat) (value : Option Expr)
  deriving Inhabited

/-- Does the expression hand out a value? -/
def Expr.isYield : Expr → Bool
  | .yield .. => true
  | _ => false

/-- The lines that a statement begins and ends on. -/
structure Span where
  first : Nat
  last : Nat
  deriving DecidableEq, Repr

/-- Statements. -/
inductive Stmt where
  | expr (span : Span) (value : Expr)
  | assign (span : Span) (targets : List Expr) (value : Expr)
  | augment (span : Span) (target : Expr) (op : BinaryOp) (value : Expr)
  | branch (span : Span) (test : Expr) (body orelse : List Stmt)
  | whileLoop (span : Span) (test : Expr) (body orelse : List Stmt)
  | forLoop (span : Span) (target iterable : Expr) (body orelse : List Stmt)
  /-- A function. The defaults belong to the last parameters. -/
  | function (span : Span) (name : Text) (params : List Text) (defaults : List Expr)
      (body : List Stmt)
  | classDef (span : Span) (name : Text) (bases : List Expr) (body : List Stmt)
  | ret (span : Span) (value : Option Expr)
  | raise (span : Span) (error cause : Option Expr)
  | assert (span : Span) (test : Expr) (message : Option Expr)
  | delete (span : Span) (targets : List Expr)
  | pass (span : Span)
  | breakLoop (span : Span)
  | continueLoop (span : Span)
  /-- Modules to import, each perhaps under another name. -/
  | importModules (span : Span) (modules : List (Text × Option Text))

/-! ## Lines -/

/-- The line an expression begins on. -/
def Expr.line : Expr → Nat
  | .name line _ | .constant line _ | .joined line _ | .field line _ _ _ | .tuple line _
  | .list line _ | .dict line _ _ | .attribute line _ _ _ | .subscript line _ _
  | .slice line _ _ _ | .call line _ _ _ _ | .unary line _ _ | .binary line _ _ _
  | .boolean line _ _ | .compare line _ _ _ | .conditional line _ _ _ | .yield line _ => line

/-- The lines of a statement. -/
def Stmt.span : Stmt → Span
  | .expr span _ | .assign span _ _ | .augment span _ _ _ | .branch span _ _ _
  | .whileLoop span _ _ _ | .forLoop span _ _ _ _ | .function span _ _ _ _
  | .classDef span _ _ _ | .ret span _ | .raise span _ _ | .assert span _ _ | .delete span _
  | .pass span | .breakLoop span | .continueLoop span | .importModules span _ => span

/-- Renumbers the ends of a span. -/
def Span.map (f : Nat → Nat) (s : Span) : Span := ⟨f s.first, f s.last⟩

mutual

/-- Renumbers the lines of an expression. -/
def Expr.mapLines (f : Nat → Nat) : Expr → Expr
  | .name line id => .name (f line) id
  | .constant line value => .constant (f line) value
  | .joined line parts => .joined (f line) (Expr.mapLinesAll f parts)
  | .field line value conversion format =>
    .field (f line) (value.mapLines f) conversion (Expr.mapLinesOption f format)
  | .tuple line items => .tuple (f line) (Expr.mapLinesAll f items)
  | .list line items => .list (f line) (Expr.mapLinesAll f items)
  | .dict line keys values =>
    .dict (f line) (Expr.mapLinesAll f keys) (Expr.mapLinesAll f values)
  | .attribute line nameLine value id =>
    .attribute (f line) (f nameLine) (value.mapLines f) id
  | .subscript line value index => .subscript (f line) (value.mapLines f) (index.mapLines f)
  | .slice line lower upper step =>
    .slice (f line) (Expr.mapLinesOption f lower) (Expr.mapLinesOption f upper)
      (Expr.mapLinesOption f step)
  | .call line function args keywords keywordArgs =>
    .call (f line) (function.mapLines f) (Expr.mapLinesAll f args) keywords
      (Expr.mapLinesAll f keywordArgs)
  | .unary line op operand => .unary (f line) op (operand.mapLines f)
  | .binary line op left right => .binary (f line) op (left.mapLines f) (right.mapLines f)
  | .boolean line op operands => .boolean (f line) op (Expr.mapLinesAll f operands)
  | .compare line left ops operands =>
    .compare (f line) (left.mapLines f) ops (Expr.mapLinesAll f operands)
  | .conditional line test body orelse =>
    .conditional (f line) (test.mapLines f) (body.mapLines f) (orelse.mapLines f)
  | .yield line value => .yield (f line) (Expr.mapLinesOption f value)

/-- Renumbers the lines of several expressions. -/
def Expr.mapLinesAll (f : Nat → Nat) : List Expr → List Expr
  | [] => []
  | e :: es => e.mapLines f :: Expr.mapLinesAll f es

/-- Renumbers the lines of an expression that may be missing. -/
def Expr.mapLinesOption (f : Nat → Nat) : Option Expr → Option Expr
  | none => none
  | some e => some (e.mapLines f)

end

mutual

/-- Renumbers the lines of a statement. -/
def Stmt.mapLines (f : Nat → Nat) : Stmt → Stmt
  | .expr span value => .expr (span.map f) (value.mapLines f)
  | .assign span targets value =>
    .assign (span.map f) (Expr.mapLinesAll f targets) (value.mapLines f)
  | .augment span target op value =>
    .augment (span.map f) (target.mapLines f) op (value.mapLines f)
  | .branch span test body orelse =>
    .branch (span.map f) (test.mapLines f) (Stmt.mapLinesAll f body) (Stmt.mapLinesAll f orelse)
  | .whileLoop span test body orelse =>
    .whileLoop (span.map f) (test.mapLines f) (Stmt.mapLinesAll f body)
      (Stmt.mapLinesAll f orelse)
  | .forLoop span target iterable body orelse =>
    .forLoop (span.map f) (target.mapLines f) (iterable.mapLines f) (Stmt.mapLinesAll f body)
      (Stmt.mapLinesAll f orelse)
  | .function span name params defaults body =>
    .function (span.map f) name params (Expr.mapLinesAll f defaults) (Stmt.mapLinesAll f body)
  | .classDef span name bases body =>
    .classDef (span.map f) name (Expr.mapLinesAll f bases) (Stmt.mapLinesAll f body)
  | .ret span value => .ret (span.map f) (Expr.mapLinesOption f value)
  | .raise span error cause =>
    .raise (span.map f) (Expr.mapLinesOption f error) (Expr.mapLinesOption f cause)
  | .assert span test message =>
    .assert (span.map f) (test.mapLines f) (Expr.mapLinesOption f message)
  | .delete span targets => .delete (span.map f) (Expr.mapLinesAll f targets)
  | .pass span => .pass (span.map f)
  | .breakLoop span => .breakLoop (span.map f)
  | .continueLoop span => .continueLoop (span.map f)
  | .importModules span modules => .importModules (span.map f) modules

/-- Renumbers the lines of several statements. -/
def Stmt.mapLinesAll (f : Nat → Nat) : List Stmt → List Stmt
  | [] => []
  | s :: ss => s.mapLines f :: Stmt.mapLinesAll f ss

end

theorem Stmt.span_mapLines (f : Nat → Nat) (s : Stmt) : (s.mapLines f).span = s.span.map f := by
  cases s <;> rfl

theorem Stmt.mapLinesAll_eq_map (f : Nat → Nat) (ss : List Stmt) :
    Stmt.mapLinesAll f ss = ss.map (Stmt.mapLines f) := by
  induction ss with
  | nil => rfl
  | cons s ss ih => rw [Stmt.mapLinesAll, ih, List.map_cons]

/-- The names of the parameters that a function takes without and with a default. -/
def splitParams (params : List Text) (defaults : List Expr) : List Text × List Text :=
  params.splitAt (params.length - defaults.length)

/-- Are two programs the same code, whatever lines they stand on? -/
def SameCode (a b : List Stmt) : Prop :=
  Stmt.mapLinesAll (fun _ => 0) a = Stmt.mapLinesAll (fun _ => 0) b

end Stencil.Code
