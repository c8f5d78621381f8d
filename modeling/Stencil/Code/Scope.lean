import Stencil.Code.Tree

/-!
# Scopes

Which names a function binds, and what is wrong with code that can be read but makes no sense where
it stands: a `return` outside a function, a `break` outside a loop, and the like. Faults are looked
for in the order of the text.
-/

namespace Stencil.Code

/-! ## Expressions inside expressions -/

mutual

/-- An expression and all the expressions inside it, outer ones first. -/
def Expr.parts : Expr → List Expr
  | .name line id => [.name line id]
  | .constant line value => [.constant line value]
  | .joined line ps => .joined line ps :: Expr.partsAll ps
  | .field line value conversion format =>
    .field line value conversion format :: (value.parts ++ Expr.partsOption format)
  | .tuple line items => .tuple line items :: Expr.partsAll items
  | .list line items => .list line items :: Expr.partsAll items
  | .dict line keys values => .dict line keys values :: (Expr.partsAll keys ++ Expr.partsAll values)
  | .attribute line nameLine value id => .attribute line nameLine value id :: value.parts
  | .subscript line value index => .subscript line value index :: (value.parts ++ index.parts)
  | .slice line lower upper step =>
    .slice line lower upper step ::
      (Expr.partsOption lower ++ Expr.partsOption upper ++ Expr.partsOption step)
  | .call line function args keywords keywordArgs =>
    .call line function args keywords keywordArgs ::
      (function.parts ++ Expr.partsAll args ++ Expr.partsAll keywordArgs)
  | .unary line op operand => .unary line op operand :: operand.parts
  | .binary line op left right => .binary line op left right :: (left.parts ++ right.parts)
  | .boolean line op operands => .boolean line op operands :: Expr.partsAll operands
  | .compare line left ops operands =>
    .compare line left ops operands :: (left.parts ++ Expr.partsAll operands)
  | .conditional line test body orelse =>
    .conditional line test body orelse :: (test.parts ++ body.parts ++ orelse.parts)
  | .yield line value => .yield line value :: Expr.partsOption value

/-- The parts of several expressions. -/
def Expr.partsAll : List Expr → List Expr
  | [] => []
  | e :: es => e.parts ++ Expr.partsAll es

/-- The parts of an expression that may be missing. -/
def Expr.partsOption : Option Expr → List Expr
  | none => []
  | some e => e.parts

end

/-- The expressions of a statement itself, without those of the statements inside it. -/
def Stmt.expressions : Stmt → List Expr
  | .expr _ value => [value]
  | .assign _ targets value => value :: targets
  | .augment _ target _ value => [target, value]
  | .branch _ test _ _ | .whileLoop _ test _ _ => [test]
  | .forLoop _ target iterable _ _ => [iterable, target]
  | .function _ _ _ defaults _ => defaults
  | .classDef _ _ bases _ => bases
  | .ret _ value => value.toList
  | .raise _ error cause => error.toList ++ cause.toList
  | .assert _ test message => test :: message.toList
  | .delete _ targets => targets
  | .pass _ | .breakLoop _ | .continueLoop _ | .importModules _ _ => []

/-! ## Bound names -/

mutual

/-- The names that a target binds. -/
def Expr.bound : Expr → List Text
  | .name _ id => [id]
  | .tuple _ items | .list _ items => Expr.boundAll items
  | _ => []

/-- The names that several targets bind. -/
def Expr.boundAll : List Expr → List Text
  | [] => []
  | e :: es => e.bound ++ Expr.boundAll es

end

mutual

/-- The names that a statement binds in the function it belongs to. -/
def Stmt.bound : Stmt → List Text
  | .assign _ targets _ | .delete _ targets => Expr.boundAll targets
  | .augment _ target _ _ => target.bound
  | .branch _ _ body orelse | .whileLoop _ _ body orelse =>
    Stmt.boundAll body ++ Stmt.boundAll orelse
  | .forLoop _ target _ body orelse =>
    target.bound ++ Stmt.boundAll body ++ Stmt.boundAll orelse
  | .function _ name _ _ _ | .classDef _ name _ _ => [name]
  | .importModules _ modules => modules.map fun entry => entry.2.getD (entry.1.takeWhile (· != '.'))
  | _ => []

/-- The names that several statements bind. -/
def Stmt.boundAll : List Stmt → List Text
  | [] => []
  | s :: ss => s.bound ++ Stmt.boundAll ss

end

mutual

/-- Does the function that a statement belongs to hand out values there? -/
def Stmt.yields : Stmt → Bool
  | .branch _ test body orelse | .whileLoop _ test body orelse =>
    test.parts.any Expr.isYield || Stmt.yieldsAny body || Stmt.yieldsAny orelse
  | .forLoop _ _ iterable body orelse =>
    iterable.parts.any Expr.isYield || Stmt.yieldsAny body || Stmt.yieldsAny orelse
  | s => (Expr.partsAll s.expressions).any Expr.isYield

/-- Does any of several statements hand out a value? -/
def Stmt.yieldsAny : List Stmt → Bool
  | [] => false
  | s :: ss => s.yields || Stmt.yieldsAny ss

end

/-! ## Misplaced code -/

/-- Why code that can be read is refused. -/
inductive Misuse where
  /-- A variable bears the name of a constant. -/
  | constantName (name : Text)
  /-- Something that must not stand where it stands: what is said of it, and its line. -/
  | misplaced (message : Text) (line : Nat)
  deriving DecidableEq, Repr

/-- The names of constants. -/
def constantNames : List Text := ["None", "True", "False"].map String.toList

/-- The name of a constant that an expression uses as a variable. -/
def Expr.constantName? : Expr → Option Text
  | .name _ id => if constantNames.contains id then some id else none
  | _ => none

/-- The name that always means true and cannot be bound. -/
def reservedName : Text := "__debug__".toList

/-- The binding of the reserved name on a line. -/
def reservedMisuse (line : Nat) : Misuse :=
  .misplaced ("cannot assign to ".toList ++ reservedName) line

/-- The first name with a line that comes again later, where it comes again. -/
def firstRepeated? : List (Text × Nat) → Option (Text × Nat)
  | [] => none
  | (t, _) :: ts => (ts.find? (·.1 == t)).or (firstRepeated? ts)

/-- What is wrong with an expression in itself. -/
def Expr.misuse? (inFunction : Bool) : Expr → Option Misuse
  | .yield line _ =>
    if inFunction then none else some (.misplaced "'yield' outside function".toList line)
  | .call line _ _ keywords keywordArgs =>
    if keywords.contains reservedName then some (reservedMisuse line)
    else
      (firstRepeated? (keywords.zip (keywordArgs.map Expr.line))).map fun again =>
        .misplaced ("keyword argument repeated: ".toList ++ again.1) again.2
  | _ => none

/-- What is wrong with expressions. -/
def Expr.misuseIn? (inFunction : Bool) (es : List Expr) : Option Misuse :=
  (Expr.partsAll es).findSome? (Expr.misuse? inFunction)

mutual

/-- The line on which a target holds the reserved name, as a variable or, if they count, as an
attribute. -/
def Expr.reservedLine? (attributes : Bool) : Expr → Option Nat
  | .name line id => if id = reservedName then some line else none
  | .attribute _ nameLine _ id =>
    if attributes && id == reservedName then some nameLine else none
  | .tuple _ items | .list _ items => Expr.reservedLineIn? attributes items
  | _ => none

/-- The first such line in several targets. -/
def Expr.reservedLineIn? (attributes : Bool) : List Expr → Option Nat
  | [] => none
  | e :: es => (e.reservedLine? attributes).or (Expr.reservedLineIn? attributes es)

end

/-- The reserved name among names that are bound on a line. -/
def reservedAmong? (line : Nat) (names : List Text) : Option Misuse :=
  if names.contains reservedName then some (reservedMisuse line) else none

/-- The reserved name among what a simple statement binds. -/
def Stmt.reserved? : Stmt → Option Misuse
  | .assign _ targets _ => (Expr.reservedLineIn? true targets).map reservedMisuse
  | .augment _ target _ _ => (target.reservedLine? false).map reservedMisuse
  | .delete _ targets =>
    (Expr.reservedLineIn? false targets).map fun line =>
      .misplaced ("cannot delete ".toList ++ reservedName) line
  | .importModules span modules =>
    reservedAmong? span.first (Stmt.importModules span modules).bound
  | _ => none

mutual

/-- The first use of the name of a constant as a variable. -/
def Stmt.constantName? : Stmt → Option Text
  | .branch _ test body orelse | .whileLoop _ test body orelse =>
    (test.parts.findSome? Expr.constantName?).or
      ((Stmt.constantNameIn? body).or (Stmt.constantNameIn? orelse))
  | .forLoop _ target iterable body orelse =>
    ((target.parts ++ iterable.parts).findSome? Expr.constantName?).or
      ((Stmt.constantNameIn? body).or (Stmt.constantNameIn? orelse))
  | .function _ _ _ defaults body =>
    (Stmt.constantNameIn? body).or ((Expr.partsAll defaults).findSome? Expr.constantName?)
  | .classDef _ _ bases body =>
    ((Expr.partsAll bases).findSome? Expr.constantName?).or (Stmt.constantNameIn? body)
  | s => (Expr.partsAll s.expressions).findSome? Expr.constantName?

/-- The first use in several statements. -/
def Stmt.constantNameIn? : List Stmt → Option Text
  | [] => none
  | s :: ss => s.constantName?.or (Stmt.constantNameIn? ss)

end

mutual

/-- The first function with two parameters of one name. -/
def Stmt.repeatedParam? : Stmt → Option Misuse
  | .branch _ _ body orelse | .whileLoop _ _ body orelse | .forLoop _ _ _ body orelse =>
    (Stmt.repeatedParamIn? body).or (Stmt.repeatedParamIn? orelse)
  | .function span _ params _ body =>
    ((firstRepeated? (params.map fun p => (p, span.first))).map fun again =>
      .misplaced
        ("duplicate argument '".toList ++ again.1 ++ "' in function definition".toList)
        again.2).or (Stmt.repeatedParamIn? body)
  | .classDef _ _ _ body => Stmt.repeatedParamIn? body
  | _ => none

/-- The first such function in several statements. -/
def Stmt.repeatedParamIn? : List Stmt → Option Misuse
  | [] => none
  | s :: ss => s.repeatedParam?.or (Stmt.repeatedParamIn? ss)

end

mutual

/-- The first thing that stands where it must not stand. -/
def Stmt.misuse? (inFunction inLoop : Bool) : Stmt → Option Misuse
  | .branch _ test body orelse =>
    (Expr.misuseIn? inFunction [test]).or
      ((Stmt.misuseIn? inFunction inLoop body).or (Stmt.misuseIn? inFunction inLoop orelse))
  | .whileLoop _ test body orelse =>
    (Expr.misuseIn? inFunction [test]).or
      ((Stmt.misuseIn? inFunction true body).or (Stmt.misuseIn? inFunction inLoop orelse))
  | .forLoop _ target iterable body orelse =>
    ((Expr.misuseIn? inFunction [iterable, target]).or
      ((target.reservedLine? true).map reservedMisuse)).or
      ((Stmt.misuseIn? inFunction true body).or (Stmt.misuseIn? inFunction inLoop orelse))
  | .function span name params defaults body =>
    (reservedAmong? span.first params).or
      (((Expr.misuseIn? inFunction defaults).or (Stmt.misuseIn? true false body)).or
        (reservedAmong? span.first [name]))
  | .classDef span name bases body =>
    ((Stmt.misuseIn? false false body).or (Expr.misuseIn? inFunction bases)).or
      (reservedAmong? span.first [name])
  | .ret span value =>
    if inFunction then Expr.misuseIn? inFunction value.toList
    else some (.misplaced "'return' outside function".toList span.first)
  | .breakLoop span =>
    if inLoop then none else some (.misplaced "'break' outside loop".toList span.first)
  | .continueLoop span =>
    if inLoop then none else some (.misplaced "'continue' not properly in loop".toList span.first)
  | s => (Expr.misuseIn? inFunction s.expressions).or s.reserved?

/-- The first such thing in several statements. -/
def Stmt.misuseIn? (inFunction inLoop : Bool) : List Stmt → Option Misuse
  | [] => none
  | s :: ss => (s.misuse? inFunction inLoop).or (Stmt.misuseIn? inFunction inLoop ss)

end

/-- What is wrong with the statements of a script: first names of constants, then parameters, then
what is misplaced. -/
def moduleMisuse? (ss : List Stmt) : Option Misuse :=
  ((Stmt.constantNameIn? ss).map Misuse.constantName).or
    ((Stmt.repeatedParamIn? ss).or (Stmt.misuseIn? false false ss))

end Stencil.Code
