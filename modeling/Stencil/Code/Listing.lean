import Stencil.Code.Tree
import Stencil.Decimal.Shortest
import Stencil.Text.Quoted

/-!
# Listing of code

The canonical text of a statement: one statement a line, four blanks for each level of indentation,
strings in their quoted form, and brackets only where the tree needs them. Comments and redundant
brackets of the code as it was written are gone.

An expression is written at the *level* its surroundings ask for; it is put in brackets when its own
operator binds more loosely than that.
-/

namespace Stencil.Code

/-! ## Levels -/

/-- Levels of binding, from the loosest to the tightest. -/
inductive Level where
  | named
  | tuple
  | yield
  | test
  | or
  | and
  | not
  | compare
  | bitOr
  | bitXor
  | bitAnd
  | shift
  | sum
  | term
  | factor
  | power
  | await
  | atom
  deriving DecidableEq, Repr

namespace Level

/-- The levels in order. -/
def all : List Level :=
  [named, tuple, yield, test, or, and, not, compare, bitOr, bitXor, bitAnd, shift, sum, term,
   factor, power, await, atom]

/-- The number of a level. -/
def rank (l : Level) : Nat := all.idxOf l

/-- The next tighter level; there is none beyond the last. -/
def next (l : Level) : Level := (all[l.rank + 1]?).getD atom

end Level

/-- The text in brackets if its surroundings bind tighter than it does. -/
def bracketed (around own : Level) (t : Text) : Text :=
  if own.rank < around.rank then '(' :: t ++ [')'] else t

/-! ## Symbols -/

/-- How an operator before an operand is written. -/
def UnaryOp.symbol : UnaryOp → Text
  | .not => "not ".toList
  | .negative => "-".toList
  | .positive => "+".toList

/-- The level of an operator before an operand. -/
def UnaryOp.level : UnaryOp → Level
  | .not => .not
  | .negative | .positive => .factor

/-- How an arithmetic operator is written. -/
def BinaryOp.symbol : BinaryOp → Text
  | .add => "+".toList
  | .sub => "-".toList
  | .mul => "*".toList
  | .div => "/".toList
  | .floorDiv => "//".toList
  | .mod => "%".toList
  | .pow => "**".toList

/-- The level of an arithmetic operator. -/
def BinaryOp.level : BinaryOp → Level
  | .add | .sub => .sum
  | .mul | .div | .floorDiv | .mod => .term
  | .pow => .power

/-- Does the operator group to the right? -/
def BinaryOp.groupsRight : BinaryOp → Bool
  | .pow => true
  | _ => false

/-- How a comparison is written. -/
def CompareOp.symbol : CompareOp → Text
  | .eq => "==".toList
  | .ne => "!=".toList
  | .lt => "<".toList
  | .le => "<=".toList
  | .gt => ">".toList
  | .ge => ">=".toList
  | .is => "is".toList
  | .isNot => "is not".toList
  | .isIn => "in".toList
  | .notIn => "not in".toList

/-- How a junction of conditions is written. -/
def BoolOp.symbol : BoolOp → Text
  | .and => "and".toList
  | .or => "or".toList

/-- The level of a junction of conditions. -/
def BoolOp.level : BoolOp → Level
  | .and => .and
  | .or => .or

/-! ## Strings -/

/-- The quotes that a string without backslashes may be written between, best first. -/
def allQuotes : List Text := ["'", "\"", "\"\"\"", "'''"].map String.toList

/-- The quotes that may stand around several lines. -/
def longQuotes : List Text := ["\"\"\"", "'''"].map String.toList

/-- A character in a string that should have few backslashes. -/
def sparingChar (escapeBlanks : Bool) (c : Char) : Text :=
  if ! escapeBlanks && (c == '\n' || c == '\t') then [c]
  else if c = '\\' then ['\\', '\\']
  else if Text.isPrintable c then [c]
  else if c = '\n' then ['\\', 'n']
  else if c = '\t' then ['\\', 't']
  else if c = '\r' then ['\\', 'r']
  else Text.numericEscape c.toNat

/-- The inside of a string with few backslashes, and the quotes that may stand around it. When none
may, the quoted form of the text decides. -/
def sparingInside (t : Text) (quotes : List Text) (escapeBlanks : Bool) : Text × List Text :=
  let inside := t.flatMap (sparingChar escapeBlanks)
  let fitting := (if inside.contains '\n' then quotes.filter longQuotes.contains else quotes).filter
    fun quote => ! Text.hasMark inside quote
  let endsWith (quote : Text) : Bool := quote.head? == inside.getLast?
  match fitting.filter (! endsWith ·) ++ fitting.filter endsWith with
  | [] =>
    let whole := Text.quoted t
    let quote := whole.take 1
    ((whole.drop 1).dropLast, [(quotes.find? (Text.hasMark · quote)).getD quote])
  | quote :: more =>
    if inside.isEmpty then (inside, fitting)
    else if endsWith quote then
      (inside.dropLast ++ '\\' :: quote.take 1, quote :: more)
    else (inside, quote :: more)

/-- A string with few backslashes. -/
def sparing (quotes : List Text) (t : Text) : Text :=
  let (inside, fitting) := sparingInside t quotes false
  let quote := fitting.headD []
  quote ++ inside ++ quote

/-- The parts of a formatted string between quotes that suit all of them; a part that is constant
text is marked. -/
def joinedText (parts : List (Text × Bool)) : Text :=
  let step (state : Option (List Text × List Text)) (part : Text × Bool) :
      Option (List Text × List Text) := do
    let (done, quotes) ← state
    let (inside, fitting) := sparingInside part.1 quotes part.2
    if fitting.any quotes.contains then some (done ++ [inside], fitting) else none
  match parts.foldl step (some ([], allQuotes)) with
  | some (done, quotes) => let quote := quotes.headD []; quote ++ done.flatten ++ quote
  | none =>
    let quote := "'''".toList
    let inside (part : Text × Bool) : Text := ((Text.quoted ('"' :: part.1)).drop 2).dropLast
    quote ++ parts.flatMap inside ++ quote

/-! ## Expressions -/

/-- A constant; `sparingly` asks for few backslashes in strings. -/
def Constant.listing (sparingly : Bool) : Constant → Text
  | .none => "None".toList
  | .ellipsis => "...".toList
  | .bool true => "True".toList
  | .bool false => "False".toList
  | .int n => Text.ofNat n
  | .float x => if x == 1.0 / 0.0 then "1e309".toList else Decimal.floatText x
  | .text t => if sparingly then sparing allQuotes t else Text.quoted t
  | .bytes bs => Text.quotedBytes bs

/-- Is the part of a formatted string constant text? -/
def Expr.isConstant : Expr → Bool
  | .constant .. => true
  | _ => false

/-- Is the expression a whole number or a truth value, written out? -/
def Expr.isNumeral : Expr → Bool
  | .constant _ (.int _) | .constant _ (.bool _) => true
  | _ => false

/-- A field of a formatted string, given the texts of its expression and its format. A blank keeps
two opening braces apart. -/
def fieldSpelling (inside : Text) (conversion : Option Char) (format : Option Text) : Text :=
  let gap : Text := if inside.head? = some '\x7b' then [' '] else []
  let letter : Text :=
    match conversion with
    | some c => ['!', c]
    | none => []
  let tail : Text :=
    match format with
    | some t => ':' :: t
    | none => []
  '\x7b' :: gap ++ inside ++ letter ++ tail ++ ['\x7d']

/-- Texts with commas between them; a single one has a comma after it. -/
def tupleText : List Text → Text
  | [t] => t ++ [',']
  | ts => Text.join ", ".toList ts

mutual

/-- The text of an expression at a level. -/
def Expr.text (sparingly : Bool) (level : Level) : Expr → Text
  | .name _ id => id
  | .constant _ value => value.listing sparingly
  | .joined _ parts =>
    'f' ::
      if sparingly then sparing allQuotes (Expr.partTexts parts).flatten
      else joinedText ((Expr.partTexts parts).zip (parts.map Expr.isConstant))
  | .field _ value conversion format =>
    'f' :: sparing allQuotes
      (fieldSpelling (value.text true .or) conversion (Expr.partOption format))
  | .tuple _ items =>
    let inside := tupleText (Expr.texts sparingly .test items)
    if items.isEmpty then "()".toList else bracketed level .tuple inside
  | .list _ items => '[' :: Text.join ", ".toList (Expr.texts sparingly .test items) ++ [']']
  | .dict _ keys values =>
    let pairs := (Expr.texts sparingly .test keys).zip (Expr.texts sparingly .test values)
    '\x7b' :: Text.join ", ".toList (pairs.map fun pair => pair.1 ++ ": ".toList ++ pair.2)
      ++ ['\x7d']
  | .attribute _ _ value id =>
    value.text sparingly .atom ++ (if value.isNumeral then [' '] else []) ++ '.' :: id
  | .subscript _ value index =>
    let inside :=
      match index with
      | .tuple _ items =>
        if items.isEmpty then "()".toList else tupleText (Expr.texts sparingly .test items)
      | index => index.text sparingly .test
    value.text sparingly .atom ++ '[' :: inside ++ [']']
  | .slice _ lower upper step =>
    Expr.textOption sparingly [] lower ++ ':' :: Expr.textOption sparingly [] upper ++
      Expr.textOption sparingly [':'] step
  | .call _ function args keywords keywordArgs =>
    let named := keywords.zip (Expr.texts sparingly .test keywordArgs)
    function.text sparingly .atom ++ '(' ::
      Text.join ", ".toList (Expr.texts sparingly .test args ++
        named.map fun pair => pair.1 ++ '=' :: pair.2) ++ [')']
  | .unary _ op operand => bracketed level op.level (op.symbol ++ operand.text sparingly op.level)
  | .binary _ op left right =>
    let tight := op.level.next
    bracketed level op.level
      (left.text sparingly (if op.groupsRight then tight else op.level) ++ ' ' :: op.symbol ++
        ' ' :: right.text sparingly (if op.groupsRight then op.level else tight))
  | .boolean _ op operands =>
    bracketed level op.level
      (Text.join (' ' :: op.symbol ++ [' ']) (Expr.risingTexts sparingly op.level operands))
  | .compare _ left ops operands =>
    let tight := Level.compare.next
    let rest := ops.zip (Expr.texts sparingly tight operands)
    bracketed level .compare
      (left.text sparingly tight ++ rest.flatMap fun pair =>
        ' ' :: pair.1.symbol ++ ' ' :: pair.2)
  | .conditional _ test body orelse =>
    bracketed level .test
      (body.text sparingly .or ++ " if ".toList ++ test.text sparingly .or ++ " else ".toList ++
        orelse.text sparingly .test)
  | .yield _ value =>
    bracketed level .yield
      ("yield".toList ++
        match value with
        | some e => ' ' :: e.text sparingly .atom
        | none => [])

/-- The texts of several expressions at one level. -/
def Expr.texts (sparingly : Bool) (level : Level) : List Expr → List Text
  | [] => []
  | e :: es => e.text sparingly level :: Expr.texts sparingly level es

/-- The texts of several expressions, each one level tighter than the one before it. -/
def Expr.risingTexts (sparingly : Bool) (level : Level) : List Expr → List Text
  | [] => []
  | e :: es => e.text sparingly level.next :: Expr.risingTexts sparingly level.next es

/-- The text of an expression that may be missing, with a mark in front. -/
def Expr.textOption (sparingly : Bool) (mark : Text) : Option Expr → Text
  | none => []
  | some e => mark ++ e.text sparingly .test

/-- A part of a formatted string, between its quotes. -/
def Expr.partText : Expr → Text
  | .constant _ (.text t) => t.flatMap fun c => if c = '\x7b' ∨ c = '\x7d' then [c, c] else [c]
  | .joined _ parts => (Expr.partTexts parts).flatten
  | .field _ value conversion format =>
    fieldSpelling (value.text true .or) conversion (Expr.partOption format)
  | _ => []

/-- The parts of a formatted string. -/
def Expr.partTexts : List Expr → List Text
  | [] => []
  | e :: es => e.partText :: Expr.partTexts es

/-- The format of a field, if it has one. -/
def Expr.partOption : Option Expr → Option Text
  | none => none
  | some e => some e.partText

end

/-- An expression that stands alone or on the right of a sign. -/
def Expr.plain (e : Expr) : Text := e.text false .test

/-! ## Statements -/

/-- The parameters of a function, the last of them with defaults. -/
def paramsText (params : List Text) (defaults : List Expr) : Text :=
  let (bare, given) := splitParams params defaults
  Text.join ", ".toList (bare ++ (given.zip defaults).map fun pair =>
    pair.1 ++ '=' :: pair.2.plain)

/-- A row of code with its indentation. -/
def row (depth : Nat) (t : Text) : Text := List.replicate (4 * depth) ' ' ++ t

/-- A module with the name that it is given. -/
def moduleText (entry : Text × Option Text) : Text :=
  match entry.2 with
  | some name => entry.1 ++ " as ".toList ++ name
  | none => entry.1

/-- The row of a text that describes a function or class. -/
def descriptionRow? (depth : Nat) : List Stmt → Option Text
  | .expr _ (.constant _ (.text t)) :: _ => some (row depth (sparing longQuotes t))
  | _ => none

mutual

/-- The rows of a statement. A definition inside a block has an empty row before it. -/
def Stmt.rows (depth : Nat) : Stmt → List Text
  | .expr _ value => [row depth (value.text false .yield)]
  | .assign _ targets value =>
    [row depth ((targets.flatMap fun e => e.text false .tuple ++ " = ".toList) ++ value.plain)]
  | .augment _ target op value =>
    [row depth (target.plain ++ ' ' :: op.symbol ++ "= ".toList ++ value.plain)]
  | .branch _ test body orelse =>
    row depth ("if ".toList ++ test.plain ++ [':']) :: Stmt.rowsAll (depth + 1) body ++
      Stmt.elifRows depth orelse
  | .whileLoop _ test body orelse =>
    row depth ("while ".toList ++ test.plain ++ [':']) :: Stmt.rowsAll (depth + 1) body ++
      Stmt.elseRows depth orelse
  | .forLoop _ target iterable body orelse =>
    row depth ("for ".toList ++ target.text false .tuple ++ " in ".toList ++ iterable.plain ++
      [':']) :: Stmt.rowsAll (depth + 1) body ++ Stmt.elseRows depth orelse
  | .function _ name params defaults body =>
    (if depth = 0 then [] else [[]]) ++
      row depth ("def ".toList ++ name ++ '(' :: paramsText params defaults ++ "):".toList) ::
        Stmt.bodyRows (depth + 1) body
  | .classDef _ name bases body =>
    let parents :=
      if bases.isEmpty then []
      else '(' :: Text.join ", ".toList (bases.map Expr.plain) ++ [')']
    (if depth = 0 then [] else [[]]) ++
      row depth ("class ".toList ++ name ++ parents ++ [':']) :: Stmt.bodyRows (depth + 1) body
  | .ret _ value => [row depth ("return".toList ++ Expr.textOption false [' '] value)]
  | .raise _ error cause =>
    [row depth ("raise".toList ++ Expr.textOption false [' '] error ++
      Expr.textOption false " from ".toList cause)]
  | .assert _ test message =>
    [row depth ("assert ".toList ++ test.plain ++ Expr.textOption false ", ".toList message)]
  | .delete _ targets =>
    [row depth ("del ".toList ++ Text.join ", ".toList (targets.map Expr.plain))]
  | .pass _ => [row depth "pass".toList]
  | .breakLoop _ => [row depth "break".toList]
  | .continueLoop _ => [row depth "continue".toList]
  | .importModules _ modules =>
    [row depth ("import ".toList ++ Text.join ", ".toList (modules.map moduleText))]

/-- The rows of several statements. -/
def Stmt.rowsAll (depth : Nat) : List Stmt → List Text
  | [] => []
  | s :: ss => s.rows depth ++ Stmt.rowsAll depth ss

/-- The rows of the body of a function or class. -/
def Stmt.bodyRows (depth : Nat) : List Stmt → List Text
  | [] => []
  | s :: ss =>
    (match descriptionRow? depth (s :: ss) with
      | some first => [first]
      | none => s.rows depth) ++ Stmt.rowsAll depth ss

/-- The rows after `else`. -/
def Stmt.elseRows (depth : Nat) : List Stmt → List Text
  | [] => []
  | s :: ss =>
    row depth "else:".toList :: (s.rows (depth + 1) ++ Stmt.rowsAll (depth + 1) ss)

/-- The rows after a condition that fails. A choice that is all there is goes on with `elif`. -/
def Stmt.elifRows (depth : Nat) : List Stmt → List Text
  | [] => []
  | [.branch _ test body orelse] =>
    row depth ("elif ".toList ++ test.plain ++ [':']) :: Stmt.rowsAll (depth + 1) body ++
      Stmt.elifRows depth orelse
  | s :: ss =>
    row depth "else:".toList :: (s.rows (depth + 1) ++ Stmt.rowsAll (depth + 1) ss)

end

/-- The text of a statement. -/
def Stmt.text (s : Stmt) : Text := Text.join ['\n'] (s.rows 0)

end Stencil.Code
