import Stencil.Code.Expression

/-!
# Reading statements

A code block is read into its statements, or refused with a message and the line it is about
(`parse`). Lines are counted within the block, from 1.
-/

namespace Stencil.Code.Parser

/-- How many brackets may be open at once, formatted strings included. -/
def bracketDepth : Nat := 210

/-- How many operators, items or parts of a name may stand in a row: more than any memory holds. -/
def rowLength : Nat := 0x1000000000000000

/-- An expression, in parsers of statements; `n` bounds what stands in a row. -/
def value (n : Nat) : Parser Expr := expression n bracketDepth

/-- Arithmetic, as it stands in targets. -/
def operand (n : Nat) : Parser Expr := arithmetic (value n) n

/-- An expression, or a tuple without brackets. -/
def values (n : Nat) : Parser Expr := do
  let line := (← peek).line
  return ofItems line (← tupleOr (value n) n)

/-- The span from a line to the end of the token taken last. -/
def spanFrom (line : Nat) : Parser Span := return ⟨line, (← get).lastLine⟩

/-! ## Targets -/

mutual

/-- The part of a target that nothing can be assigned to. -/
def badTarget? : Expr → Option Expr
  | .name .. | .attribute .. | .subscript .. => none
  | .tuple _ items | .list _ items => badTargetIn? items
  | e => some e

/-- The first part of several targets that nothing can be assigned to. -/
def badTargetIn? : List Expr → Option Expr
  | [] => none
  | e :: es => (badTarget? e).or (badTargetIn? es)

end

/-- Refuses to assign to anything but a target. -/
def checkTarget (verb : String) (line : Nat) (target : Expr) : Parser Unit := do
  match badTarget? target with
  | none => pure ()
  | some e =>
    match e with
    | .yield .. => report line "assignment to yield expression not possible".toList
    | e => report line ("cannot ".toList ++ verb.toList ++ ' ' :: describe e)

/-! ## Simple statements -/

/-- What is assigned: values, or `yield`. -/
def assigned (n : Nat) : Parser Expr := do
  let token ← peek
  if ← accept (word "yield") then yieldValue (value n) token.line n else values n

/-- The targets and the value of an assignment whose first target has been read. -/
def assignments (n : Nat) : Nat → (first : Bool) → Token → Expr → Parser (List Expr × Expr)
  | 0, _, _, _ => refuse
  | m + 1, first, start, e => do
    if ! (← sees (symbol "=")) then return ([], e)
    if first && (badTarget? e).isSome && ! e.isYield then checkNotAssigned (operand n) start e
    checkTarget "assign to" start.line e
    advance
    let next ← peek
    let (targets, last) ← assignments n m false next (← assigned n)
    return (e :: targets, last)

/-- The operators that can stand before an equals sign. -/
def augmentOps : List (String × BinaryOp) :=
  [("+=", .add), ("-=", .sub), ("*=", .mul), ("/=", .div), ("//=", .floorDiv), ("%=", .mod),
   ("**=", .pow)]

/-- Can a value be put into this expression in place? -/
def isSingleTarget : Expr → Bool
  | .name .. | .attribute .. | .subscript .. => true
  | _ => false

/-- An expression, an assignment, or an assignment in place. -/
def expressionStatement (n : Nat) : Parser Stmt := do
  let start ← peek
  let line := start.line
  let e ← assigned n
  let token ← peek
  match augmentOps.find? fun op => symbol op.1 == token.kind with
  | some (_, op) =>
    if ! isSingleTarget e then
      report line ('\x27' :: describe e ++
        "' is an illegal expression for augmented assignment".toList)
    advance
    let right ← assigned n
    return .augment (← spanFrom line) e op right
  | none =>
    match ← assignments n n true start e with
    | ([], e) => return .expr (← spanFrom line) e
    | (targets, e) => return .assign (← spanFrom line) targets e

/-- A name with dots in it. -/
def dottedName : Nat → Parser Text
  | 0 => refuse
  | n + 1 => do
    match (← peek).kind with
    | .name id =>
      advance
      if ← accept (symbol ".") then return id ++ '.' :: (← dottedName n) else return id
    | _ => refuse

/-- A module, perhaps under another name. -/
def importedModule (n : Nat) : Parser (Text × Option Text) := do
  let path ← dottedName n
  if ← accept (word "as") then
    match (← peek).kind with
    | .name id => advance; return (path, some id)
    | _ => refuse
  return (path, none)

/-- Modules with commas between them. -/
def importedModules (n : Nat) : Nat → Parser (List (Text × Option Text))
  | 0 => refuse
  | m + 1 => do
    let first ← importedModule n
    if ← accept (symbol ",") then return first :: (← importedModules n m) else return [first]

/-- An expression after a word or symbol, if that is there. -/
def optional (n : Nat) (mark : TokenKind) : Parser (Option Expr) := do
  if ← accept mark then return some (← value n) else return none

/-- A statement that holds no other statements. -/
def simpleStatement (n : Nat) : Parser Stmt := do
  let token ← peek
  let line := token.line
  let some_ (w : String) : Bool := token.kind == word w
  if some_ "pass" then advance; return .pass (← spanFrom line)
  else if some_ "break" then advance; return .breakLoop (← spanFrom line)
  else if some_ "continue" then advance; return .continueLoop (← spanFrom line)
  else if some_ "return" then
    advance
    if beginsExpression (← peek).kind then
      let e ← values n
      return .ret (← spanFrom line) (some e)
    return .ret (← spanFrom line) none
  else if some_ "raise" then
    advance
    if beginsExpression (← peek).kind then
      let e ← value n
      let cause ← optional n (word "from")
      return .raise (← spanFrom line) (some e) cause
    return .raise (← spanFrom line) none none
  else if some_ "assert" then
    advance
    let test ← value n
    let message ← optional n (symbol ",")
    return .assert (← spanFrom line) test message
  else if some_ "del" then
    advance
    let (targets, _) ← tupleOr (operand n) n
    targets.forM (checkTarget "delete" line)
    return .delete (← spanFrom line) targets
  else if some_ "import" then
    advance
    let modules ← importedModules n n
    return .importModules (← spanFrom line) modules
  else expressionStatement n

/-- Simple statements with semicolons between them, up to the end of the line. -/
def simpleLine (n : Nat) : Nat → Parser (List Stmt)
  | 0 => refuse
  | m + 1 => do
    let s ← simpleStatement n
    if ← accept (symbol ";") then
      if ← accept .newline then return [s]
      return s :: (← simpleLine n m)
    expect .newline
    return [s]

/-! ## Compound statements -/

/-- Statements up to the end of an indented block. -/
def blockBody (statement : Parser (List Stmt)) : Nat → Parser (List Stmt)
  | 0 => refuse
  | m + 1 => do
    let ss ← statement
    if ← accept .dedent then return ss
    return ss ++ (← blockBody statement m)

/-- The colon and the statements that belong to a header on line `line`. -/
def suite (statement : Parser (List Stmt)) (n : Nat) (header : Text) (line : Nat) :
    Parser (List Stmt) := do
  expect (symbol ":")
  if ← accept .newline then
    if ← accept .indent then blockBody statement n
    else
      report (← peek).line ("expected an indented block after ".toList ++ header ++
        " on line ".toList ++ Text.ofNat line)
  else simpleLine n n

/-- A header must be followed by a colon; `always` tells whether any other token than the end of the
line is called a missing colon too. -/
def checkColon (always : Bool) : Parser Unit := do
  let token ← peek
  if token.kind != symbol ":" && (always || token.kind == .newline) then
    report token.line "expected ':'".toList

/-- The last line of statements. -/
def lastLineOf (line : Nat) (ss : List Stmt) : Nat := (ss.getLast?.map (·.span.last)).getD line

/-- What a statement that begins with a word is called. -/
def statementNoun (w : String) : Text := '\x27' :: w.toList ++ "' statement".toList

/-- A condition. -/
def condition (n : Nat) : Parser Expr := do
  let start ← peek
  let e ← value n
  checkNotAssigned (operand n) start e
  return e

/-- The statements after `else`, if there are any. -/
def elseSuite (statement : Parser (List Stmt)) (n : Nat) : Parser (List Stmt) := do
  let token ← peek
  if ← accept (word "else") then
    checkColon true
    suite statement n (statementNoun "else") token.line
  else return []

/-- A choice after its first word `w`, which stands on line `line`. -/
def branches (statement : Parser (List Stmt)) (n : Nat) : Nat → String → Nat → Parser Stmt
  | 0, _, _ => refuse
  | m + 1, w, line => do
    let test ← condition n
    checkColon false
    let body ← suite statement n (statementNoun w) line
    let token ← peek
    let orelse ←
      if ← accept (word "elif") then
        let s ← branches statement n m "elif" token.line
        pure [s]
      else elseSuite statement n
    return .branch ⟨line, lastLineOf (lastLineOf line body) orelse⟩ test body orelse

/-- The names of parameters and the defaults of the last of them, up to the closing bracket. -/
def parameters (n : Nat) : Nat → List Text → List Expr → Parser (List Text × List Expr)
  | 0, _, _ => refuse
  | m + 1, names, defaults => do
    if ← accept (symbol ")") then return (names, defaults)
    match (← peek).kind with
    | .name id =>
      advance
      let default ←
        if ← accept (symbol "=") then
          let token ← peek
          if token.kind == symbol ")" || token.kind == symbol "," then
            report token.line "expected default value expression".toList
          pure [← value n]
        else pure []
      if default.isEmpty && ! defaults.isEmpty then
        report (← peek).line "non-default argument follows default argument".toList
      let names := names ++ [id]
      let defaults := defaults ++ default
      if ← accept (symbol ",") then parameters n m names defaults
      else
        expect (symbol ")")
        return (names, defaults)
    | _ => refuse

/-- The name after `def` or `class`. -/
def definedName : Parser Text := do
  match (← peek).kind with
  | .name id => advance; return id
  | _ => refuse

/-- The bases of a class, in brackets. -/
def bases (n : Nat) : Parser (List Expr) := do
  if ← accept (symbol "(") then
    let args ← arguments (value n) ⟨[], []⟩ n
    if args.keywords.isEmpty then return args.positional else refuse
  else return []

/-- A compound statement, or a line of simple ones. -/
def anyStatement (statement : Parser (List Stmt)) (n : Nat) : Parser (List Stmt) := do
  let token ← peek
  let line := token.line
  if ← accept (word "if") then return [← branches statement n n "if" line]
  else if ← accept (word "while") then
    let test ← condition n
    checkColon false
    let body ← suite statement n (statementNoun "while") line
    let orelse ← elseSuite statement n
    return [.whileLoop ⟨line, lastLineOf (lastLineOf line body) orelse⟩ test body orelse]
  else if ← accept (word "for") then
    let start ← peek
    let target := ofItems start.line (← tupleOr (operand n) n)
    checkTarget "assign to" start.line target
    expect (word "in")
    let iterable ← values n
    checkColon false
    let body ← suite statement n (statementNoun "for") line
    let orelse ← elseSuite statement n
    return [.forLoop ⟨line, lastLineOf (lastLineOf line body) orelse⟩ target iterable body orelse]
  else if ← accept (word "def") then
    let name ← definedName
    let token ← peek
    if ! (← accept (symbol "(")) then report token.line "expected '('".toList
    let (names, defaults) ← parameters n n [] []
    checkColon true
    let body ← suite statement n "function definition".toList line
    return [.function ⟨line, lastLineOf line body⟩ name names defaults body]
  else if ← accept (word "class") then
    let name ← definedName
    let parents ← bases n
    checkColon false
    let body ← suite statement n "class definition".toList line
    return [.classDef ⟨line, lastLineOf line body⟩ name parents body]
  else simpleLine n n

/-- Statements with blocks at most `depth` deep. -/
def statement (n : Nat) : (depth : Nat) → Parser (List Stmt)
  | 0 => refuse
  | depth + 1 => anyStatement (statement n depth) n

/-- Statements up to the end of the text. -/
def statements (one : Parser (List Stmt)) : Nat → Parser (List Stmt)
  | 0 => refuse
  | m + 1 => do
    if (← peek).kind == .finish then return []
    let ss ← one
    return ss ++ (← statements one m)

end Parser

open Stencil.Code.Parser

/-- How deep blocks may be indented, the outermost statements included. -/
def blockDepth : Nat := 101

/-- Why a text is not code. -/
inductive Unreadable where
  /-- The text is not well-formed: what is wrong and on which line. -/
  | malformed (message : Text) (line : Nat)
  /-- The text holds a NUL character. -/
  | nul
  deriving DecidableEq, Repr

/-- A line kept within the lines of a text. -/
def withinLines (t : Text) (line : Nat) : Nat := max 1 (min line ((codeLines t).count '\n'))

/-- The statements of a code block. Every line in them is a line of the block. -/
def parse (t : Text) : Except Unreadable (List Stmt) :=
  if t.contains '\x00' then .error .nul
  else
    let lexed := tokens t
    match statements (statement rowLength blockDepth) (lexed.tokens.length + 2) ⟨lexed, 1⟩ with
    | .ok (ss, _) => .ok (Stmt.mapLinesAll (withinLines t) ss)
    | .error refusal => .error (.malformed refusal.message (withinLines t refusal.line))

/-- Is the text a code block? -/
def isCode (t : Text) : Bool := (parse t).isOk

end Stencil.Code
