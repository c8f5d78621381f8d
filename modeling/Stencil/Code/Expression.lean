import Stencil.Code.Formatted

/-!
# Reading expressions

One parser for each level of the grammar, from the loosest operator to the tightest. `inner` is the
parser for an expression in brackets and `n` bounds the number of operators in a row.
-/

namespace Stencil.Code.Parser

/-! ## Mistakes with messages of their own -/

/-- What an expression is called in a message. -/
def describe : Expr → Text
  | .name .. => "name".toList
  | .constant _ .none => "None".toList
  | .constant _ (.bool true) => "True".toList
  | .constant _ (.bool false) => "False".toList
  | .constant _ .ellipsis => "ellipsis".toList
  | .constant .. => "literal".toList
  | .joined .. | .field .. => "f-string expression".toList
  | .tuple .. => "tuple".toList
  | .list .. => "list".toList
  | .dict .. => "dict literal".toList
  | .attribute .. => "attribute".toList
  | .subscript .. | .slice .. => "subscript".toList
  | .call .. => "function call".toList
  | .unary .. | .binary .. | .boolean .. => "expression".toList
  | .compare .. => "comparison".toList
  | .conditional .. => "conditional expression".toList
  | .yield .. => "yield expression".toList

/-- Can a token begin an expression, and go on with none? -/
def beginsOperand (kind : TokenKind) : Bool :=
  match kind with
  | .name _ | .number _ | .string _ => true
  | .keyword w => ["None", "True", "False", "not"].any (·.toList == w)
  | .symbol s => s == ['\x7b'] || s == ['~'] || s == "...".toList
  | _ => false

/-- Can a token begin an expression? -/
def beginsExpression (kind : TokenKind) : Bool :=
  beginsOperand kind || ["(", "[", "-", "+"].any (symbol · == kind)

/-- Statements that were once written without brackets around what they act on. -/
def isOldStatement : Expr → Bool
  | .name _ id => id == "print".toList || id == "exec".toList
  | _ => false

/-- Refuses an expression that runs into another one. Outside brackets that is left to others, but a
fault of the tokens in the other one comes up here. -/
def checkEnd (inner : Parser Expr) (start : Token) (e : Expr) : Parser Unit := do
  let token ← peek
  if beginsOperand token.kind then
    let around := if token.kind == openBrace then token.depth - 1 else token.depth
    match e, token.kind with
    | .name _ id, .string _ =>
      if isOldStatement e then
        if ← follows inner then report start.line (oldStatement id)
    | .name _ id, _ =>
      if ← follows inner then
        if isOldStatement e then report start.line (oldStatement id)
        if 0 < around then report start.line forgottenComma
    | _, _ =>
      if ← follows inner then
        if 0 < around then report start.line forgottenComma
where
  /-- What is said of a call without brackets. -/
  oldStatement (id : Text) : Text :=
    "Missing parentheses in call to '".toList ++ id ++ "'. Did you mean ".toList ++ id ++
      "(...)?".toList
  /-- What is said of neighbours in brackets. -/
  forgottenComma : Text := "invalid syntax. Perhaps you forgot a comma?".toList

/-- Is the expression written without words between its operands? -/
def isArithmetic : Expr → Bool
  | .compare .. | .boolean .. | .unary _ .not _ | .conditional .. => false
  | _ => true

/-- Refuses an assignment where a value is wanted. -/
def checkNotAssigned (operand : Parser Expr) (start : Token) (e : Expr) : Parser Unit := do
  if ← sees (symbol "=") then
    let attempt : Parser Unit := do
      advance
      let _ ← operand
      if ← sees (symbol "=") then refuse
    match e with
    | .name .. =>
      if ← follows attempt then
        report start.line
          "invalid syntax. Maybe you meant '==' or ':=' instead of '='?".toList
    | .list .. | .tuple .. | .constant _ .none | .constant _ (.bool _) => pure ()
    | e =>
      if isArithmetic e then
        if ← follows attempt then
          report start.line ("cannot assign to ".toList ++ describe e ++
            " here. Maybe you meant '==' instead of '='?".toList)

/-! ## Strings -/

/-- Reads the expression in a field of a formatted string on line `line`. -/
def fieldValue (inner : Parser Expr) (line : Nat) (t : Text) : Parser Expr := do
  let whole : Parser Expr := do
    expect (symbol "(")
    let e ← inner
    expect (symbol ")")
    return e
  match whole ⟨tokens ('(' :: t ++ [')']), line⟩ with
  | .ok (e, _) => return e.mapLines (· + line - 1)
  | .error refusal =>
    report (refusal.line + line - 1) ("f-string: ".toList ++ refusal.message)

/-- The parts that a string contributes to the text it belongs to. -/
def stringParts (inner : Parser Expr) (line : Nat) (s : StringToken) : Parser (List Expr) := do
  if s.formatted then
    let (parts, _) ← formattedParts line s.raw (fieldValue inner line) false
      (s.inside.length + 1) s.inside
    return parts
  else
    let t ← textOf s.raw s.inside
    return [.constant line (.text t)]

/-- Joins neighbouring texts; empty ones are left out. -/
def mergeTexts : List Expr → List Expr
  | [] => []
  | .constant line (.text t) :: rest =>
    match mergeTexts rest with
    | .constant _ (.text u) :: rest => .constant line (.text (t ++ u)) :: rest
    | rest => if t.isEmpty then rest else .constant line (.text t) :: rest
  | e :: rest => e :: mergeTexts rest

/-- The bytes that a string of bytes stands for. -/
def bytesOf (s : StringToken) : Parser (List UInt8) := do
  if s.inside.any fun c => 128 ≤ c.toNat then
    report (← peek).line "bytes can only contain ASCII literal characters".toList
  let t ←
    if s.raw then pure s.inside
    else
      match unescape false 0 s.inside with
      | .ok t => pure t
      | .error e =>
        report (← peek).line
          ("(value error) invalid \\x escape at position ".toList ++ Text.ofNat e.first)
  return t.map fun c => c.toNat.toUInt8

/-- Strings that stand one after the other. -/
def strings (inner : Parser Expr) (line : Nat) : Nat → Parser (List (Nat × StringToken))
  | 0 => return []
  | n + 1 => do
    let token ← peek
    match token.kind with
    | .string s =>
      advance
      return (token.line, s) :: (← strings inner line n)
    | _ => return []

/-- The value of strings that stand one after the other. -/
def stringValue (inner : Parser Expr) (line : Nat) (found : List (Nat × StringToken)) :
    Parser Expr := do
  if found.all (·.2.bytes) then
    let parts ← found.mapM fun entry => bytesOf entry.2
    return .constant line (.bytes parts.flatten)
  if found.any (·.2.bytes) then
    report (← peek).line "cannot mix bytes and nonbytes literals".toList
  let parts ← found.mapM fun entry => stringParts inner entry.1 entry.2
  let parts := mergeTexts parts.flatten
  if found.any (·.2.formatted) then return .joined line parts
  match parts with
  | [.constant _ value] => return .constant line value
  | _ => return .constant line (.text [])

/-! ## Brackets -/

/-- Expressions with commas between them, up to a closing bracket; tells whether a comma was met. -/
def items (element : Parser Expr) (closer : TokenKind) : Nat → Parser (List Expr × Bool)
  | 0 => refuse
  | n + 1 => do
    if ← accept closer then return ([], false)
    let e ← element
    if ← accept (symbol ",") then
      let (es, _) ← items element closer n
      return (e :: es, true)
    expect closer
    return ([e], false)

/-- Keys with their values, up to the closing brace. -/
def entries (inner : Parser Expr) : Nat → Parser (List (Expr × Expr))
  | 0 => refuse
  | n + 1 => do
    if ← accept closeBrace then return []
    let key ← inner
    let token ← peek
    if ! (← accept (symbol ":")) then
      if token.kind == symbol "," || token.kind == closeBrace then
        report token.line "':' expected after dictionary key".toList
      refuse
    let token ← peek
    if token.kind == symbol "," || token.kind == closeBrace then
      report token.line "expression expected after dictionary key and ':'".toList
    let value ← inner
    if ← accept (symbol ",") then return (key, value) :: (← entries inner n)
    expect closeBrace
    return [(key, value)]

/-- Arguments of a call: values, then keywords with their values. -/
structure Arguments where
  positional : List Expr
  keywords : List (Text × Expr)

/-- The arguments of a call, up to the closing bracket. -/
def arguments (inner : Parser Expr) (args : Arguments) : Nat → Parser Arguments
  | 0 => refuse
  | n + 1 => do
    if ← accept (symbol ")") then return args
    let token ← peek
    let named ← equalsFollows
    let args ←
      match token.kind, named with
      | .name id, true =>
        advance
        advance
        let value ← inner
        pure { args with keywords := args.keywords ++ [(id, value)] }
      | .keyword w, true =>
        if ["None", "True", "False"].any (·.toList == w) then
          report token.line ("cannot assign to ".toList ++ w)
        else refuse
      | _, _ =>
        let e ← inner
        if ← sees (symbol "=") then
          report token.line
            "expression cannot contain assignment, perhaps you meant \"==\"?".toList
        if ! args.keywords.isEmpty then
          report (← peek).line "positional argument follows keyword argument".toList
        pure { args with positional := args.positional ++ [e] }
    if ← accept (symbol ",") then arguments inner args n
    else
      expect (symbol ")")
      return args

/-- An expression, or several with commas between them, which make a tuple. -/
def tupleOr (element : Parser Expr) : Nat → Parser (List Expr × Bool)
  | 0 => refuse
  | n + 1 => do
    let e ← element
    if ← accept (symbol ",") then
      if beginsExpression (← peek).kind then
        let (es, _) ← tupleOr element n
        return (e :: es, true)
      return ([e], true)
    return ([e], false)

/-- The expressions as one: a single one without a comma stands for itself. -/
def ofItems (line : Nat) : List Expr × Bool → Expr
  | ([e], false) => e
  | (es, _) => .tuple line es

/-- What follows the word `yield`. -/
def yieldValue (element : Parser Expr) (line n : Nat) : Parser Expr := do
  if beginsExpression (← peek).kind then
    return .yield line (some (ofItems (← peek).line (← tupleOr element n)))
  return .yield line none

/-- A name, a constant, or something in brackets. -/
def atom (inner operand : Parser Expr) (n : Nat) : Parser Expr := do
  let token ← peek
  let line := token.line
  let element : Parser Expr := do
    let start ← peek
    let e ← inner
    checkNotAssigned operand start e
    return e
  match token.kind with
  | .name id => advance; return .name line id
  | .number value => advance; return .constant line value
  | .string _ => stringValue inner line (← strings inner line n)
  | .keyword w =>
    if w = "None".toList then advance; return .constant line .none
    else if w = "True".toList then advance; return .constant line (.bool true)
    else if w = "False".toList then advance; return .constant line (.bool false)
    else refuse
  | .symbol s =>
    if s = "(".toList then
      advance
      if ← accept (word "yield") then
        let e ← yieldValue inner line n
        expect (symbol ")")
        return e
      let (es, comma) ← items element (symbol ")") n
      match es, comma with
      | [e], false => return e
      | es, _ => return .tuple line es
    else if s = "[".toList then
      advance
      return .list line (← items element (symbol "]") n).1
    else if s = ['\x7b'] then
      advance
      let pairs ← entries inner n
      return .dict line (pairs.map Prod.fst) (pairs.map Prod.snd)
    else if s = "...".toList then advance; return .constant line .ellipsis
    else refuse
  | _ => refuse

/-! ## What follows an operand -/

/-- An index, or a slice with its bounds. -/
def indexOrSlice (inner : Parser Expr) : Parser Expr := do
  let line := (← peek).line
  let bound : Parser (Option Expr) := do
    if beginsExpression (← peek).kind then return some (← inner) else return none
  if ← sees (symbol ":") then
    advance
    sliceFrom bound line none
  else
    let e ← inner
    if ← accept (symbol ":") then sliceFrom bound line (some e) else return e
where
  /-- The bounds after the first colon. -/
  sliceFrom (bound : Parser (Option Expr)) (line : Nat) (lower : Option Expr) : Parser Expr := do
    let upper ← bound
    let step ← if ← accept (symbol ":") then bound else pure none
    return .slice line lower upper step

/-- Attributes, calls and subscripts after an operand that begins on line `line`. -/
def trailers (inner : Parser Expr) (line : Nat) : Nat → Expr → Parser Expr
  | 0, _ => refuse
  | n + 1, e => do
    if ← accept (symbol ".") then
      let token ← peek
      match token.kind with
      | .name id => advance; trailers inner line n (.attribute line token.line e id)
      | _ => refuse
    else if ← accept (symbol "(") then
      let args ← arguments inner ⟨[], []⟩ (n + 1)
      trailers inner line n
        (.call line e args.positional (args.keywords.map Prod.fst) (args.keywords.map Prod.snd))
    else if ← accept (symbol "[") then
      let token ← peek
      if ← sees (symbol "]") then refuse
      let found ← items (indexOrSlice inner) (symbol "]") (n + 1)
      trailers inner line n (.subscript line e (ofItems token.line found))
    else return e

/-! ## Operators -/

/-- Signs and powers. A power binds tighter than a sign on its left and looser than one on its
right. -/
def factor (inner operand : Parser Expr) : Nat → Parser Expr
  | 0 => refuse
  | n + 1 => do
    let line := (← peek).line
    if ← accept (symbol "-") then return .unary line .negative (← factor inner operand n)
    else if ← accept (symbol "+") then return .unary line .positive (← factor inner operand n)
    else
      let base ← trailers inner line (n + 1) (← atom inner operand (n + 1))
      if ← accept (symbol "**") then
        return .binary line .pow base (← factor inner operand n)
      return base

/-- Operators of one level, which group to the left. -/
def leftGrouped (ops : List (String × BinaryOp)) (operand : Parser Expr) (line : Nat) :
    Nat → Expr → Parser Expr
  | 0, _ => refuse
  | n + 1, left => do
    let token ← peek
    match ops.find? fun op => symbol op.1 == token.kind with
    | some (_, op) =>
      advance
      let right ← operand
      leftGrouped ops operand line n (.binary line op left right)
    | none => return left

/-- Products and quotients. -/
def term (inner operand : Parser Expr) (n : Nat) : Parser Expr := do
  let line := (← peek).line
  let left ← factor inner operand n
  leftGrouped [("*", .mul), ("/", .div), ("//", .floorDiv), ("%", .mod)]
    (factor inner operand n) line n left

/-- Sums and differences. -/
def sum (inner operand : Parser Expr) (n : Nat) : Parser Expr := do
  let line := (← peek).line
  let left ← term inner operand n
  leftGrouped [("+", .add), ("-", .sub)] (term inner operand n) line n left

/-- The comparison at the front of the tokens, taken if there is one. -/
def comparison? : Parser (Option CompareOp) := do
  let token ← peek
  let simple : List (String × CompareOp) :=
    [("==", .eq), ("!=", .ne), ("<", .lt), ("<=", .le), (">", .gt), (">=", .ge)]
  match simple.find? fun op => symbol op.1 == token.kind with
  | some (_, op) => advance; return some op
  | none =>
    if ← accept (word "in") then return some .isIn
    else if ← accept (word "is") then
      if ← accept (word "not") then return some .isNot else return some .is
    else if token.kind == word "not" then
      let isIn : Parser Unit := do
        advance
        expect (word "in")
      if ← follows isIn then
        advance
        advance
        return some .notIn
      return none
    else return none

/-- The comparisons after an operand. -/
def comparisons (operand : Parser Expr) : Nat → Parser (List (CompareOp × Expr))
  | 0 => refuse
  | n + 1 => do
    match ← comparison? with
    | some op =>
      let right ← operand
      return (op, right) :: (← comparisons operand n)
    | none => return []

/-- Comparisons, with any number of `not` in front. -/
def inversion (arithmetic : Parser Expr) : Nat → Parser Expr
  | 0 => refuse
  | n + 1 => do
    let line := (← peek).line
    if ← accept (word "not") then return .unary line .not (← inversion arithmetic n)
    let left ← arithmetic
    match ← comparisons arithmetic (n + 1) with
    | [] => return left
    | chain => return .compare line left (chain.map Prod.fst) (chain.map Prod.snd)

/-- Operands with a word between them. -/
def chained (between : TokenKind) (operand : Parser Expr) : Nat → Parser (List Expr)
  | 0 => refuse
  | n + 1 => do
    let e ← operand
    if ← accept between then return e :: (← chained between operand n)
    return [e]

/-- Operands joined by `and` or `or`. -/
def junction (op : BoolOp) (between : TokenKind) (operand : Parser Expr) (n : Nat) :
    Parser Expr := do
  let line := (← peek).line
  match ← chained between operand n with
  | [e] => return e
  | es => return .boolean line op es

/-- Arithmetic on operands whose brackets hold what `inner` reads. -/
def arithmetic (inner : Parser Expr) (n : Nat) : Parser Expr := sum inner (sum inner inner n) n

/-- A disjunction. -/
def disjunction (inner : Parser Expr) (n : Nat) : Parser Expr :=
  junction .or (word "or") (junction .and (word "and") (inversion (arithmetic inner n) n) n) n

/-- A disjunction, or a choice between two expressions. -/
def conditional (inner : Parser Expr) (n : Nat) : Nat → Parser Expr
  | 0 => refuse
  | m + 1 => do
    let start ← peek
    let body ← disjunction inner n
    if ← accept (word "if") then
      let test ← disjunction inner n
      if ← accept (word "else") then
        let orelse ← conditional inner n m
        return .conditional start.line test body orelse
      else if ← sees (symbol ":") then refuse
      else report start.line "expected 'else' after 'if' expression".toList
    else
      checkEnd (conditional inner n m) start body
      return body

/-- An expression with brackets at most `depth` deep. -/
def expression (n : Nat) : (depth : Nat) → Parser Expr
  | 0 => refuse
  | depth + 1 => conditional (expression n depth) n (n + 1)

end Stencil.Code.Parser
