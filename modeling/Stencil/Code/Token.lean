import Stencil.Code.Literal
import Stencil.Text.CompatibilityForm
import Stencil.Text.Lines
import Stencil.Text.Printable

/-!
# Tokens of embedded code

A code block is cut into words, numbers, strings and operators, with marks where a line of code
ends and where the indentation grows or shrinks. Inside brackets line ends and indentation mean
nothing, and a backslash at the end of a line joins the next line to it.

Cutting stops at the first fault. Whoever reads the tokens meets the fault only when the tokens
before it are used up, so a fault says whether it is *firm*: a firm fault is reported even when
reading fails before it is reached.
-/

namespace Stencil.Code

/-- A string as it is written: its inside, and what the letters in front of it say. -/
structure StringToken where
  raw : Bool
  bytes : Bool
  formatted : Bool
  inside : Text
  deriving DecidableEq, Repr

/-- What a token is. -/
inductive TokenKind where
  | name (id : Text)
  | keyword (word : Text)
  | number (value : Constant)
  | string (s : StringToken)
  | symbol (s : Text)
  | newline
  | indent
  | dedent
  | finish
  deriving DecidableEq, Repr

/-- Is it a mark of the layout: the end of a line, a change of the indentation, or the end of the text?
-/
def TokenKind.isMark : TokenKind → Bool
  | .newline | .indent | .dedent | .finish => true
  | _ => false

/-- A token with the lines it begins and ends on, and the number of brackets around it. -/
structure Token where
  kind : TokenKind
  line : Nat
  lastLine : Nat
  depth : Nat
  deriving DecidableEq, Repr

/-- Why code could not be cut further, with the innermost bracket open at that point. -/
structure LexFault where
  message : Text
  line : Nat
  firm : Bool
  bracket : Option (Char × Nat)
  deriving DecidableEq, Repr

/-- The tokens before the first fault. Without a fault the last token is the mark of the end. -/
structure Lexed where
  tokens : List Token
  fault : Option LexFault
  deriving DecidableEq, Repr

namespace Lexed

/-- Puts a token in front. -/
def cons (token : Token) (rest : Lexed) : Lexed := { rest with tokens := token :: rest.tokens }

/-- No token but a fault. -/
def stop (fault : LexFault) : Lexed := ⟨[], some fault⟩

end Lexed

/-- What has been met so far: the line, the indentations in force, innermost first, and the open
brackets, innermost first. Indentation is measured twice, with tabs that reach to the next multiple
of eight and with tabs that count as one blank; the two must agree on what is deeper. -/
structure Layout where
  line : Nat
  indents : List (Nat × Nat)
  brackets : List (Char × Nat)
  deriving DecidableEq, Repr

namespace Layout

/-- The layout at the beginning of a text. -/
def start : Layout := ⟨1, [], []⟩

/-- The indentation in force. -/
def indent (st : Layout) : Nat × Nat := st.indents.headD (0, 0)

/-- A token on the present line. -/
def token (st : Layout) (kind : TokenKind) : Token := ⟨kind, st.line, st.line, st.brackets.length⟩

/-- A fault on the present line. -/
def fault (st : Layout) (firm : Bool) (message : Text) : LexFault :=
  ⟨message, st.line, firm, st.brackets.head?⟩

/-- The layout one line further down. -/
def nextLine (st : Layout) : Layout := { st with line := st.line + 1 }

end Layout

/-- What is said of a bracket without its partner. -/
def neverClosed (bracket : Char) : Text := '\x27' :: bracket :: "' was never closed".toList

/-- The fault of a text that ends too early; `last` is its last line. -/
def endFault (st : Layout) (last : Nat) : LexFault :=
  match st.brackets with
  | (c, line) :: _ => ⟨neverClosed c, line, false, some (c, line)⟩
  | [] => ⟨"unexpected EOF while parsing".toList, last, false, none⟩

/-! ## Indentation -/

/-- The indentation of a line: both measures, how many lines a backslash joined to it, and the text
after it. There is none when a backslash does not end its line. -/
def measureIndent (column narrow : Nat) (held : Option (Nat × Nat)) (joined : Nat) :
    Text → Option (Nat × Nat × Nat × Text)
  | ' ' :: t => measureIndent (column + 1) (narrow + 1) held joined t
  | '\t' :: t => measureIndent ((column / 8 + 1) * 8) (narrow + 1) held joined t
  | '\x0c' :: t => measureIndent 0 0 held joined t
  | '\\' :: '\n' :: t =>
    let held := held.or (if column = 0 then none else some (column, column))
    measureIndent column narrow held (joined + 1) t
  | '\\' :: _ => none
  | t =>
    let (column, narrow) := held.getD (column, narrow)
    some (column, narrow, joined, t)

/-- The marks for a line with the given indentation, and the layout from there on. -/
def indentMarks (st : Layout) (column narrow : Nat) : Except LexFault (List Token × Layout) :=
  let mixed := st.fault false "inconsistent use of tabs and spaces in indentation".toList
  let (now, nowNarrow) := st.indent
  if column = now then
    if narrow = nowNarrow then .ok ([], st) else .error mixed
  else if now < column then
    if st.indents.length + 2 > 100 then
      .error (st.fault false "too many levels of indentation".toList)
    else if narrow ≤ nowNarrow then .error mixed
    else .ok ([st.token .indent], { st with indents := (column, narrow) :: st.indents })
  else
    let kept := st.indents.dropWhile fun level => column < level.1
    let below : Layout := { st with indents := kept }
    if column ≠ below.indent.1 then
      .error (st.fault false
        "unindent does not match any outer indentation level".toList)
    else if narrow ≠ below.indent.2 then .error mixed
    else .ok (List.replicate (st.indents.length - kept.length) (st.token .dedent), below)

/-! ## Words, strings and symbols -/

/-- Four or more capital hexadecimal digits of a code point. -/
def codePointText (c : Char) : Text :=
  "U+".toList ++ (Text.hex 4 c.toNat).map Char.toUpper

/-- What is said of a character that code cannot hold. -/
def invalidCharacter (c : Char) : Text :=
  if Text.isPrintable c then
    "invalid character '".toList ++ c :: "' (".toList ++ codePointText c ++ ")".toList
  else "invalid non-printable character ".toList ++ codePointText c

/-- The first character of a word that keeps it from being an identifier. -/
def badCharacter? : Text → Option Char
  | [] => none
  | c :: t => if Text.isNameStart c then t.find? (! Text.isNameChar ·) else some c

/-- A word as a token. Identifiers are compared in their compatibility form; the reserved words are
known by their exact spelling. -/
def wordToken (word : Text) : Except Text TokenKind :=
  match badCharacter? word with
  | some c => .error (invalidCharacter c)
  | none =>
    if Text.reservedWords.contains word then .ok (.keyword word)
    else .ok (.name (Text.compatibilityForm word))

/-- The letters that may stand in front of a string. -/
def stringLetters : List Text :=
  ["", "r", "b", "u", "f", "br", "rb", "fr", "rf"].map String.toList

/-- The letters and the quote that a string begins with, and the text after the quote. -/
def stringStart? (t : Text) : Option (Text × Char × Text) :=
  let letters := (t.take 2).takeWhile Char.isAlpha
  match t.drop letters.length with
  | quote :: rest =>
    let letters := letters.map Char.toLower
    if (quote == '"' || quote == '\x27') && stringLetters.contains letters then
      some (letters, quote, rest)
    else none
  | [] => none

/-- The inside of a string up to a quote of the given length, and the text after it. A string with
a single quote ends on its line unless a backslash stands before the line end. -/
def stringInside (quote : Char) (long : Bool) : Text → Option (Text × Text)
  | [] => none
  | '\\' :: c :: t => (stringInside quote long t).map fun cut => ('\\' :: c :: cut.1, cut.2)
  | c :: t =>
    let whole := if long then [quote, quote] else []
    match if c = quote then Text.after? whole t else none with
    | some rest => some ([], rest)
    | none =>
      if c = '\n' && ! long then none
      else (stringInside quote long t).map fun cut => (c :: cut.1, cut.2)

/-- How far a string that is never closed reaches, in lines. -/
def openLines (long : Bool) : Text → Nat
  | '\\' :: '\n' :: t => 1 + openLines long t
  | '\\' :: _ :: t => openLines long t
  | '\n' :: t => if long then 1 + openLines long t else 0
  | _ :: t => openLines long t
  | [] => 0

/-- The symbols of more than one character, longer ones first. -/
def longSymbols : List Text :=
  ["**=", "//=", ">>=", "<<=", "...", "**", "//", ">>", "<<", "<=", ">=", "==", "!=", "<>", "->",
   "+=", "-=", "*=", "/=", "%=", "&=", "|=", "^=", "@=", ":="].map String.toList

/-- The bracket that closes a bracket. -/
def closingOf (c : Char) : Char :=
  if c = '(' then ')' else if c = '[' then ']' else '\x7d'

/-- The symbol that a text begins with; brackets are remembered until they are closed. -/
def readSymbol (st : Layout) (c : Char) (t : Text) :
    Except LexFault (Token × Layout × Text) :=
  match longSymbols.find? (·.isPrefixOf (c :: t)) with
  | some s => .ok (st.token (.symbol s), st, (c :: t).drop s.length)
  | none =>
    if c = '(' ∨ c = '[' ∨ c = '\x7b' then
      if 200 ≤ st.brackets.length then
        .error (st.fault true "too many nested parentheses".toList)
      else
        let inner := { st with brackets := (c, st.line) :: st.brackets }
        .ok (inner.token (.symbol [c]), inner, t)
    else if c = ')' ∨ c = ']' ∨ c = '\x7d' then
      match st.brackets with
      | [] => .error (st.fault true ("unmatched '".toList ++ [c, '\x27']))
      | (o, line) :: outer =>
        if closingOf o = c then
          let outside := { st with brackets := outer }
          .ok (outside.token (.symbol [c]), outside, t)
        else
          let place : Text := if line = st.line then [] else " on line ".toList ++ Text.ofNat line
          .error (st.fault true ("closing parenthesis '".toList ++ c ::
            "' does not match opening parenthesis '".toList ++ o :: '\x27' :: place))
    else if Text.isPrintable c then .ok (st.token (.symbol [c]), st, t)
    else .error (st.fault true (invalidCharacter c))

/-- The string, word, number or symbol that a text begins with. -/
def readToken (st : Layout) (last : Nat) (c : Char) (t : Text) :
    Except LexFault (Token × Layout × Text) :=
  match stringStart? (c :: t) with
  | some (letters, quote, rest) =>
    let long := (Text.after? [quote, quote] rest).isSome
    let body := if long then rest.drop 2 else rest
    match stringInside quote long body with
    | some (inside, rest) =>
      let lines := inside.count '\n'
      let kind := TokenKind.string
        { raw := letters.contains 'r', bytes := letters.contains 'b'
          formatted := letters.contains 'f', inside }
      .ok ({ st.token kind with lastLine := st.line + lines },
        { st with line := st.line + lines }, rest)
    | none =>
      let what : Text := if long then "unterminated triple-quoted string literal".toList
        else "unterminated string literal".toList
      .error (st.fault true (what ++ " (detected at line ".toList ++
        Text.ofNat (min last (st.line + openLines long body)) ++ ")".toList))
  | none =>
    if isWordStart c then
      match wordToken ((c :: t).takeWhile isWordPart) with
      | .ok kind => .ok (st.token kind, st, (c :: t).dropWhile isWordPart)
      | .error message => .error (st.fault true message)
    else if c.isDigit || (c == '.' && t.head?.any Char.isDigit) then
      match number (c :: t) with
      | .ok (value, rest) => .ok (st.token (.number value), st, rest)
      | .error message => .error (st.fault true message)
    else readSymbol st c t

/-! ## Cutting -/

/-- Does a line of code begin with blanks between tokens? -/
def isGap (c : Char) : Bool := c == ' ' || c == '\t' || c == '\x0c'

/-- Cuts a text whose every line has its end. `fresh` says that a line begins outside brackets,
`last` is the number of lines, and `fuel` bounds the number of steps. -/
def tokensFrom (last : Nat) : (fuel : Nat) → Layout → (fresh : Bool) → Text → Lexed
  | 0, st, _, _ => .stop (st.fault true "unknown parsing error".toList)
  | fuel + 1, st, true, t =>
    match measureIndent 0 0 none 0 t with
    | none =>
      .stop (st.fault false "unexpected character after line continuation character".toList)
    | some (column, narrow, joined, rest) =>
      let st := { st with line := st.line + joined }
      match rest with
      | [] =>
        if joined = 0 then
          let st := { st with line := last }
          ⟨st.indents.map (fun _ => st.token .dedent) ++ [st.token .finish], none⟩
        else .stop (endFault st last)
      | c :: _ =>
        if c = '#' ∨ c = '\n' then
          tokensFrom last fuel st.nextLine true ((rest.dropWhile (· != '\n')).drop 1)
        else
          match indentMarks st column narrow with
          | .error fault => .stop fault
          | .ok (marks, st) =>
            let more := tokensFrom last fuel st false rest
            { more with tokens := marks ++ more.tokens }
  | fuel + 1, st, false, t =>
    match t.dropWhile isGap with
    | [] => .stop (endFault st last)
    | '#' :: t => tokensFrom last fuel st false (t.dropWhile (· != '\n'))
    | '\n' :: t =>
      if st.brackets.isEmpty then
        .cons (st.token .newline) (tokensFrom last fuel st.nextLine true t)
      else tokensFrom last fuel st.nextLine false t
    | '\\' :: '\n' :: [] => .stop (endFault st last)
    | '\\' :: '\n' :: t => tokensFrom last fuel st.nextLine false t
    | '\\' :: _ =>
      .stop (st.fault false "unexpected character after line continuation character".toList)
    | c :: t =>
      match readToken st last c t with
      | .error fault => .stop fault
      | .ok (token, st, rest) => .cons token (tokensFrom last fuel st false rest)

/-- The text with every line ended by a newline. A text that ends in a carriage return and a newline
is given an empty line more. -/
def codeLines (t : Text) : Text :=
  let lines := Text.unixNewlines t
  if ['\n', '\r'].isPrefixOf t.reverse || lines.getLast? ≠ some '\n' then lines ++ ['\n']
  else lines

/-- Cuts a code block into tokens. -/
def tokens (t : Text) : Lexed :=
  let lines := codeLines t
  tokensFrom (lines.count '\n') (2 * lines.length + 2) .start true lines

end Stencil.Code
