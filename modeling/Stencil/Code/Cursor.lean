import Stencil.Code.Token

/-!
# Reading tokens

A parser takes tokens from the front of a code block or refuses the block. When the next token fits
nothing, the block is refused: with a message of its own where the mistake is a common one, else as
invalid, on the line of that token. A fault of the tokens is reported when reading comes up to it; a
firm one, and a bracket opened above the refused token and never closed, go before any other
message.
-/

namespace Stencil.Code

/-- Why code was refused. A refusal is `lexical` when reading came up to a fault of the tokens. -/
structure Refusal where
  message : Text
  line : Nat
  lexical : Bool
  deriving DecidableEq, Repr

/-- The tokens ahead, and the line on which the token before them ends. -/
structure Cursor where
  ahead : Lexed
  lastLine : Nat
  deriving DecidableEq, Repr

/-- Something that reads tokens. -/
abbrev Parser := StateT Cursor (Except Refusal)

namespace Parser

/-! ## Tokens -/

/-- The next token. -/
def peek : Parser Token := do
  let cursor ← get
  match cursor.ahead.tokens, cursor.ahead.fault with
  | token :: _, _ => return token
  | [], some fault => throw ⟨fault.message, fault.line, true⟩
  | [], none => throw ⟨"invalid syntax".toList, cursor.lastLine, true⟩

/-- Goes behind the next token, whatever it is. -/
def take : Parser Unit :=
  modify fun cursor =>
    match cursor.ahead.tokens with
    | token :: rest => ⟨{ cursor.ahead with tokens := rest }, token.lastLine⟩
    | [] => cursor

/-- Goes behind the next token if that is no mark of the layout. Marks are taken by those who wait for
them. -/
def advance : Parser Unit := do
  if ! (← peek).kind.isMark then take

/-- Refuses the code with a message, unless a fault further on goes before it. -/
def report {α : Type} (line : Nat) (message : Text) : Parser α := do
  let cursor ← get
  let here := (cursor.ahead.tokens.head?.map Token.line).getD line
  match cursor.ahead.fault with
  | some fault =>
    if fault.firm then throw ⟨fault.message, fault.line, false⟩
    match fault.bracket with
    | some (bracket, opened) =>
      if opened < here then throw ⟨neverClosed bracket, opened, false⟩
    | none => pure ()
  | none => pure ()
  throw ⟨message, line, false⟩

/-- Refuses the next token. -/
def refuse {α : Type} : Parser α := do
  let token ← peek
  match token.kind with
  | .indent => throw ⟨"unexpected indent".toList, token.line, false⟩
  | .dedent => throw ⟨"unexpected unindent".toList, token.line, false⟩
  | _ => report token.line "invalid syntax".toList

/-- Is the next token of this kind? -/
def sees (kind : TokenKind) : Parser Bool := return (← peek).kind == kind

/-- Takes the next token if it is of this kind. -/
def accept (kind : TokenKind) : Parser Bool := do
  if ← sees kind then take; return true
  return false

/-- Takes the next token, which must be of this kind. -/
def expect (kind : TokenKind) : Parser Unit := do
  if ! (← accept kind) then refuse

/-- A token for a symbol. -/
def symbol (s : String) : TokenKind := .symbol s.toList

/-- A token for a reserved word. -/
def word (w : String) : TokenKind := .keyword w.toList

/-- The opening brace. -/
def openBrace : TokenKind := .symbol ['\x7b']

/-- The closing brace. -/
def closeBrace : TokenKind := .symbol ['\x7d']

/-- Is the token after the next one the equals sign? Behind a mark of the layout it does not count. -/
def equalsFollows : Parser Bool := do
  match (← get).ahead.tokens with
  | first :: token :: _ => return ! first.kind.isMark && token.kind == symbol "="
  | _ => return false

/-- Would `p` succeed from here? Nothing is taken. A fault of the tokens that `p` comes up to is
reported. -/
def follows {α : Type} (p : Parser α) : Parser Bool := fun cursor =>
  match p cursor with
  | .ok _ => .ok (true, cursor)
  | .error refusal => if refusal.lexical then .error refusal else .ok (false, cursor)

end Parser

end Stencil.Code
