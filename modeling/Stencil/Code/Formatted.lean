import Stencil.Code.Cursor

/-!
# Formatted strings

A formatted string is text with fields between braces; doubled braces stand for one. A field is an
expression, perhaps the letter of a conversion, and perhaps a format, which is again text with
fields.
-/

namespace Stencil.Code.Parser

/-- A field of a formatted string ends its expression at one of these, outside brackets. -/
def endsField (c : Char) : Bool := c == '!' || c == ':' || c == '\x7d' || c == '='

/-- The expression at the front of a field, up to what ends it. -/
def fieldExpression (open_ : List Char) (quote : Option Char) : Text → Text × Text
  | [] => ([], [])
  | c :: t =>
    let continue_ (open_ : List Char) (quote : Option Char) : Text × Text :=
      let cut := fieldExpression open_ quote t
      (c :: cut.1, cut.2)
    match quote with
    | some q => if c = q then continue_ open_ none else continue_ open_ quote
    | none =>
      if c = '\x27' ∨ c = '"' then continue_ open_ (some c)
      else if c = '(' ∨ c = '[' ∨ c = '\x7b' then continue_ (c :: open_) none
      else
        match open_ with
        | [] =>
          if endsField c then
            if t.head? = some '=' ∧ (c = '!' ∨ c = '=') then
              match t with
              | d :: t => let cut := fieldExpression [] none t; (c :: d :: cut.1, cut.2)
              | [] => ([c], [])
            else ([], c :: t)
          else if (c = '<' ∨ c = '>') ∧ t.head? = some '=' then
            match t with
            | d :: t => let cut := fieldExpression [] none t; (c :: d :: cut.1, cut.2)
            | [] => ([c], [])
          else continue_ [] none
        | _ :: outer =>
          if c = ')' ∨ c = ']' ∨ c = '\x7d' then continue_ outer none else continue_ open_ none
termination_by t => t.length
decreasing_by all_goals simp_all +arith

/-- The literal text at the front of a formatted string; doubled braces stand for one. -/
def fieldText (nested : Bool) : Text → Text × Text
  | [] => ([], [])
  | '\\' :: c :: t =>
    if c = '\x7b' ∨ c = '\x7d' then let cut := ([], c :: t); ('\\' :: cut.1, cut.2)
    else let cut := fieldText nested t; ('\\' :: c :: cut.1, cut.2)
  | c :: t =>
    if c = '\x7b' ∨ c = '\x7d' then
      match t with
      | d :: t =>
        if d = c ∧ ! nested then let cut := fieldText nested t; (c :: cut.1, cut.2)
        else ([], c :: d :: t)
      | [] => ([], [c])
    else let cut := fieldText nested t; (c :: cut.1, cut.2)
termination_by t => t.length
decreasing_by all_goals simp_all +arith

/-- The characters of a part of a string. -/
def textOf (raw : Bool) (t : Text) : Parser Text := do
  if raw then return t
  match unescape true 0 t with
  | .ok t => return t
  | .error e => report (← peek).line e.message

/-- The parts of a formatted string. `expression` reads the expression of a field from its text. -/
def formattedParts (line : Nat) (raw : Bool) (expression : Text → Parser Expr) (nested : Bool) :
    Nat → Text → Parser (List Expr × Text)
  | 0, _ => refuse
  | n + 1, t => do
    let (literal, rest) := fieldText nested t
    let literal ← textOf raw literal
    let front : List Expr := if literal.isEmpty then [] else [.constant line (.text literal)]
    let fail {α : Type} (message : String) : Parser α :=
      do report (← peek).line ("f-string: ".toList ++ message.toList)
    match rest with
    | [] => return (front, [])
    | '\x7b' :: rest =>
      let (inside, rest) := fieldExpression [] none rest
      if inside.contains '\\' then
        report (← peek).line "f-string expression part cannot include a backslash".toList
      if rest.isEmpty then fail "expecting '\x7d'"
      if inside.all fun c => isGap c || c == '\n' || c == '\r' then
        fail "empty expression not allowed"
      let value ← expression inside
      let (conversion, rest) ←
        match rest with
        | '!' :: c :: rest =>
          if c = 's' ∨ c = 'r' ∨ c = 'a' then pure (some c, rest)
          else fail "invalid conversion character: expected 's', 'r', or 'a'"
        | rest => pure (none, rest)
      let (format, rest) ←
        match rest with
        | ':' :: rest =>
          let (parts, rest) ← formattedParts line raw expression true n rest
          pure (some (Expr.joined line parts), rest)
        | rest => pure (none, rest)
      match rest with
      | '\x7d' :: rest =>
        let (parts, rest) ← formattedParts line raw expression nested n rest
        return (front ++ Expr.field line value conversion format :: parts, rest)
      | _ => fail "expecting '\x7d'"
    | rest =>
      if nested then return (front, rest)
      fail "single '\x7d' is not allowed"
end Stencil.Code.Parser
