import Stencil.Code.Tree
import Stencil.Decimal.Read
import Stencil.Text.Word

/-!
# Numbers and strings as code writes them

`number` reads the number that a text begins with and says what is wrong with one that is badly
written; `unescape` gives the characters that the inside of a string stands for.
-/

namespace Stencil.Code

/-! ## Numbers -/

/-- Can the character go on with a word of code? Every character beyond ASCII is taken for a letter
until the whole word is seen. -/
def isWordPart (c : Char) : Bool := c.isAlphanum || c == '_' || 128 ≤ c.toNat

/-- Can the character begin a word of code? -/
def isWordStart (c : Char) : Bool := c.isAlpha || c == '_' || 128 ≤ c.toNat

/-- Words that may follow a number without a blank. -/
def wordsAfterNumber : List Text :=
  ["and", "else", "for", "if", "in", "is", "or", "not"].map String.toList

/-- A number must not run into a word of ASCII. -/
def numberEnd {α : Type} (kind : String) (value : α) (rest : Text) : Except Text (α × Text) :=
  if rest.head?.any (fun c => c.toNat < 128 && isWordPart c) &&
      ! wordsAfterNumber.any (·.isPrefixOf rest) then
    .error ("invalid ".toList ++ kind.toList ++ " literal".toList)
  else .ok (value, rest)

/-- The value of a digit in any base up to sixteen. -/
def hexDigitValue (c : Char) : Nat :=
  if c.isDigit then c.toNat - '0'.toNat else c.toLower.toNat - 'a'.toNat + 10

/-- Is the character a hexadecimal digit? -/
def isHexDigit (c : Char) : Bool := c.isDigit || ('a' ≤ c.toLower && c.toLower ≤ 'f')

/-- The digits of a number in base two, eight or sixteen, after the letter that names the base. -/
def radixNumber (base : Nat) (kind : String) (t : Text) : Except Text (Constant × Text) :=
  let isDigit (c : Char) : Bool := isHexDigit c && hexDigitValue c < base
  let invalid : Text := "invalid ".toList ++ kind.toList ++ " literal".toList
  let invalidDigit (c : Char) : Text :=
    "invalid digit '".toList ++ c :: "' in ".toList ++ kind.toList ++ " literal".toList
  let t := if t.head? = some '_' then t.drop 1 else t
  match t with
  | [] => .error invalid
  | c :: _ =>
    if ! isDigit c then .error (if c.isDigit then invalidDigit c else invalid)
    else
      match Decimal.digitRun? isDigit t with
      | none =>
        match (t.dropWhile fun c => isDigit c || c == '_').head? with
        | some d => .error (if d.isDigit then invalidDigit d else invalid)
        | none => .error invalid
      | some (digits, rest) =>
        match rest.head?.filter Char.isDigit with
        | some d => .error (invalidDigit d)
        | none => numberEnd kind
            (.int (digits.foldl (fun n c => base * n + hexDigitValue c) 0)) rest

/-- The digits after the point of a decimal number, if there is a point, and the text after them.
There is nothing when they are badly written. -/
def fraction? (t : Text) : Option (Option Text × Text) :=
  match t with
  | '.' :: rest =>
    if rest.head? = some '_' then some (some [], rest)
    else (Decimal.digitRun? Char.isDigit rest).map fun run => (some run.1, run.2)
  | _ => some (none, t)

/-- Does a text begin with the letter of an exponent that belongs to the number before it? -/
def beginsExponent (t : Text) : Bool :=
  match t with
  | e :: sign :: _ => (e == 'e' || e == 'E') && (sign.isDigit || sign == '+' || sign == '-')
  | _ => false

/-- A decimal number whose digits have been read, up to its exponent if it has one. -/
def decimalEnd (whole : Text) (fraction : Option Text) (t : Text) : Except Text (Constant × Text) :=
  let part := fraction.getD []
  let float (exponent : Int) : Constant :=
    .float (Decimal.toFloat (Decimal.ofDigits (whole ++ part)) (exponent - part.length))
  if beginsExponent t then
    match Decimal.exponent? (t.drop 1) with
    | some (exponent, rest) => numberEnd "decimal" (float exponent) rest
    | none => .error "invalid decimal literal".toList
  else if fraction.isSome then numberEnd "decimal" (float 0) t
  else if whole.head? = some '0' ∧ whole.any (· != '0') then
    .error ("leading zeros in decimal integer literals are not permitted; use an 0o ".toList
      ++ "prefix for octal integers".toList)
  else numberEnd "decimal" (.int (Decimal.ofDigits whole)) t

/-- A decimal number, whole or with a fraction or an exponent. -/
def decimalNumber (t : Text) : Except Text (Constant × Text) :=
  match Decimal.digitRun? Char.isDigit t with
  | none => .error "invalid decimal literal".toList
  | some (whole, rest) =>
    match fraction? rest with
    | none => .error "invalid decimal literal".toList
    | some (fraction, rest) => decimalEnd whole fraction rest

/-- The number that a text begins with, and the text after it. -/
def number (t : Text) : Except Text (Constant × Text) :=
  match t with
  | '0' :: c :: rest =>
    match c.toLower with
    | 'x' => radixNumber 16 "hexadecimal" rest
    | 'o' => radixNumber 8 "octal" rest
    | 'b' => radixNumber 2 "binary" rest
    | _ => decimalNumber t
  | _ => decimalNumber t

/-! ## Strings -/

/-- A character by its number; U+FFFD stands for the numbers that are no characters. -/
def charOfNumber (n : Nat) : Char := if n.isValidChar then Char.ofNat n else '\ufffd'

/-- The number that hexadecimal digits write. -/
def ofHexDigits (digits : Text) : Nat := digits.foldl (fun n c => 16 * n + hexDigitValue c) 0

/-- The character that a letter after a backslash stands for. -/
def simpleEscape? (c : Char) : Option Char :=
  [('\\', '\\'), ('\x27', '\x27'), ('"', '"'), ('a', '\x07'), ('b', '\x08'), ('f', '\x0c'),
   ('n', '\n'), ('r', '\r'), ('t', '\t'), ('v', '\x0b')].lookup c

/-- How many hexadecimal digits follow the letter of a numeric escape. -/
def escapeWidth? (wide : Bool) (c : Char) : Option Nat :=
  if c = 'x' then some 2
  else if wide ∧ c = 'u' then some 4
  else if wide ∧ c = 'U' then some 8
  else none

/-- Why an escape in a string means nothing: where it begins, where it ends, and what is wrong.
Positions count a character beyond ASCII as the ten characters of its widest escape. -/
structure BadEscape where
  first : Nat
  last : Nat
  reason : Text
  deriving DecidableEq, Repr

/-- How many positions a character takes in a string. -/
def positionWidth (c : Char) : Nat := if c.toNat < 128 then 1 else 10

/-- The characters inside a string, given the characters of its spelling. An escape that has no
meaning stands for itself. The `wide` escapes are those of strings of text. -/
def unescape (wide : Bool) (position : Nat) : Text → Except BadEscape Text
  | [] => .ok []
  | '\\' :: '\n' :: t => unescape wide (position + 2) t
  | '\\' :: c :: t =>
    match simpleEscape? c, escapeWidth? wide c with
    | some d, _ => (unescape wide (position + 2) t).map (d :: ·)
    | none, some width =>
      let digits := (t.take width).takeWhile isHexDigit
      let last := position + 1 + digits.length
      if digits.length < width then
        .error ⟨position, last, "truncated \\".toList ++ c ::
          List.replicate width 'X' ++ " escape".toList⟩
      else if 0x110000 ≤ ofHexDigits digits then
        .error ⟨position, last, "illegal Unicode character".toList⟩
      else
        (unescape wide (last + 1) (t.drop width)).map (charOfNumber (ofHexDigits digits) :: ·)
    | none, none =>
      let isOctal (c : Char) : Bool := '0' ≤ c && c ≤ '7'
      if isOctal c then
        let digits := c :: (t.take 2).takeWhile isOctal
        let n := digits.foldl (fun n c => 8 * n + hexDigitValue c) 0
        (unescape wide (position + 1 + digits.length) (t.drop (digits.length - 1))).map
          (charOfNumber n :: ·)
      else
        (unescape wide (position + 1 + positionWidth c) t).map fun rest => '\\' :: c :: rest
  | c :: t => (unescape wide (position + positionWidth c) t).map (c :: ·)
termination_by t => t.length
decreasing_by all_goals simp only [List.length_cons, List.length_drop]; omega

/-- What is said of a bad escape. -/
def BadEscape.message (e : BadEscape) : Text :=
  "(unicode error) 'unicodeescape' codec can't decode bytes in position ".toList ++
    Text.ofNat e.first ++ '-' :: Text.ofNat e.last ++ ": ".toList ++ e.reason

end Stencil.Code
