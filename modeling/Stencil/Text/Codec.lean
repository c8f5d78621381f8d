import Stencil.Text.Basic

/-!
# Text as bytes

The three codecs a template or an output file can be written in, with the exact place and reason of
every byte that cannot be read and every character that cannot be written.

UTF-8 is read unit by unit (`utf8Unit`): a unit is the bytes of one character, or the longest start
of one that the next byte breaks. Strict reading stops at the first broken unit; tolerant reading
(`decodeTolerant`) puts U+FFFD in its place.
-/

namespace Stencil

/-- How characters are written as bytes. -/
inductive Codec where
  | utf8
  | latin1
  | ascii
  deriving DecidableEq, Repr

/-- Why a byte could not be read. -/
inductive DecodeReason where
  | badStart
  | badContinuation
  | truncated
  | beyondAscii
  deriving DecidableEq, Repr

/-- Bytes that could not be read: where they begin, how many they are, and the first of them. -/
structure Undecodable where
  codec : Codec
  position : Nat
  count : Nat
  byte : UInt8
  reason : DecodeReason
  deriving DecidableEq, Repr

/-- Characters that could not be written: where they begin, how many they are, the first of them. -/
structure Unencodable where
  codec : Codec
  position : Nat
  count : Nat
  char : Char
  deriving DecidableEq, Repr

namespace Codec

/-- The name that error messages give a codec. -/
def label : Codec → Text
  | .utf8 => "utf-8".toList
  | .latin1 => "latin-1".toList
  | .ascii => "ascii".toList

/-- The spellings of a codec's name, in lower case and with `-` for `_` and the blank. -/
def aliases : List (Text × Codec) :=
  [("utf-8", utf8), ("utf8", utf8), ("u8", utf8), ("utf", utf8), ("cp65001", utf8),
   ("latin-1", latin1), ("latin1", latin1), ("iso-8859-1", latin1), ("iso8859-1", latin1),
   ("8859", latin1), ("cp819", latin1), ("latin", latin1), ("l1", latin1),
   ("ascii", ascii), ("us-ascii", ascii), ("646", ascii)].map fun pair => (pair.1.toList, pair.2)

/-- The codec that goes by a name. -/
def ofName? (name : Text) : Option Codec :=
  aliases.lookup (name.map fun c => if c = '_' ∨ c = ' ' then '-' else c.toLower)

/-! ## Writing -/

/-- The first code point that a codec cannot write. -/
def limit : Codec → Nat
  | .utf8 => 0x110000
  | .latin1 => 0x100
  | .ascii => 0x80

/-- The bytes of one character. -/
def encodeChar (codec : Codec) (c : Char) : List UInt8 :=
  match codec with
  | .utf8 => String.utf8EncodeChar c
  | .latin1 | .ascii => [c.toNat.toUInt8]

/-- The bytes of a text, unless it has a character that the codec cannot write. -/
def encode (codec : Codec) (t : Text) : Except Unencodable (List UInt8) :=
  match t.dropWhile (·.toNat < codec.limit) with
  | [] => .ok (t.flatMap codec.encodeChar)
  | c :: rest =>
    .error
      { codec, char := c
        position := t.length - (rest.length + 1)
        count := 1 + (rest.takeWhile (codec.limit ≤ ·.toNat)).length }

/-- The UTF-8 bytes of a text. -/
def utf8Bytes (t : Text) : List UInt8 := t.flatMap String.utf8EncodeChar

theorem dropWhile_utf8_limit (t : Text) : t.dropWhile (·.toNat < limit .utf8) = [] := by
  induction t with
  | nil => rfl
  | cons c t ih =>
    have hc : c.toNat < limit .utf8 := by
      rcases c.valid with h | h
      · exact Nat.lt_trans h (by decide)
      · exact h.2
    simp [hc, ih]

theorem encode_utf8 (t : Text) : encode .utf8 t = .ok (utf8Bytes t) := by
  simp only [encode, dropWhile_utf8_limit]
  rfl

/-! ## Reading -/

/-- A byte that goes on with a character begun before it. -/
def isContinuation (b : UInt8) : Bool := 0x80 ≤ b && b < 0xc0

/-- The six bits that a continuation byte carries. -/
def payload (b : UInt8) : Nat := b.toNat % 64

/-- The unit that begins with byte `a`: how many bytes after `a` belong to it, and the character
they make or the reason why they make none. -/
def utf8Unit (a : UInt8) (rest : List UInt8) : Nat × Except DecodeReason Char :=
  if a < 0x80 then (0, .ok (Char.ofNat a.toNat))
  else if a < 0xc2 then (0, .error .badStart)
  else if a < 0xe0 then
    match rest with
    | [] => (0, .error .truncated)
    | b :: _ =>
      if isContinuation b then (1, .ok (Char.ofNat (a.toNat % 32 * 64 + payload b)))
      else (0, .error .badContinuation)
  else if a < 0xf0 then
    match rest with
    | [] => (0, .error .truncated)
    | b :: rest =>
      if ! isContinuation b || (a == 0xe0 && b < 0xa0) || (a == 0xed && 0xa0 ≤ b) then
        (0, .error .badContinuation)
      else
        match rest with
        | [] => (1, .error .truncated)
        | c :: _ =>
          if isContinuation c then
            (2, .ok (Char.ofNat ((a.toNat % 16 * 64 + payload b) * 64 + payload c)))
          else (1, .error .badContinuation)
  else if a < 0xf5 then
    match rest with
    | [] => (0, .error .truncated)
    | b :: rest =>
      if ! isContinuation b || (a == 0xf0 && b < 0x90) || (a == 0xf4 && 0x90 ≤ b) then
        (0, .error .badContinuation)
      else
        match rest with
        | [] => (1, .error .truncated)
        | c :: rest =>
          if ! isContinuation c then (1, .error .badContinuation)
          else
            match rest with
            | [] => (2, .error .truncated)
            | d :: _ =>
              if isContinuation d then
                (3, .ok (Char.ofNat
                  (((a.toNat % 8 * 64 + payload b) * 64 + payload c) * 64 + payload d)))
              else (2, .error .badContinuation)
  else (0, .error .badStart)

/-- Reads UTF-8 whose first byte stands at `position`. -/
def decodeUtf8At (position : Nat) : List UInt8 → Except Undecodable Text
  | [] => .ok []
  | a :: rest =>
    match utf8Unit a rest with
    | (more, .ok c) => (decodeUtf8At (position + more + 1) (rest.drop more)).map (c :: ·)
    | (more, .error reason) =>
      .error { codec := .utf8, position, count := more + 1, byte := a, reason }
termination_by bytes => bytes.length
decreasing_by simp only [List.length_cons, List.length_drop]; omega

/-- Reads UTF-8 and puts U+FFFD for every unit that makes no character. -/
def decodeTolerant : List UInt8 → Text
  | [] => []
  | a :: rest =>
    match utf8Unit a rest with
    | (more, .ok c) => c :: decodeTolerant (rest.drop more)
    | (more, .error _) => '\ufffd' :: decodeTolerant (rest.drop more)
termination_by bytes => bytes.length
decreasing_by all_goals simp only [List.length_cons, List.length_drop]; omega

/-- As much of a text as `limit` bytes of UTF-8 hold; a character that is cut through comes out as
U+FFFD. -/
def clip (limit : Nat) (t : Text) : Text := decodeTolerant ((utf8Bytes t).take limit)

/-- Reads bytes that each stand for the code point of their value. -/
def decodeBytewise (codec : Codec) (bytes : List UInt8) : Except Undecodable Text :=
  match bytes.dropWhile (·.toNat < codec.limit) with
  | [] => .ok (bytes.map fun b => Char.ofNat b.toNat)
  | b :: rest =>
    .error
      { codec, position := bytes.length - (rest.length + 1), count := 1, byte := b
        reason := .beyondAscii }

/-- The text that bytes stand for, unless they hold something that the codec cannot read. -/
def decode (codec : Codec) (bytes : List UInt8) : Except Undecodable Text :=
  match codec with
  | .utf8 => decodeUtf8At 0 bytes
  | .latin1 | .ascii => decodeBytewise codec bytes

end Codec

/-! ## Messages -/

/-- The wording of a reason. -/
def DecodeReason.wording : DecodeReason → Text
  | .badStart => "invalid start byte".toList
  | .badContinuation => "invalid continuation byte".toList
  | .truncated => "unexpected end of data".toList
  | .beyondAscii => "ordinal not in range(128)".toList

/-- The first and last of `count` positions. -/
def positionRange (position count : Nat) : Text :=
  Text.ofNat position ++ "-".toList ++ Text.ofNat (position + count - 1)

/-- What is said of bytes that cannot be read. -/
def Undecodable.message (u : Undecodable) : Text :=
  let what :=
    if u.count = 1 then
      "byte 0x".toList ++ Text.hex 2 u.byte.toNat ++ " in position ".toList ++
        Text.ofNat u.position
    else "bytes in position ".toList ++ positionRange u.position u.count
  "'".toList ++ u.codec.label ++ "' codec can't decode ".toList ++ what ++ ": ".toList ++
    u.reason.wording

/-- What is said of characters that cannot be written. -/
def Unencodable.message (u : Unencodable) : Text :=
  let what :=
    if u.count = 1 then
      "character '".toList ++ Text.numericEscape u.char.toNat ++ "' in position ".toList ++
        Text.ofNat u.position
    else "characters in position ".toList ++ positionRange u.position u.count
  "'".toList ++ u.codec.label ++ "' codec can't encode ".toList ++ what ++
    ": ordinal not in range(".toList ++ Text.ofNat u.codec.limit ++ ")".toList

end Stencil
