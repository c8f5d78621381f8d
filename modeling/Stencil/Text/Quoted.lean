import Stencil.Text.Printable

/-!
# Quoted text

The written form of a text or of bytes: between apostrophes, or between double quotes when the text
holds an apostrophe and no double quote. The quote, the backslash and whatever is not printable are
escaped, in the shortest of the forms `\n`, `\xNN`, `\uNNNN` and `\UNNNNNNNN`.
-/

namespace Stencil.Text

/-- The quote that a text is written between. -/
def quoteFor (t : Text) : Char := if t.contains '\x27' && ! t.contains '"' then '"' else '\x27'

/-- One character between quotes. -/
def quotedChar (quote c : Char) : Text :=
  if c = quote ∨ c = '\\' then ['\\', c]
  else if c = '\n' then ['\\', 'n']
  else if c = '\r' then ['\\', 'r']
  else if c = '\t' then ['\\', 't']
  else if isPrintable c then [c]
  else numericEscape c.toNat

/-- The written form of a text. -/
def quoted (t : Text) : Text :=
  let quote := quoteFor t
  quote :: t.flatMap (quotedChar quote) ++ [quote]

/-- One byte between quotes, where one kind of quote is escaped. -/
def quotedByte (escaped : Char) (b : UInt8) : Text :=
  let c := Char.ofNat b.toNat
  if 32 ≤ b ∧ b < 127 then quotedChar escaped c
  else if b = 9 ∨ b = 10 ∨ b = 13 then quotedChar escaped c
  else numericEscape b.toNat

/-- The quote that bytes are written between. -/
def quoteForBytes (bytes : List UInt8) : Char :=
  quoteFor (bytes.map fun b => Char.ofNat b.toNat)

/-- The written form of bytes, with a `b` in front. -/
def quotedBytes (bytes : List UInt8) : Text :=
  let quote := quoteForBytes bytes
  'b' :: quote :: bytes.flatMap (quotedByte quote) ++ [quote]

/-- The written form of bytes that can be changed. An apostrophe is escaped between any quotes. -/
def quotedBuffer (bytes : List UInt8) : Text :=
  let quote := quoteForBytes bytes
  "bytearray(b".toList ++ quote :: bytes.flatMap (quotedByte '\x27') ++ [quote, ')']

end Stencil.Text
