import Stencil.Text.Codec
import Stencil.Value.Basic

/-!
# Escaping styles

Every style but the constant ones begins with the text of a value: nothing for the absent value, the
characters that bytes write in UTF-8, and whatever the value's own text is otherwise. Asking for
that text may run code, so a style is applied in any monad that knows how to ask.

`xmlText` turns the five markup characters into numeric references; `uriText` percent-encodes every
byte that is not unreserved.
-/

namespace Stencil

/-! ## Markup -/

/-- A character as it may stand in markup. -/
def xmlChar (c : Char) : Text :=
  if c = '&' then "&#38;".toList
  else if c = '<' then "&#60;".toList
  else if c = '>' then "&#62;".toList
  else if c = '"' then "&#34;".toList
  else if c = '\x27' then "&#39;".toList
  else [c]

/-- The text with references for the characters that markup gives a meaning. -/
def xmlText (t : Text) : Text := t.flatMap xmlChar

theorem xmlText_append (s t : Text) : xmlText (s ++ t) = xmlText s ++ xmlText t :=
  List.flatMap_append

/-! ## Percent-encoding -/

/-- The bytes that need no encoding: letters and digits of ASCII, and four marks. -/
def isUnreserved (b : UInt8) : Bool :=
  let c := Char.ofNat b.toNat
  b < 128 && (c.isAlphanum || c == '-' || c == '.' || c == '_' || c == '~')

/-- A byte as it stands in an address. -/
def uriByte (b : UInt8) : Text :=
  if isUnreserved b then [Char.ofNat b.toNat]
  else '%' :: (Text.hex 2 b.toNat).map Char.toUpper

/-- The percent-encoded form of bytes. -/
def uriBytes (bs : List UInt8) : Text := bs.flatMap uriByte

/-- The percent-encoded form of a text. -/
def uriText (t : Text) : Text := uriBytes (Codec.utf8Bytes t)

theorem uriBytes_append (bs cs : List UInt8) :
    uriBytes (bs ++ cs) = uriBytes bs ++ uriBytes cs :=
  List.flatMap_append

theorem uriText_append (s t : Text) : uriText (s ++ t) = uriText s ++ uriText t := by
  simp only [uriText, Codec.utf8Bytes, List.flatMap_append, uriBytes_append]

/-! ## Styles -/

/-- The text that every style begins with; `str` gives the text of other values. -/
def Value.plainOr {m : Type → Type} [Monad m] (str : Value → m Text) (v : Value) : m Text :=
  match v with
  | .none => pure []
  | .text t => pure t
  | .bytes _ bs => pure (Codec.decodeTolerant bs)
  | v => str v

/-- What a style makes of a value. -/
def Style.apply {m : Type → Type} [Monad m] (str : Value → m Text)
    (fail : Thrown → m Value) (s : Style) (v : Value) : m Value :=
  match s with
  | .xml => do return .text (xmlText (← v.plainOr str))
  | .uri =>
    match v with
    | .bytes _ bs => pure (.text (uriBytes bs))
    | v => do return .text (uriText (← v.plainOr str))
  | .raw => do return .text (← v.plainOr str)
  | .ofText _ f => do return .text (f (← v.plainOr str))
  | .constant _ w => pure w
  | .refusing _ message => fail (.value message)
  | .uncallable _ typeName =>
    fail (.type ('\x27' :: typeName ++ "' object is not callable".toList))

end Stencil
