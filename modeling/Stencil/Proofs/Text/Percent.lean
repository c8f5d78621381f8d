import Mathlib
import Stencil.Escape
import Stencil.Proofs.Files.Write
import Stencil.Proofs.Scan.Spelling
import Stencil.Proofs.Text.Utf8

/-!
# Percent-encoding

A percent-encoded text is made of unreserved characters and of percent signs with two hexadecimal
digits behind them. `percentDecode` reads any text back into bytes: such a triple is a byte, and
every other character is what it is written as. Encoding bytes and reading them back gives the
bytes, so nothing is lost; and since the encoded text has no character that a construct begins with,
it is plain text in a template.

* `percentDecode_uriBytes_append`: encoded bytes are read back, whatever comes after them.
* `percent_encoding_is_reversible`: the alphabet, the inverse, and what follows from them.
-/

namespace Stencil

/-! ## Encoded texts -/

/-- The letters and digits of ASCII, and four marks. -/
def IsUnreservedChar (c : Char) : Prop :=
  ('A' ≤ c ∧ c ≤ 'Z') ∨ ('a' ≤ c ∧ c ≤ 'z') ∨ ('0' ≤ c ∧ c ≤ '9') ∨ c ∈ ['-', '.', '_', '~']

/-- The hexadecimal digits with upper-case letters. -/
def IsUpperHex (c : Char) : Prop := ('0' ≤ c ∧ c ≤ '9') ∨ ('A' ≤ c ∧ c ≤ 'F')

instance : DecidablePred IsUnreservedChar := fun _ => inferInstanceAs (Decidable (_ ∨ _))

instance : DecidablePred IsUpperHex := fun _ => inferInstanceAs (Decidable (_ ∨ _))

/-- Unreserved characters, and percent signs with two upper-case hexadecimal digits behind each. -/
inductive PercentEncoded : Text → Prop where
  | nil : PercentEncoded []
  | unreserved {c : Char} {t : Text} (hc : IsUnreservedChar c) (ht : PercentEncoded t) :
      PercentEncoded (c :: t)
  | byte {high low : Char} {t : Text} (hhigh : IsUpperHex high) (hlow : IsUpperHex low)
      (ht : PercentEncoded t) : PercentEncoded ('%' :: high :: low :: t)

/-! ## Reading -/

/-- The value of a hexadecimal digit, with a letter of either case. -/
def hexDigit? (c : Char) : Option Nat :=
  if '0' ≤ c ∧ c ≤ '9' then some (c.toNat - 48)
  else if 'A' ≤ c ∧ c ≤ 'F' then some (c.toNat - 55)
  else if 'a' ≤ c ∧ c ≤ 'f' then some (c.toNat - 87)
  else none

/-- The bytes that a text stands for: a percent sign and two hexadecimal digits are one byte, and
any other character is the bytes that it is written as. -/
def percentDecode : Text → List UInt8
  | '%' :: high :: low :: rest =>
    match hexDigit? high, hexDigit? low with
    | some x, some y => .ofNat (16 * x + y) :: percentDecode rest
    | _, _ => String.utf8EncodeChar '%' ++ percentDecode (high :: low :: rest)
  | c :: rest => String.utf8EncodeChar c ++ percentDecode rest
  | [] => []
termination_by t => t.length

theorem percentDecode_byte {high low : Char} {x y : Nat} (hhigh : hexDigit? high = some x)
    (hlow : hexDigit? low = some y) (rest : Text) :
    percentDecode ('%' :: high :: low :: rest) = .ofNat (16 * x + y) :: percentDecode rest := by
  rw [percentDecode, hhigh, hlow]

theorem percentDecode_cons_of_ne {c : Char} (h : c ≠ '%') (rest : Text) :
    percentDecode (c :: rest) = String.utf8EncodeChar c ++ percentDecode rest := by
  rw [percentDecode]
  simp [h]

/-! ## Bytes -/

/-- An upper-case hexadecimal digit. -/
def upperHex (n : Nat) : Char := n.digitChar.toUpper

theorem isUpperHex_upperHex {n : Nat} (h : n < 16) : IsUpperHex (upperHex n) := by
  interval_cases n <;> decide

theorem hexDigit?_upperHex {n : Nat} (h : n < 16) : hexDigit? (upperHex n) = some n := by
  interval_cases n <;> decide

/-- A byte is written in two digits. -/
theorem hex_eq_of_lt {n : Nat} (h : n < 256) :
    Text.hex 2 n = [(n / 16).digitChar, (n % 16).digitChar] := by
  have hfirst : Nat.toDigits 16 (n / 16) = [(n / 16).digitChar] :=
    Nat.toDigits_of_lt_base (by omega)
  by_cases hsmall : n < 16
  · have hzero : n / 16 = 0 := by omega
    rw [Text.hex, Nat.toDigits_of_lt_base hsmall, hzero, Nat.mod_eq_of_lt hsmall]
    rfl
  · rw [Text.hex, Nat.toDigits_of_base_le (by decide) (by omega), hfirst]
    rfl

theorem uriByte_of_not {b : UInt8} (h : ¬ isUnreserved b = true) :
    uriByte b = ['%', upperHex (b.toNat / 16), upperHex (b.toNat % 16)] := by
  rw [uriByte, if_neg h, hex_eq_of_lt b.toNat_lt]
  rfl

/-- An unreserved byte stands for itself. -/
theorem isUnreservedChar_of_isUnreserved {b : UInt8} (h : isUnreserved b = true) :
    b.toNat < 0x80 ∧ IsUnreservedChar (Char.ofNat b.toNat) := by
  simp only [isUnreserved, Bool.and_eq_true, decide_eq_true_eq, Bool.or_eq_true,
    beq_iff_eq, UInt8.lt_iff_toNat_lt] at h
  obtain ⟨hlt, hc⟩ := h
  refine ⟨hlt, ?_⟩
  rcases hc with (((halnum | hdash) | hdot) | hline) | htilde
  · rw [Char.isAlphanum, Char.isAlpha, Bool.or_eq_true, Bool.or_eq_true] at halnum
    rcases halnum with (hupper | hlower) | hdigit
    · left
      simpa [Char.isUpper, Char.le_def] using hupper
    · right; left
      simpa [Char.isLower, Char.le_def] using hlower
    · right; right; left
      simpa [Char.isDigit, Char.le_def] using hdigit
  · simp [IsUnreservedChar, hdash]
  · simp [IsUnreservedChar, hdot]
  · simp [IsUnreservedChar, hline]
  · simp [IsUnreservedChar, htilde]

theorem percentEncoded_uriByte_append (b : UInt8) {t : Text} (h : PercentEncoded t) :
    PercentEncoded (uriByte b ++ t) := by
  by_cases hb : isUnreserved b = true
  · rw [uriByte, if_pos hb]
    exact .unreserved (isUnreservedChar_of_isUnreserved hb).2 h
  · rw [uriByte_of_not hb]
    have hbyte := b.toNat_lt
    exact .byte (isUpperHex_upperHex (by omega)) (isUpperHex_upperHex (by omega)) h

theorem percentEncoded_uriBytes (bs : List UInt8) : PercentEncoded (uriBytes bs) := by
  induction bs with
  | nil => exact .nil
  | cons b bs ih => exact percentEncoded_uriByte_append b ih

theorem percentDecode_uriByte_append (b : UInt8) (rest : Text) :
    percentDecode (uriByte b ++ rest) = b :: percentDecode rest := by
  by_cases hb : isUnreserved b = true
  · obtain ⟨hlt, hc⟩ := isUnreservedChar_of_isUnreserved hb
    have hne : Char.ofNat b.toNat ≠ '%' := by
      intro heq
      rw [heq] at hc
      revert hc
      decide
    rw [uriByte, if_pos hb, List.singleton_append, percentDecode_cons_of_ne hne,
      Codec.utf8EncodeChar_one hlt, UInt8.ofNat_toNat]
    rfl
  · have hbyte := b.toNat_lt
    have hvalue : 16 * (b.toNat / 16) + b.toNat % 16 = b.toNat := Nat.div_add_mod _ _
    rw [uriByte_of_not hb]
    refine (percentDecode_byte (hexDigit?_upperHex (by omega)) (hexDigit?_upperHex (by omega))
      rest).trans ?_
    rw [hvalue, UInt8.ofNat_toNat]

/-- **Encoded bytes are read back**, whatever comes after them. -/
theorem percentDecode_uriBytes_append (bs : List UInt8) (rest : Text) :
    percentDecode (uriBytes bs ++ rest) = bs ++ percentDecode rest := by
  induction bs with
  | nil => rfl
  | cons b bs ih =>
    have hcons : uriBytes (b :: bs) = uriByte b ++ uriBytes bs := rfl
    rw [hcons, List.append_assoc, percentDecode_uriByte_append, ih]
    rfl

theorem percentDecode_uriBytes (bs : List UInt8) : percentDecode (uriBytes bs) = bs := by
  have h := percentDecode_uriBytes_append bs []
  rwa [List.append_nil, percentDecode, List.append_nil] at h

theorem uriBytes_injective : Function.Injective uriBytes :=
  Function.LeftInverse.injective percentDecode_uriBytes

theorem uriText_injective : Function.Injective uriText :=
  uriBytes_injective.comp Codec.utf8Bytes_injective

/-! ## Templates -/

theorem PercentEncoded.not_mem {t : Text} (h : PercentEncoded t) {c : Char}
    (hc : ¬ IsUnreservedChar c) (hsign : c ≠ '%') : c ∉ t := by
  have hhex {d : Char} (hd : IsUpperHex d) : IsUnreservedChar d := by
    rcases hd with hd | ⟨hd, hle⟩
    · exact .inr (.inr (.inl hd))
    · exact .inl ⟨hd, hle.trans (by decide)⟩
  induction h with
  | nil => exact List.not_mem_nil
  | unreserved hd _ ih =>
    intro hmem
    rcases List.mem_cons.mp hmem with rfl | hmem
    · exact hc hd
    · exact ih hmem
  | byte hhigh hlow _ ih =>
    intro hmem
    simp only [List.mem_cons] at hmem
    rcases hmem with rfl | rfl | rfl | hmem
    · exact hsign rfl
    · exact hc (hhex hhigh)
    · exact hc (hhex hlow)
    · exact ih hmem

/-- Text without the characters that constructs begin with is one piece. -/
theorem pieces_of_not_mem {t : Text} (hne : t ≠ []) (hbracket : '<' ∉ t) (hbrace : '\x7b' ∉ t) :
    pieces t = .ok [.text t] := by
  have hfits : Piece.Fits (.text t) [] := by
    refine ⟨hne, fun v w ht _ o after hopen => ?_⟩
    have hmem : o.mark ⊆ t := by
      intro c hc
      rw [ht]
      rw [List.append_nil] at hopen
      rw [hopen.1]
      simp [hc]
    cases o with
    | code | directive => exact absurd (hmem (by decide)) hbracket
    | interpolation => exact absurd (hmem (by decide)) hbrace
  have hnil : pieces [] = .ok [] := by rw [pieces]
  have h := pieces_text_append hfits hnil (by simp)
  rwa [List.append_nil] at h

/-- A percent-encoded text is read as plain text. -/
theorem PercentEncoded.exists_scanTemplate {t : Text} (h : PercentEncoded t) (filename : Text) :
    ∃ d, scanTemplate t filename = .ok d ∧
      d.segments = if t = [] then [] else [⟨.literal t, filename, 1⟩] := by
  by_cases hne : t = []
  · subst hne
    exact ⟨_, scanTemplate_of_pieces (by rw [pieces]) filename, rfl⟩
  · have hpieces : pieces t = .ok [.text t] :=
      pieces_of_not_mem hne (h.not_mem (by decide) (by decide)) (h.not_mem (by decide) (by decide))
    refine ⟨_, scanTemplate_of_pieces hpieces filename, ?_⟩
    rw [if_neg hne]
    rfl

/-- **Percent-encoding is exact and can be undone.** What the style makes of a text or of bytes is
made of unreserved characters and encoded bytes alone, and stands for the bytes that the text is
written as in UTF-8, or for the bytes themselves. Bytes and a text are encoded alike exactly if the
bytes can be read as this text. Hence different texts are encoded differently, and so are different
bytes; texts one after the other are encoded one after the other; and what comes out is, in a
template, at most one literal. -/
theorem percent_encoding_is_reversible {m : Type → Type} [Monad m] [LawfulMonad m]
    (str : Value → m Text) (fail : Thrown → m Value) :
    (∀ t, Style.apply str fail .uri (.text t) = pure (.text (uriText t)) ∧
      PercentEncoded (uriText t) ∧ percentDecode (uriText t) = Codec.utf8Bytes t) ∧
    (∀ mutable bs, Style.apply str fail .uri (.bytes mutable bs) = pure (.text (uriBytes bs)) ∧
      PercentEncoded (uriBytes bs) ∧ percentDecode (uriBytes bs) = bs ∧
      ∀ t, Codec.decode .utf8 bs = .ok t ↔ uriBytes bs = uriText t) ∧
    Function.Injective uriText ∧ Function.Injective uriBytes ∧
    (∀ s t, uriText (s ++ t) = uriText s ++ uriText t) ∧
    ∀ t, PercentEncoded t → ∀ filename, ∃ d, scanTemplate t filename = .ok d ∧
      d.segments = if t = [] then [] else [⟨.literal t, filename, 1⟩] := by
  refine ⟨fun t => ⟨?_, percentEncoded_uriBytes _, percentDecode_uriBytes _⟩,
    fun mutable bs => ⟨rfl, percentEncoded_uriBytes bs, percentDecode_uriBytes bs, fun t => ?_⟩,
    uriText_injective, uriBytes_injective, uriText_append,
    fun t h => h.exists_scanTemplate⟩
  · exact pure_bind t _
  · rw [Codec.decode_utf8_eq_ok_iff, uriText, uriBytes_injective.eq_iff, eq_comm]

/-- A text of two, one and one bytes a character, and its bytes. -/
theorem percent_encoding_is_reversible_of_accent :
    Style.apply (m := Id) (fun _ => []) (fun _ => .none) .uri (.text "é \x7b".toList) =
        .text "%C3%A9%20%7B".toList ∧
      percentDecode "%C3%A9%20%7B".toList = [0xC3, 0xA9, 0x20, 0x7B] ∧
      Codec.decode .utf8 [0xC3, 0xA9, 0x20, 0x7B] = .ok "é \x7b".toList ∧
      PercentEncoded "%C3%A9%20%7B".toList := by
  obtain ⟨htext, hbytes, -⟩ :=
    percent_encoding_is_reversible (m := Id) (fun _ => []) (fun _ => .none)
  have huri : uriText "é \x7b".toList = "%C3%A9%20%7B".toList := by decide
  obtain ⟨happly, hencoded, hread⟩ := htext "é \x7b".toList
  obtain ⟨-, -, -, hdecode⟩ := hbytes false [0xC3, 0xA9, 0x20, 0x7B]
  rw [huri] at happly hencoded hread
  refine ⟨happly, hread.trans (by decide), ?_, hencoded⟩
  rw [hdecode, huri]
  decide

end Stencil
