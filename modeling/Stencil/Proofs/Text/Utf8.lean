import Mathlib
import Stencil.Text.Codec

/-!
# UTF-8 written and read

A character is written as one to four bytes, of which the first says how many there are and all
others carry six bits each. Reading goes unit by unit, and a unit that makes a character is what
this character is written as; so the bytes that can be read are those that some text is written as,
and they are read as this text.

* `utf8EncodeChar_of_utf8Unit`: a unit that makes a character is its written form.
* `exists_utf8Unit_eq`: the written form of a character is a unit that makes it.
* `decode_utf8_eq_ok_iff`: reading and writing are inverse.
-/

namespace Stencil.Codec

theorem toNat_ofNat_of_lt {n : Nat} (h : n < 256) : (UInt8.ofNat n).toNat = n := by
  rw [UInt8.toNat_ofNat', Nat.mod_eq_of_lt h]

theorem ofNat_eq_of_toNat {b : UInt8} {n : Nat} (h : b.toNat = n) : UInt8.ofNat n = b := by
  rw [← h, UInt8.ofNat_toNat]

/-! ## How code points are written -/

section Written

variable {v : Nat}

theorem toNat_val_ofNat (h : v.isValidChar) : (Char.ofNat v).val.toNat = v :=
  (Char.toNat_ofNat v).trans (if_pos h)

theorem utf8EncodeChar_one (h : v < 0x80) :
    String.utf8EncodeChar (Char.ofNat v) = [.ofNat v] := by
  simp only [String.utf8EncodeChar, toNat_val_ofNat (.inl (by omega : v < 0xd800))]
  rw [if_pos (by omega)]

theorem utf8EncodeChar_two (h : 0x80 ≤ v) (h' : v < 0x800) :
    String.utf8EncodeChar (Char.ofNat v) = [.ofNat (v / 64 + 0xc0), .ofNat (v % 64 + 0x80)] := by
  simp only [String.utf8EncodeChar, toNat_val_ofNat (.inl (by omega : v < 0xd800))]
  rw [if_neg (by omega), if_pos (by omega), Nat.mod_eq_of_lt (by omega : v / 64 < 32)]

theorem utf8EncodeChar_three (h : 0x800 ≤ v) (h' : v < 0x10000) (hv : v.isValidChar) :
    String.utf8EncodeChar (Char.ofNat v) =
      [.ofNat (v / 4096 + 0xe0), .ofNat (v / 64 % 64 + 0x80), .ofNat (v % 64 + 0x80)] := by
  simp only [String.utf8EncodeChar, toNat_val_ofNat hv]
  rw [if_neg (by omega), if_neg (by omega), if_pos (by omega),
    Nat.mod_eq_of_lt (by omega : v / 4096 < 16)]

theorem utf8EncodeChar_four (h : 0x10000 ≤ v) (hv : v.isValidChar) :
    String.utf8EncodeChar (Char.ofNat v) =
      [.ofNat (v / 262144 + 0xf0), .ofNat (v / 4096 % 64 + 0x80), .ofNat (v / 64 % 64 + 0x80),
        .ofNat (v % 64 + 0x80)] := by
  have hlt : v < 0x110000 := by
    rcases hv with hv | hv
    · omega
    · exact hv.2
  simp only [String.utf8EncodeChar, toNat_val_ofNat hv]
  rw [if_neg (by omega), if_neg (by omega), if_neg (by omega),
    Nat.mod_eq_of_lt (by omega : v / 262144 < 8)]

end Written

/-! ## Units -/

theorem isContinuation_iff {b : UInt8} :
    isContinuation b = true ↔ 0x80 ≤ b.toNat ∧ b.toNat < 0xc0 := by
  simp [isContinuation, UInt8.lt_iff_toNat_lt, UInt8.le_iff_toNat_le]

theorem toNat_of_isContinuation {b : UInt8} (h : isContinuation b = true) :
    b.toNat = payload b + 0x80 ∧ payload b < 64 := by
  obtain ⟨hlow, hhigh⟩ := isContinuation_iff.mp h
  unfold payload
  omega

/-- **A unit that makes a character is what this character is written as.** The second byte of a
unit of three or four is bounded so that the character is none that fewer bytes hold, and none that
does not exist. -/
theorem utf8EncodeChar_of_utf8Unit {a : UInt8} {rest : List UInt8} {more : Nat} {c : Char}
    (h : utf8Unit a rest = (more, .ok c)) :
    String.utf8EncodeChar c ++ rest.drop more = a :: rest := by
  have hbyte := a.toNat_lt
  revert h
  fun_cases utf8Unit a rest with
  | case1 _ h1 =>
    rintro ⟨⟩
    rw [UInt8.lt_iff_toNat_lt] at h1
    rw [utf8EncodeChar_one h1, UInt8.ofNat_toNat]
    rfl
  | case4 h1 h2 h3 b rest hb =>
    rintro ⟨⟩
    simp only [UInt8.lt_iff_toNat_lt, UInt8.reduceToNat] at h1 h2 h3
    obtain ⟨hpay, hlt⟩ := toNat_of_isContinuation hb
    rw [utf8EncodeChar_two (by omega) (by omega), ofNat_eq_of_toNat (b := a) (by omega),
      ofNat_eq_of_toNat (b := b) (by omega)]
    rfl
  | case9 h1 h2 h3 h4 b hb b' rest hb' =>
    rintro ⟨⟩
    simp only [UInt8.lt_iff_toNat_lt, UInt8.le_iff_toNat_le, UInt8.reduceToNat, Bool.or_eq_true,
      Bool.and_eq_true, Bool.not_eq_true', beq_iff_eq, decide_eq_true_eq, not_or, not_and,
      Bool.not_eq_false, ← UInt8.toNat_inj] at h1 h2 h3 h4 hb
    obtain ⟨⟨hb, hlow⟩, hhigh⟩ := hb
    obtain ⟨hpay, hlt⟩ := toNat_of_isContinuation hb
    obtain ⟨hpay', hlt'⟩ := toNat_of_isContinuation hb'
    have hvalid : ((a.toNat % 16 * 64 + payload b) * 64 + payload b').isValidChar := by
      unfold Nat.isValidChar
      omega
    rw [utf8EncodeChar_three (by omega) (by omega) hvalid, ofNat_eq_of_toNat (b := a) (by omega),
      ofNat_eq_of_toNat (b := b) (by omega), ofNat_eq_of_toNat (b := b') (by omega)]
    rfl
  | case16 h1 h2 h3 h4 h5 b hb b' hb' b'' rest hb'' =>
    rintro ⟨⟩
    simp only [UInt8.lt_iff_toNat_lt, UInt8.le_iff_toNat_le, UInt8.reduceToNat, Bool.or_eq_true,
      Bool.and_eq_true, Bool.not_eq_true', beq_iff_eq, decide_eq_true_eq, not_or, not_and,
      Bool.not_eq_false, ← UInt8.toNat_inj] at h1 h2 h3 h4 h5 hb hb'
    obtain ⟨⟨hb, hlow⟩, hhigh⟩ := hb
    obtain ⟨hpay, hlt⟩ := toNat_of_isContinuation hb
    obtain ⟨hpay', hlt'⟩ := toNat_of_isContinuation hb'
    obtain ⟨hpay'', hlt''⟩ := toNat_of_isContinuation hb''
    have hvalid : (((a.toNat % 8 * 64 + payload b) * 64 + payload b') * 64 +
        payload b'').isValidChar := by
      unfold Nat.isValidChar
      omega
    rw [utf8EncodeChar_four (by omega) hvalid, ofNat_eq_of_toNat (b := a) (by omega),
      ofNat_eq_of_toNat (b := b) (by omega), ofNat_eq_of_toNat (b := b') (by omega),
      ofNat_eq_of_toNat (b := b'') (by omega)]
    rfl
  | _ => rintro ⟨⟩

section Reading

variable {a b b' b'' : UInt8}

theorem utf8Unit_one (h : a.toNat < 0x80) (rest : List UInt8) :
    utf8Unit a rest = (0, .ok (Char.ofNat a.toNat)) := by
  unfold utf8Unit
  rw [if_pos (UInt8.lt_iff_toNat_lt.mpr h)]

theorem utf8Unit_two (h : 0xc2 ≤ a.toNat) (h' : a.toNat < 0xe0) (hb : isContinuation b = true)
    (rest : List UInt8) :
    utf8Unit a (b :: rest) = (1, .ok (Char.ofNat (a.toNat % 32 * 64 + payload b))) := by
  have hnot (n : UInt8) (hn : n.toNat ≤ 0xc2) : ¬ a < n := by
    rw [UInt8.lt_iff_toNat_lt]
    omega
  unfold utf8Unit
  rw [if_neg (hnot 0x80 (by decide)), if_neg (hnot 0xc2 (by decide)),
    if_pos (UInt8.lt_iff_toNat_lt.mpr h')]
  exact if_pos hb

theorem utf8Unit_three (h : 0xe0 ≤ a.toNat) (h' : a.toNat < 0xf0) (hb : isContinuation b = true)
    (hlow : a.toNat = 0xe0 → 0xa0 ≤ b.toNat) (hhigh : a.toNat = 0xed → b.toNat < 0xa0)
    (hb' : isContinuation b' = true) (rest : List UInt8) :
    utf8Unit a (b :: b' :: rest) =
      (2, .ok (Char.ofNat ((a.toNat % 16 * 64 + payload b) * 64 + payload b'))) := by
  have hnot (n : UInt8) (hn : n.toNat ≤ 0xe0) : ¬ a < n := by
    rw [UInt8.lt_iff_toNat_lt]
    omega
  have hsecond : (! isContinuation b || (a == 0xe0 && b < 0xa0) || (a == 0xed && 0xa0 ≤ b)) =
      false := by
    simp only [hb, Bool.not_true, Bool.false_or, Bool.or_eq_false_iff, Bool.and_eq_false_iff,
      beq_eq_false_iff_ne, decide_eq_false_iff_not, UInt8.lt_iff_toNat_lt, UInt8.le_iff_toNat_le,
      ne_eq, ← UInt8.toNat_inj, UInt8.reduceToNat]
    omega
  unfold utf8Unit
  rw [if_neg (hnot 0x80 (by decide)), if_neg (hnot 0xc2 (by decide)),
    if_neg (hnot 0xe0 (by decide)), if_pos (UInt8.lt_iff_toNat_lt.mpr h')]
  dsimp only
  rw [if_neg (by rw [hsecond]; decide)]
  exact if_pos hb'

theorem utf8Unit_four (h : 0xf0 ≤ a.toNat) (h' : a.toNat < 0xf5) (hb : isContinuation b = true)
    (hlow : a.toNat = 0xf0 → 0x90 ≤ b.toNat) (hhigh : a.toNat = 0xf4 → b.toNat < 0x90)
    (hb' : isContinuation b' = true) (hb'' : isContinuation b'' = true) (rest : List UInt8) :
    utf8Unit a (b :: b' :: b'' :: rest) =
      (3, .ok (Char.ofNat
        (((a.toNat % 8 * 64 + payload b) * 64 + payload b') * 64 + payload b''))) := by
  have hnot (n : UInt8) (hn : n.toNat ≤ 0xf0) : ¬ a < n := by
    rw [UInt8.lt_iff_toNat_lt]
    omega
  have hsecond : (! isContinuation b || (a == 0xf0 && b < 0x90) || (a == 0xf4 && 0x90 ≤ b)) =
      false := by
    simp only [hb, Bool.not_true, Bool.false_or, Bool.or_eq_false_iff, Bool.and_eq_false_iff,
      beq_eq_false_iff_ne, decide_eq_false_iff_not, UInt8.lt_iff_toNat_lt, UInt8.le_iff_toNat_le,
      ne_eq, ← UInt8.toNat_inj, UInt8.reduceToNat]
    omega
  unfold utf8Unit
  rw [if_neg (hnot 0x80 (by decide)), if_neg (hnot 0xc2 (by decide)),
    if_neg (hnot 0xe0 (by decide)), if_neg (hnot 0xf0 (by decide)),
    if_pos (UInt8.lt_iff_toNat_lt.mpr h')]
  dsimp only
  rw [if_neg (by rw [hsecond]; decide), if_neg (by simp [hb'])]
  exact if_pos hb''

end Reading

/-- **What a character is written as is a unit that makes this character**, whatever comes after
it. -/
theorem exists_utf8Unit_eq (c : Char) (rest : List UInt8) :
    ∃ a more tail, String.utf8EncodeChar c ++ rest = a :: tail ∧
      utf8Unit a tail = (more, .ok c) ∧ tail.drop more = rest := by
  obtain ⟨v, hv, rfl⟩ : ∃ v : Nat, v.isValidChar ∧ c = Char.ofNat v :=
    ⟨c.toNat, c.valid, (Char.ofNat_toNat c).symm⟩
  have hvalid : v < 0xd800 ∨ 0xdfff < v ∧ v < 0x110000 := hv
  have hcontinuation (n : Nat) : isContinuation (.ofNat (n % 64 + 0x80)) = true ∧
      payload (.ofNat (n % 64 + 0x80)) = n % 64 ∧
      (UInt8.ofNat (n % 64 + 0x80)).toNat = n % 64 + 0x80 := by
    have hn : (UInt8.ofNat (n % 64 + 0x80)).toNat = n % 64 + 0x80 := toNat_ofNat_of_lt (by omega)
    rw [isContinuation_iff, payload, hn]
    omega
  by_cases h1 : v < 0x80
  · have ha : (UInt8.ofNat v).toNat = v := toNat_ofNat_of_lt (by omega)
    rw [utf8EncodeChar_one h1]
    refine ⟨_, 0, rest, rfl, ?_, rfl⟩
    rw [utf8Unit_one (ha.symm ▸ h1), ha]
  by_cases h2 : v < 0x800
  · obtain ⟨hb, hpay, -⟩ := hcontinuation v
    have ha : (UInt8.ofNat (v / 64 + 0xc0)).toNat = v / 64 + 0xc0 := toNat_ofNat_of_lt (by omega)
    rw [utf8EncodeChar_two (by omega) h2]
    refine ⟨_, 1, _, rfl, (utf8Unit_two (by omega) (by omega) hb rest).trans ?_, rfl⟩
    rw [ha, hpay]
    congr 3
    omega
  by_cases h3 : v < 0x10000
  · obtain ⟨hb, hpay, hsecond⟩ := hcontinuation (v / 64)
    obtain ⟨hb', hpay', -⟩ := hcontinuation v
    have ha : (UInt8.ofNat (v / 4096 + 0xe0)).toNat = v / 4096 + 0xe0 :=
      toNat_ofNat_of_lt (by omega)
    rw [utf8EncodeChar_three (by omega) h3 hv]
    refine ⟨_, 2, _, rfl, (utf8Unit_three (by omega) (by omega) hb (by omega) (by omega) hb'
      rest).trans ?_, rfl⟩
    rw [ha, hpay, hpay']
    congr 3
    omega
  · obtain ⟨hb, hpay, hsecond⟩ := hcontinuation (v / 4096)
    obtain ⟨hb', hpay', -⟩ := hcontinuation (v / 64)
    obtain ⟨hb'', hpay'', -⟩ := hcontinuation v
    have ha : (UInt8.ofNat (v / 262144 + 0xf0)).toNat = v / 262144 + 0xf0 :=
      toNat_ofNat_of_lt (by omega)
    rw [utf8EncodeChar_four (by omega) hv]
    refine ⟨_, 3, _, rfl, (utf8Unit_four (by omega) (by omega) hb (by omega) (by omega) hb' hb''
      rest).trans ?_, rfl⟩
    rw [ha, hpay, hpay', hpay'']
    congr 3
    omega

/-! ## Texts -/

theorem utf8Bytes_of_decodeUtf8At {position : Nat} {bytes : List UInt8} {t : Text}
    (h : decodeUtf8At position bytes = .ok t) : utf8Bytes t = bytes := by
  fun_induction decodeUtf8At position bytes generalizing t with
  | case1 =>
    cases h
    rfl
  | case2 position a rest more c hunit ih =>
    cases hrest : decodeUtf8At (position + more + 1) (rest.drop more) with
    | error u =>
      rw [hrest] at h
      cases h
    | ok t' =>
      rw [hrest] at h
      cases h
      rw [← utf8EncodeChar_of_utf8Unit hunit, ← ih hrest]
      rfl
  | case3 => cases h

theorem decodeUtf8At_utf8Bytes (position : Nat) (t : Text) :
    decodeUtf8At position (utf8Bytes t) = .ok t := by
  induction t generalizing position with
  | nil => rw [utf8Bytes, List.flatMap_nil, decodeUtf8At]
  | cons c t ih =>
    obtain ⟨a, more, tail, hbytes, hunit, htail⟩ := exists_utf8Unit_eq c (utf8Bytes t)
    have hcons : utf8Bytes (c :: t) = a :: tail := hbytes
    rw [hcons, decodeUtf8At, hunit]
    dsimp only
    rw [htail, ih]
    rfl

/-- **Bytes are read as the text that is written as these bytes**, and are refused if there is no
such text. -/
theorem decode_utf8_eq_ok_iff {bytes : List UInt8} {t : Text} :
    decode .utf8 bytes = .ok t ↔ utf8Bytes t = bytes := by
  constructor
  · exact utf8Bytes_of_decodeUtf8At
  · rintro rfl
    exact decodeUtf8At_utf8Bytes 0 t

end Stencil.Codec
