/-!
# Text

A text is the list of its characters. Columns, lengths and caret offsets count characters, so all
the rules of this library are written over lists; `String` is met only where a program reads its
input or prints its answer.

The operations here cut a text at a mark and put it together again: `after?` reads a mark at the
front, `cutAt?` finds its first occurrence (`eq_of_cutAt?`: nothing is lost), `split` and
`List.intercalate` are inverse readings of a separator.
-/

namespace Stencil

/-- A text is the list of its characters (Unicode scalar values). -/
abbrev Text := List Char

namespace Text

/-! ## Numbers -/

/-- The decimal digits of a natural number. -/
def ofNat (n : Nat) : Text := Nat.toDigits 10 n

/-- The decimal text of an integer, with `-` in front of a negative one. -/
def ofInt : Int → Text
  | .ofNat n => ofNat n
  | .negSucc n => '-' :: ofNat (n + 1)

/-- Puts blanks in front of a text until it has the given width. -/
def padLeft (width : Nat) (t : Text) : Text := List.replicate (width - t.length) ' ' ++ t

/-- `width` lower-case hexadecimal digits of `n`, zeros in front. -/
def hex (width n : Nat) : Text :=
  let digits := Nat.toDigits 16 n
  List.replicate (width - digits.length) '0' ++ digits

/-- A code point as the shortest of the escapes `\xNN`, `\uNNNN` and `\UNNNNNNNN`. -/
def numericEscape (n : Nat) : Text :=
  if n < 0x100 then '\\' :: 'x' :: hex 2 n
  else if n < 0x10000 then '\\' :: 'u' :: hex 4 n
  else '\\' :: 'U' :: hex 8 n

/-! ## Marks -/

/-- What follows `mark` in a text that begins with it. -/
def after? : (mark t : Text) → Option Text
  | [], t => some t
  | _ :: _, [] => none
  | c :: mark, d :: t => if c = d then after? mark t else none

/-- The text before the first occurrence of `mark`, and the text after it. -/
def cutAt? (mark : Text) : Text → Option (Text × Text)
  | [] => if mark.isEmpty then some ([], []) else none
  | c :: t =>
    match after? mark (c :: t) with
    | some rest => some ([], rest)
    | none => (cutAt? mark t).map fun cut => (c :: cut.1, cut.2)

theorem eq_of_after? {mark t rest : Text} (h : after? mark t = some rest) : t = mark ++ rest := by
  induction mark generalizing t with
  | nil => simpa [after?] using h
  | cons c mark ih =>
    cases t with
    | nil => simp [after?] at h
    | cons d t =>
      by_cases hcd : c = d
      · rw [after?, if_pos hcd] at h
        rw [ih h, hcd, List.cons_append]
      · simp [after?, hcd] at h

theorem eq_of_cutAt? {mark t before rest : Text} (h : cutAt? mark t = some (before, rest)) :
    t = before ++ mark ++ rest := by
  induction t generalizing before with
  | nil =>
    cases mark with
    | nil => simp [cutAt?] at h; simp [h.1, h.2]
    | cons c mark => simp [cutAt?] at h
  | cons c t ih =>
    cases ha : after? mark (c :: t) with
    | some r =>
      simp only [cutAt?, ha, Option.some.injEq, Prod.mk.injEq] at h
      rw [eq_of_after? ha, ← h.1, h.2, List.nil_append]
    | none =>
      simp only [cutAt?, ha, Option.map_eq_some_iff] at h
      obtain ⟨⟨b, r⟩, hcut, hpair⟩ := h
      simp only [Prod.mk.injEq] at hpair
      obtain ⟨rfl, rfl⟩ := hpair
      rw [ih hcut, List.cons_append, List.cons_append]

/-- Is `mark` found anywhere in the text? -/
def hasMark (t mark : Text) : Bool := (cutAt? mark t).isSome

/-! ## Ends and separators -/

/-- The text without the characters at its end that satisfy `p`. -/
def dropWhileEnd (p : Char → Bool) (t : Text) : Text := (t.reverse.dropWhile p).reverse

/-- The text without the characters at both ends that satisfy `p`. -/
def trim (p : Char → Bool) (t : Text) : Text := dropWhileEnd p (t.dropWhile p)

/-- The fields between the occurrences of a separator; one more field than separators. -/
def split (sep : Char) : Text → List Text
  | [] => [[]]
  | c :: t =>
    if c = sep then [] :: split sep t
    else
      match split sep t with
      | [] => [[c]]
      | field :: fields => (c :: field) :: fields

theorem intercalate_split (sep : Char) (t : Text) : [sep].intercalate (split sep t) = t := by
  induction t with
  | nil => simp [split, List.intercalate]
  | cons c t ih =>
    cases hs : split sep t with
    | nil =>
      rw [hs] at ih
      cases t with
      | nil => simp [split] at hs
      | cons d t => simp [List.intercalate] at ih
    | cons field fields =>
      by_cases hc : c = sep
      · subst hc
        rw [hs] at ih
        simpa [split, hs, List.intercalate] using ih
      · rw [hs] at ih
        cases fields <;> simp_all [split, List.intercalate]

/-- Texts in alphabetical order, by code point. -/
def sorted (ts : List Text) : List Text := ts.mergeSort fun a b => ! decide (b < a)

/-- Joins texts with a separator between them. -/
def join (sep : Text) (fields : List Text) : Text := sep.intercalate fields

end Text

end Stencil
