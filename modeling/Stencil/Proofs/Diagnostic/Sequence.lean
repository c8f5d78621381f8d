import Mathlib.Data.List.Infix
import Mathlib.Data.List.TakeWhile
import Stencil.Colour

/-!
# Control sequences

A control sequence is an escape character and a bracket, then parameters, intermediates and one final
character. The escape character is the only one of its characters that is not printable, so no two
sequences of a text overlap, and a sequence cannot go on behind a newline or behind the beginning of
another sequence. Such a place is called *fresh* here: texts that meet at a fresh place are stripped
of their sequences one by one.

* `afterSequence?_eq_some_iff`: the sequence that a text begins with.
* `stripColours_append`, `hasSequence_append_iff`: texts that meet at a fresh place.
* `stripColours_eq_self_iff`: what is left as it is.
-/

namespace Stencil

/-- An escape character, a bracket, parameters, intermediates and a final character. -/
def IsSequence (t : Text) : Prop :=
  ∃ (parameters intermediates : Text) (final : Char),
    t = '\x1b' :: '[' :: (parameters ++ (intermediates ++ [final])) ∧
      (∀ c ∈ parameters, isParameter c = true) ∧
      (∀ c ∈ intermediates, isIntermediate c = true) ∧ isFinal final = true

/-- A control sequence stands somewhere in the text. -/
def HasSequence (t : Text) : Prop := ∃ s, IsSequence s ∧ s <:+: t

/-- The text is empty, or it begins with a character that no sequence goes on with. -/
def Fresh (t : Text) : Prop := ∀ c ∈ t.head?, c < ' '

theorem fresh_nil : Fresh [] := by simp [Fresh]

theorem fresh_newline (t : Text) : Fresh ('\n' :: t) := by
  simp only [Fresh, List.head?_cons, Option.mem_some_iff, forall_eq']
  decide

/-! ## Characters -/

theorem isSequence_of_all (parameters intermediates : Text) (final : Char)
    (h : (parameters.all isParameter && intermediates.all isIntermediate && isFinal final) = true) :
    IsSequence ('\x1b' :: '[' :: (parameters ++ (intermediates ++ [final]))) := by
  rw [Bool.and_eq_true, Bool.and_eq_true, List.all_eq_true, List.all_eq_true] at h
  exact ⟨parameters, intermediates, final, rfl, h.1.1, h.1.2, h.2⟩

theorem Tint.isSequence (tint : Tint) : IsSequence tint.sequence := by
  cases tint with
  | reset => exact isSequence_of_all ['0'] [] 'm' rfl
  | bold => exact isSequence_of_all ['1'] [] 'm' rfl
  | dim => exact isSequence_of_all ['2'] [] 'm' rfl
  | yellow => exact isSequence_of_all ['3', '3'] [] 'm' rfl
  | cyan => exact isSequence_of_all ['3', '6'] [] 'm' rfl
  | brightRed => exact isSequence_of_all ['9', '1'] [] 'm' rfl

theorem isParameter_iff (c : Char) : isParameter c = true ↔ 48 ≤ c.toNat ∧ c.toNat ≤ 63 := by
  rw [isParameter, Bool.and_eq_true, decide_eq_true_eq, decide_eq_true_eq]
  exact Iff.rfl

theorem isIntermediate_iff (c : Char) :
    isIntermediate c = true ↔ 32 ≤ c.toNat ∧ c.toNat ≤ 47 := by
  rw [isIntermediate, Bool.and_eq_true, decide_eq_true_eq, decide_eq_true_eq]
  exact Iff.rfl

theorem isFinal_iff (c : Char) : isFinal c = true ↔ 64 ≤ c.toNat ∧ c.toNat ≤ 126 := by
  rw [isFinal, Bool.and_eq_true, decide_eq_true_eq, decide_eq_true_eq]
  exact Iff.rfl

theorem isParameter_of_isIntermediate {c : Char} (h : isIntermediate c = true) :
    ¬ isParameter c = true := by
  rw [isIntermediate_iff] at h
  rw [isParameter_iff]
  omega

theorem not_of_isFinal {c : Char} (h : isFinal c = true) :
    ¬ isParameter c = true ∧ ¬ isIntermediate c = true := by
  rw [isFinal_iff] at h
  rw [isParameter_iff, isIntermediate_iff]
  omega

/-- All characters of a sequence but the first are printable. -/
theorem IsSequence.exists_cons {s : Text} (h : IsSequence s) :
    ∃ body, s = '\x1b' :: body ∧ ∀ c ∈ body, ¬ c < ' ' := by
  obtain ⟨parameters, intermediates, final, rfl, hparameters, hintermediates, hfinal⟩ := h
  have hlt (c : Char) : c < ' ' ↔ c.toNat < 32 := Iff.rfl
  refine ⟨_, rfl, fun c hc => ?_⟩
  simp only [List.mem_cons, List.mem_append, List.not_mem_nil, or_false] at hc
  rw [hlt]
  rcases hc with rfl | hc | hc | rfl
  · decide
  · have := (isParameter_iff c).mp (hparameters c hc)
    omega
  · have := (isIntermediate_iff c).mp (hintermediates c hc)
    omega
  · have := (isFinal_iff c).mp hfinal
    omega

theorem IsSequence.fresh_append {s : Text} (h : IsSequence s) (t : Text) : Fresh (s ++ t) := by
  obtain ⟨body, rfl, -⟩ := h.exists_cons
  simp only [Fresh, List.cons_append, List.head?_cons, Option.mem_some_iff, forall_eq']
  decide

/-- Where a sequence begins in front of a fresh text, it does not reach into that text. -/
theorem IsSequence.isPrefix_of_append {s a b : Text} (h : IsSequence s) (hne : a ≠ [])
    (hb : Fresh b) (hs : s <+: a ++ b) : s <+: a := by
  obtain hle | ⟨more, rfl⟩ := List.prefix_or_prefix_of_prefix hs (List.prefix_append a b)
  · exact hle
  · -- what is behind `a` would be printable
    obtain ⟨body, hbody, hprintable⟩ := h.exists_cons
    cases more with
    | nil => simp
    | cons c more =>
      obtain ⟨d, a, rfl⟩ := List.exists_cons_of_ne_nil hne
      have hc : c ∈ b.head? := by
        obtain ⟨rest, hrest⟩ := List.prefix_append_right_inj _ |>.mp hs
        simp [← hrest]
      refine absurd (hb c hc) (hprintable c ?_)
      rw [← (List.cons.inj hbody).2]
      simp

/-! ## The sequence at the beginning of a text -/

/-- **A text begins with a control sequence exactly if one is read there.** -/
theorem afterSequence?_eq_some_iff {t rest : Text} :
    afterSequence? t = some rest ↔ ∃ s, IsSequence s ∧ t = s ++ rest := by
  constructor
  · intro h
    unfold afterSequence? at h
    split at h
    · rename_i body
      split at h
      · rename_i c more hmore
        split at h
        · rename_i hfinal
          obtain rfl := Option.some.inj h
          refine ⟨_, ⟨body.takeWhile isParameter,
            (body.dropWhile isParameter).takeWhile isIntermediate, c, rfl, ?_, ?_, hfinal⟩, ?_⟩
          · exact fun d hd => List.mem_takeWhile_imp hd
          · exact fun d hd => List.mem_takeWhile_imp hd
          · simp only [List.cons_append, List.append_assoc, List.nil_append, ← hmore,
              List.takeWhile_append_dropWhile]
        · cases h
      · cases h
    · cases h
  · rintro ⟨s, ⟨parameters, intermediates, final, rfl, hparameters, hintermediates, hfinal⟩, rfl⟩
    obtain ⟨hnotParameter, hnotIntermediate⟩ := not_of_isFinal hfinal
    have hbody : (parameters ++ (intermediates ++ [final]) ++ rest).dropWhile isParameter =
        intermediates ++ final :: rest := by
      rw [List.append_assoc, List.append_assoc, List.dropWhile_append_of_pos hparameters]
      cases intermediates with
      | nil => exact List.dropWhile_cons_of_neg hnotParameter
      | cons c intermediates =>
        exact List.dropWhile_cons_of_neg
          (isParameter_of_isIntermediate (hintermediates c List.mem_cons_self))
    simp only [List.cons_append, afterSequence?]
    rw [hbody, List.dropWhile_append_of_pos hintermediates,
      List.dropWhile_cons_of_neg hnotIntermediate]
    exact if_pos hfinal

theorem afterSequence?_eq_none_iff {t : Text} :
    afterSequence? t = none ↔ ∀ s, IsSequence s → ¬ s <+: t := by
  rw [Option.eq_none_iff_forall_ne_some]
  constructor
  · rintro h s hs ⟨rest, rfl⟩
    exact h rest (afterSequence?_eq_some_iff.mpr ⟨s, hs, rfl⟩)
  · intro h rest hrest
    obtain ⟨s, hs, rfl⟩ := afterSequence?_eq_some_iff.mp hrest
    exact h s hs (List.prefix_append s rest)

/-- What a sequence begins with is no sequence itself. -/
theorem IsSequence.eq_nil_of_append {s more : Text} (h : IsSequence s)
    (hmore : IsSequence (s ++ more)) : more = [] := by
  have hfirst : afterSequence? (s ++ more) = some more := afterSequence?_eq_some_iff.mpr ⟨s, h, rfl⟩
  have hwhole : afterSequence? (s ++ more) = some [] :=
    afterSequence?_eq_some_iff.mpr ⟨s ++ more, hmore, (List.append_nil _).symm⟩
  exact Option.some.inj (hfirst.symm.trans hwhole)

/-! ## Taking sequences out -/

theorem stripColours_of_some {t rest : Text} (h : afterSequence? t = some rest) :
    stripColours t = stripColours rest := by
  cases t with
  | nil => cases h
  | cons c t =>
    rw [stripColours]
    split
    · rename_i rest' hrest'
      rw [Option.some.inj (hrest'.symm.trans h)]
    · rename_i hnone
      cases hnone.symm.trans h

theorem stripColours_of_none {c : Char} {t : Text} (h : afterSequence? (c :: t) = none) :
    stripColours (c :: t) = c :: stripColours t := by
  rw [stripColours]
  split
  · rename_i rest hrest
    cases hrest.symm.trans h
  · rfl

theorem stripColours_sequence_append {s : Text} (h : IsSequence s) (t : Text) :
    stripColours (s ++ t) = stripColours t :=
  stripColours_of_some (afterSequence?_eq_some_iff.mpr ⟨s, h, rfl⟩)

theorem stripColours_cons_of_ne {c : Char} (h : c ≠ '\x1b') (t : Text) :
    stripColours (c :: t) = c :: stripColours t := by
  refine stripColours_of_none (afterSequence?_eq_none_iff.mpr ?_)
  rintro s hs ⟨rest, hrest⟩
  obtain ⟨body, rfl, -⟩ := hs.exists_cons
  exact h (List.cons.inj hrest).1.symm

/-- A text without an escape character stays in front of another. -/
theorem stripColours_append_of_not_mem {a : Text} (h : '\x1b' ∉ a) (b : Text) :
    stripColours (a ++ b) = a ++ stripColours b := by
  induction a with
  | nil => rfl
  | cons c a ih =>
    rw [List.mem_cons, not_or] at h
    rw [List.cons_append, stripColours_cons_of_ne (Ne.symm h.1), ih h.2, List.cons_append]

/-- **Texts that meet at a fresh place are stripped one by one.** -/
theorem stripColours_append (a : Text) {b : Text} (hb : Fresh b) :
    stripColours (a ++ b) = stripColours a ++ stripColours b := by
  fun_induction stripColours a with
  | case1 => rfl
  | case2 c t rest hsome ih =>
    obtain ⟨s, hs, hsplit⟩ := afterSequence?_eq_some_iff.mp hsome
    rw [hsplit, List.append_assoc, stripColours_sequence_append hs, ih]
  | case3 c t hnone ih =>
    have hstill : afterSequence? (c :: (t ++ b)) = none := by
      refine afterSequence?_eq_none_iff.mpr fun s hs hpre => ?_
      exact afterSequence?_eq_none_iff.mp hnone s hs
        (hs.isPrefix_of_append (List.cons_ne_nil c t) hb hpre)
    rw [List.cons_append, stripColours_of_none hstill, ih, List.cons_append]

/-! ## Sequences in a text -/

theorem not_hasSequence_nil : ¬ HasSequence [] := by
  rintro ⟨s, hs, hin⟩
  obtain ⟨body, rfl, -⟩ := hs.exists_cons
  cases List.infix_nil.mp hin

theorem hasSequence_cons_iff {c : Char} {t : Text} :
    HasSequence (c :: t) ↔ (∃ s, IsSequence s ∧ s <+: c :: t) ∨ HasSequence t := by
  simp only [HasSequence, List.infix_cons_iff, and_or_left, exists_or]

/-- **Where texts meet at a fresh place there is no sequence.** -/
theorem hasSequence_append_iff (a : Text) {b : Text} (hb : Fresh b) :
    HasSequence (a ++ b) ↔ HasSequence a ∨ HasSequence b := by
  induction a with
  | nil => simp [not_hasSequence_nil]
  | cons c a ih =>
    have hfirst : (∃ s, IsSequence s ∧ s <+: c :: (a ++ b)) ↔ ∃ s, IsSequence s ∧ s <+: c :: a := by
      refine exists_congr fun s => and_congr_right fun hs => ?_
      exact ⟨hs.isPrefix_of_append (List.cons_ne_nil c a) hb,
        fun h => h.trans (List.prefix_append (c :: a) b)⟩
    rw [List.cons_append, hasSequence_cons_iff, hasSequence_cons_iff, ih, hfirst, or_assoc]

theorem hasSequence_append_of_not_mem {a : Text} (h : '\x1b' ∉ a) (b : Text) :
    HasSequence (a ++ b) ↔ HasSequence b := by
  induction a with
  | nil => rfl
  | cons c a ih =>
    rw [List.mem_cons, not_or] at h
    have hnone : ¬ ∃ s, IsSequence s ∧ s <+: c :: (a ++ b) := by
      rintro ⟨s, hs, rest, hrest⟩
      obtain ⟨body, rfl, -⟩ := hs.exists_cons
      exact h.1 (List.cons.inj hrest).1
    rw [List.cons_append, hasSequence_cons_iff, ih h.2]
    exact or_iff_right hnone

theorem not_hasSequence_of_not_mem {t : Text} (h : '\x1b' ∉ t) : ¬ HasSequence t := by
  rw [← List.append_nil t, hasSequence_append_of_not_mem h]
  exact not_hasSequence_nil

/-- Stripping makes no text longer, and a text with a sequence shorter. -/
theorem length_stripColours_le (t : Text) :
    (stripColours t).length ≤ t.length ∧ (HasSequence t → (stripColours t).length < t.length) := by
  fun_induction stripColours t with
  | case1 => exact ⟨Nat.le_refl _, fun h => absurd h not_hasSequence_nil⟩
  | case2 c t rest hsome ih =>
    have hlt := length_lt_of_afterSequence? hsome
    exact ⟨by omega, fun _ => by omega⟩
  | case3 c t hnone ih =>
    obtain ⟨hle, hlt⟩ := ih
    rw [List.length_cons, List.length_cons]
    refine ⟨by omega, fun h => ?_⟩
    rcases hasSequence_cons_iff.mp h with ⟨s, hs, hpre⟩ | hmore
    · exact absurd hpre (afterSequence?_eq_none_iff.mp hnone s hs)
    · have := hlt hmore
      omega

/-- **A text is left as it is exactly if there is no control sequence in it.** -/
theorem stripColours_eq_self_iff {t : Text} : stripColours t = t ↔ ¬ HasSequence t := by
  constructor
  · intro h hhas
    have hlt := (length_stripColours_le t).2 hhas
    rw [h] at hlt
    omega
  · induction t with
    | nil => exact fun _ => by rw [stripColours]
    | cons c t ih =>
      intro h
      rw [hasSequence_cons_iff, not_or] at h
      have hnone : afterSequence? (c :: t) = none :=
        afterSequence?_eq_none_iff.mpr fun s hs hpre => h.1 ⟨s, hs, hpre⟩
      rw [stripColours_of_none hnone, ih h.2]

end Stencil
