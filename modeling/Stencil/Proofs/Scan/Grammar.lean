import Mathlib.Data.List.Infix
import Mathlib.Data.List.TakeWhile
import Stencil.Diagnostic.CompileError

/-!
# The grammar of templates

Scanning is compared with a description that does not scan. A text *opens* with a mark, and closes
at the first closer behind it; a *segmentation* of a text is a list of pieces that spell it, in which
every construct runs to its first closer and no construct begins inside a piece of text. *Reading*
a text from left to right passes over constructs as a whole and over everything else character by
character.

* `pieces_eq_ok_iff`: the pieces of a text are its one segmentation.
* `pieces_eq_error_iff`: there are none exactly when reading comes to an opener that is never
  closed, and the first such opener is the one reported.
-/

namespace Stencil

/-! ## Marks -/

namespace Text

theorem after?_append (mark t : Text) : after? mark (mark ++ t) = some t := by
  induction mark with
  | nil => rfl
  | cons c mark ih => rw [List.cons_append, after?, if_pos rfl, ih]

theorem after?_eq_some_iff {mark t rest : Text} : after? mark t = some rest ↔ t = mark ++ rest := by
  constructor
  · exact eq_of_after?
  · rintro rfl
    exact after?_append mark rest

/-- The first occurrence of a mark: no other one begins before it. -/
theorem length_le_of_cutAt? {mark t before rest : Text} (h : cutAt? mark t = some (before, rest))
    {u v : Text} (huv : t = u ++ mark ++ v) : before.length ≤ u.length := by
  induction t generalizing before u with
  | nil =>
    cases mark with
    | nil =>
      simp only [cutAt?, List.isEmpty_nil, if_true, Option.some.injEq, Prod.mk.injEq] at h
      rw [← h.1]
      exact Nat.zero_le _
    | cons c mark => simp [cutAt?] at h
  | cons c t ih =>
    cases ha : after? mark (c :: t) with
    | some r =>
      simp only [cutAt?, ha, Option.some.injEq, Prod.mk.injEq] at h
      rw [← h.1]
      exact Nat.zero_le _
    | none =>
      simp only [cutAt?, ha, Option.map_eq_some_iff] at h
      obtain ⟨⟨b, r⟩, hcut, hpair⟩ := h
      simp only [Prod.mk.injEq] at hpair
      obtain ⟨rfl, rfl⟩ := hpair
      cases u with
      | nil =>
        rw [List.nil_append] at huv
        rw [after?_eq_some_iff.2 huv] at ha
        simp at ha
      | cons d u =>
        simp only [List.cons_append, List.cons.injEq] at huv
        exact Nat.succ_le_succ (ih hcut huv.2)

theorem cutAt?_eq_none_iff {mark t : Text} : cutAt? mark t = none ↔ ¬ mark <:+: t := by
  induction t with
  | nil => cases mark <;> simp [cutAt?]
  | cons c t ih =>
    rw [List.infix_cons_iff]
    cases ha : after? mark (c :: t) with
    | some r =>
      have hpre : mark <+: c :: t := ⟨r, (eq_of_after? ha).symm⟩
      simp [cutAt?, ha, hpre]
    | none =>
      have hpre : ¬ mark <+: c :: t := by
        rintro ⟨r, hr⟩
        rw [after?_eq_some_iff.2 hr.symm] at ha
        simp at ha
      simp [cutAt?, ha, hpre, ih]

end Text

/-- A text begins with an opener: the mark stands in front of `after`, and a mark that ends in a
letter is not the beginning of a longer word. -/
def Opens (o : Opener) (t after : Text) : Prop :=
  t = o.mark ++ after ∧ (o = .interpolation ∨ ∀ c ∈ after.head?, Text.isWord c = false)

/-- What follows an opener is `inner`, then the first closer in it, then `rest`. -/
def ClosesAt (o : Opener) (after inner rest : Text) : Prop :=
  after = inner ++ o.closer ++ rest ∧
    ∀ u v, after = u ++ o.closer ++ v → inner.length ≤ u.length

theorem Opener.after?_eq_some_iff {o : Opener} {t after : Text} :
    o.after? t = some after ↔ Opens o t after := by
  rw [Opener.after?, Option.filter_eq_some_iff, Text.after?_eq_some_iff, Opens]
  refine and_congr_right fun _ => ?_
  cases o <;> cases after <;> simp [Opener.endsWord]

theorem Opener.mark_code : Opener.code.mark = ['<', '?', 'p', 'y'] := rfl

theorem Opener.mark_directive :
    Opener.directive.mark = ['<', '?', 'i', 'n', 'c', 'l', 'u', 'd', 'e'] := rfl

theorem Opener.mark_interpolation : Opener.interpolation.mark = ['\x7b', '$'] := rfl

theorem Opener.eq_of_mark_append {o o' : Opener} {after after' : Text}
    (h : o.mark ++ after = o'.mark ++ after') : o = o' := by
  cases o <;> cases o' <;>
    simp [Opener.mark_code, Opener.mark_directive, Opener.mark_interpolation] at h ⊢

/-- No text opens in two ways. -/
theorem Opens.unique {o o' : Opener} {t after after' : Text} (h : Opens o t after)
    (h' : Opens o' t after') : o = o' ∧ after = after' := by
  have heq := h.1.symm.trans h'.1
  obtain rfl := Opener.eq_of_mark_append heq
  exact ⟨rfl, List.append_cancel_left heq⟩

theorem opens_of_opener? {o : Opener} {t after : Text} (h : opener? t = some (o, after)) :
    Opens o t after := by
  rw [opener?] at h
  obtain ⟨o', -, h⟩ := List.exists_of_findSome?_eq_some h
  obtain ⟨rest, hrest, hpair⟩ := Option.map_eq_some_iff.1 h
  simp only [Prod.mk.injEq] at hpair
  obtain ⟨rfl, rfl⟩ := hpair
  exact Opener.after?_eq_some_iff.1 hrest

theorem opener?_eq_some_iff {o : Opener} {t after : Text} :
    opener? t = some (o, after) ↔ Opens o t after := by
  refine ⟨opens_of_opener?, fun h => ?_⟩
  have hsome : (opener? t).isSome := by
    rw [opener?, List.findSome?_isSome_iff]
    refine ⟨o, by cases o <;> simp, ?_⟩
    rw [Opener.after?_eq_some_iff.2 h]
    rfl
  obtain ⟨⟨o', after'⟩, hfound⟩ := Option.isSome_iff_exists.1 hsome
  obtain ⟨rfl, rfl⟩ := h.unique (opens_of_opener? hfound)
  exact hfound

theorem ClosesAt.unique {o : Opener} {after inner rest inner' rest' : Text}
    (h : ClosesAt o after inner rest) (h' : ClosesAt o after inner' rest') :
    inner = inner' ∧ rest = rest' := by
  have hlen : inner.length = inner'.length := Nat.le_antisymm (h.2 _ _ h'.1) (h'.2 _ _ h.1)
  have heq := h.1.symm.trans h'.1
  rw [List.append_assoc, List.append_assoc] at heq
  obtain ⟨rfl, hrest⟩ := List.append_inj heq hlen
  exact ⟨rfl, List.append_cancel_left hrest⟩

theorem cutAt?_closer_eq_some_iff {o : Opener} {after inner rest : Text} :
    Text.cutAt? o.closer after = some (inner, rest) ↔ ClosesAt o after inner rest := by
  constructor
  · intro h
    exact ⟨Text.eq_of_cutAt? h, fun u v huv => Text.length_le_of_cutAt? h huv⟩
  · intro h
    cases hcut : Text.cutAt? o.closer after with
    | none =>
      refine absurd ?_ (Text.cutAt?_eq_none_iff.1 hcut)
      exact ⟨inner, rest, h.1.symm⟩
    | some cut =>
      have hc : ClosesAt o after cut.1 cut.2 :=
        ⟨Text.eq_of_cutAt? hcut, fun u v huv => Text.length_le_of_cutAt? hcut huv⟩
      obtain ⟨rfl, rfl⟩ := h.unique hc
      rfl

/-! ## Constructs -/

/-- A construct stands at the beginning of a text: it runs from its opener to the first closer, its
content is accepted, and `rest` follows. -/
def Construct (p : Piece) (t rest : Text) : Prop :=
  ∃ o after inner, Opens o t after ∧ ClosesAt o after inner rest ∧ o.piece? inner = some p

/-- An opener that is text: it is a brace and a dollar sign, closed, and what stands between the
braces is no interpolation. -/
def Refused (o : Opener) (after : Text) : Prop :=
  o = .interpolation ∧
    ∃ inner rest, ClosesAt .interpolation after inner rest ∧ interpolation? ('$' :: inner) = none

theorem Opener.piece?_eq_none_iff {o : Opener} {inner : Text} :
    o.piece? inner = none ↔ o = .interpolation ∧ interpolation? ('$' :: inner) = none := by
  cases o <;> simp [Opener.piece?]

theorem readConstruct_eq_construct_iff {t rest : Text} {p : Piece} :
    readConstruct t = .construct p rest ↔ Construct p t rest := by
  constructor
  · intro h
    unfold readConstruct at h
    split at h
    · simp at h
    · rename_i o after hopen
      split at h
      · simp at h
      · rename_i inner rest' hcut
        split at h
        · rename_i p' hp
          simp only [Reading.construct.injEq] at h
          obtain ⟨rfl, rfl⟩ := h
          exact ⟨o, after, inner, opener?_eq_some_iff.1 hopen, cutAt?_closer_eq_some_iff.1 hcut, hp⟩
        · simp at h
  · rintro ⟨o, after, inner, hopen, hclose, hp⟩
    simp only [readConstruct, opener?_eq_some_iff.2 hopen, cutAt?_closer_eq_some_iff.2 hclose, hp]

theorem readConstruct_eq_unclosed_iff {t : Text} {o : Opener} :
    readConstruct t = .unclosed o ↔ ∃ after, Opens o t after ∧ ¬ o.closer <:+: after := by
  constructor
  · intro h
    unfold readConstruct at h
    split at h
    · simp at h
    · rename_i o' after hopen
      split at h
      · rename_i hcut
        simp only [Reading.unclosed.injEq] at h
        subst h
        exact ⟨after, opener?_eq_some_iff.1 hopen, Text.cutAt?_eq_none_iff.1 hcut⟩
      · split at h <;> simp at h
  · rintro ⟨after, hopen, hnot⟩
    simp only [readConstruct, opener?_eq_some_iff.2 hopen, Text.cutAt?_eq_none_iff.2 hnot]

theorem readConstruct_eq_plain_iff {t : Text} :
    readConstruct t = .plain ↔ ∀ o after, Opens o t after → Refused o after := by
  constructor
  · intro h o after hopen
    simp only [readConstruct, opener?_eq_some_iff.2 hopen] at h
    split at h
    · simp at h
    · rename_i inner rest hcut
      split at h
      · simp at h
      · rename_i hp
        obtain ⟨rfl, hnone⟩ := Opener.piece?_eq_none_iff.1 hp
        exact ⟨rfl, inner, rest, cutAt?_closer_eq_some_iff.1 hcut, hnone⟩
  · intro h
    cases hfound : opener? t with
    | none => simp only [readConstruct, hfound]
    | some found =>
      obtain ⟨hint, inner, rest, hclose, hnone⟩ := h _ _ (opener?_eq_some_iff.1 hfound)
      obtain ⟨o, after⟩ := found
      obtain rfl : o = .interpolation := hint
      simp only [readConstruct, hfound, cutAt?_closer_eq_some_iff.2 hclose,
        Opener.piece?_eq_none_iff.2 ⟨rfl, hnone⟩]

theorem Construct.eq_append {p : Piece} {t rest : Text} (h : Construct p t rest) :
    t = p.spelling ++ rest :=
  eq_of_readConstruct (readConstruct_eq_construct_iff.2 h)

theorem Construct.unique {p p' : Piece} {t rest rest' : Text} (h : Construct p t rest)
    (h' : Construct p' t rest') : p = p' ∧ rest = rest' := by
  have heq := (readConstruct_eq_construct_iff.2 h).symm.trans (readConstruct_eq_construct_iff.2 h')
  simpa using heq

/-! ## Segmentations -/

/-- The piece is text outside any construct. -/
def Piece.IsText (p : Piece) : Prop := ∃ u, p = .text u

/-- A piece fits the text behind it. A construct runs to its first closer. A piece of text is not
empty, and every opener in it is refused. -/
def Piece.Fits (p : Piece) (rest : Text) : Prop :=
  match p with
  | .text u =>
    u ≠ [] ∧ ∀ v w, u = v ++ w → w ≠ [] → ∀ o after, Opens o (w ++ rest) after → Refused o after
  | p => Construct p (p.spelling ++ rest) rest

/-- A list of pieces cuts a text: the pieces spell it, each fits what follows it, and no two pieces
of text are neighbours. -/
structure Segmentation (ps : List Piece) (t : Text) : Prop where
  spelled : ps.flatMap Piece.spelling = t
  fits : ∀ before p after, ps = before ++ p :: after → p.Fits (after.flatMap Piece.spelling)
  apart : ∀ before p q after, ps = before ++ p :: q :: after → ¬ (p.IsText ∧ q.IsText)

theorem segmentation_nil : Segmentation [] [] := by
  refine ⟨rfl, ?_, ?_⟩
  · intro before p after h
    simp at h
  · intro before p q after h
    simp at h

theorem segmentation_cons_iff {p : Piece} {ps : List Piece} {t : Text} :
    Segmentation (p :: ps) t ↔
      ∃ rest, t = p.spelling ++ rest ∧ p.Fits rest ∧ (∀ q ∈ ps.head?, ¬ (p.IsText ∧ q.IsText)) ∧
        Segmentation ps rest := by
  constructor
  · rintro ⟨hspell, hfits, hapart⟩
    refine ⟨ps.flatMap Piece.spelling, hspell.symm, hfits [] p ps rfl, ?_, rfl, ?_, ?_⟩
    · intro q hq
      cases ps with
      | nil => simp at hq
      | cons q' ps =>
        simp only [List.head?_cons, Option.mem_some_iff] at hq
        subst hq
        exact hapart [] p q' ps rfl
    · intro before q after h
      exact hfits (p :: before) q after (by rw [h, List.cons_append])
    · intro before q q' after h
      exact hapart (p :: before) q q' after (by rw [h, List.cons_append])
  · rintro ⟨rest, rfl, hfit, hhead, hspell, hfits, hapart⟩
    refine ⟨by rw [List.flatMap_cons, hspell], ?_, ?_⟩
    · intro before q after h
      cases before with
      | nil =>
        simp only [List.nil_append, List.cons.injEq] at h
        obtain ⟨rfl, rfl⟩ := h
        rwa [hspell]
      | cons b before =>
        simp only [List.cons_append, List.cons.injEq] at h
        exact hfits before q after h.2
    · intro before q q' after h
      cases before with
      | nil =>
        simp only [List.nil_append, List.cons.injEq] at h
        obtain ⟨rfl, rfl⟩ := h
        exact hhead q' rfl
      | cons b before =>
        simp only [List.cons_append, List.cons.injEq] at h
        exact hapart before q q' after h.2

/-- Text in front of a segmentation joins the text that it begins with. -/
theorem Segmentation.consText {c : Char} {t : Text} {ps : List Piece} (h : Segmentation ps t)
    (hplain : ∀ o after, Opens o (c :: t) after → Refused o after) :
    Segmentation (consText c ps) (c :: t) := by
  unfold Stencil.consText
  split
  · rename_i u qs
    obtain ⟨rest, ht, ⟨-, hrefused⟩, hapart, hrest⟩ := segmentation_cons_iff.1 h
    refine segmentation_cons_iff.2 ⟨rest, by rw [ht]; rfl, ⟨by simp, ?_⟩, ?_, hrest⟩
    · intro v w hvw hw o after hopen
      cases v with
      | nil =>
        rw [List.nil_append] at hvw
        subst hvw
        rw [List.cons_append] at hopen
        exact hplain o after (by rw [ht]; exact hopen)
      | cons d v =>
        simp only [List.cons_append, List.cons.injEq] at hvw
        exact hrefused v w hvw.2 hw o after hopen
    · rintro q hq ⟨-, hqt⟩
      exact hapart q hq ⟨⟨u, rfl⟩, hqt⟩
  · rename_i hnot
    refine segmentation_cons_iff.2 ⟨t, rfl, ⟨by simp, ?_⟩, ?_, h⟩
    · intro v w hvw hw o after hopen
      cases v with
      | nil =>
        rw [List.nil_append] at hvw
        subst hvw
        exact hplain o after hopen
      | cons d v =>
        simp only [List.cons_append, List.cons.injEq] at hvw
        exact absurd (List.append_eq_nil_iff.1 hvw.2.symm).2 hw
    · rintro q hq ⟨-, u, rfl⟩
      cases ps with
      | nil => simp at hq
      | cons q' qs =>
        simp only [List.head?_cons, Option.mem_some_iff] at hq
        exact hnot u qs (by rw [hq])

theorem Piece.fits_of_construct {p : Piece} {t rest : Text} (h : Construct p t rest) :
    p.Fits rest ∧ ¬ p.IsText := by
  have ht := h.eq_append
  obtain ⟨o, after, inner, -, -, hp⟩ := id h
  rw [ht] at h
  cases p with
  | text u => cases o <;> simp [Opener.piece?] at hp
  | _ => exact ⟨h, by rintro ⟨u, hu⟩; simp at hu⟩

theorem segmentation_of_pieces {t : Text} {ps : List Piece} (h : pieces t = .ok ps) :
    Segmentation ps t := by
  fun_induction pieces t generalizing ps with
  | case1 =>
    simp only [Except.ok.injEq] at h
    subst h
    exact segmentation_nil
  | case2 c t hread ps' hps ih =>
    simp only [Except.ok.injEq] at h
    subst h
    exact (ih hps).consText (readConstruct_eq_plain_iff.1 hread)
  | case3 => simp at h
  | case4 => simp at h
  | case5 c t piece rest hread ps' hps ih =>
    simp only [Except.ok.injEq] at h
    subst h
    have hcons := readConstruct_eq_construct_iff.1 hread
    obtain ⟨hfits, hnot⟩ := Piece.fits_of_construct hcons
    exact segmentation_cons_iff.2
      ⟨rest, hcons.eq_append, hfits, fun q _ hq => hnot hq.1, ih hps⟩
  | case6 => simp at h

/-- Text in which every opener is refused is read as one piece. -/
theorem pieces_text_append {u rest : Text} {ps : List Piece}
    (hfits : Piece.Fits (.text u) rest) (hps : pieces rest = .ok ps)
    (hapart : ∀ q ∈ ps.head?, ¬ q.IsText) : pieces (u ++ rest) = .ok (.text u :: ps) := by
  obtain ⟨hne, hrefused⟩ := hfits
  induction u with
  | nil => exact absurd rfl hne
  | cons c u ih =>
    have hplain : readConstruct (c :: (u ++ rest)) = .plain :=
      readConstruct_eq_plain_iff.2 (hrefused [] (c :: u) rfl (by simp))
    rw [List.cons_append, pieces]
    split
    · cases u with
      | nil =>
        rw [List.nil_append, hps]
        cases ps with
        | nil => rfl
        | cons q qs =>
          cases q with
          | text v => exact absurd ⟨v, rfl⟩ (hapart (.text v) rfl)
          | _ => rfl
      | cons d u =>
        rw [ih (by simp) fun v w hvw => hrefused (c :: v) w (by rw [hvw, List.cons_append])]
        rfl
    · rename_i o hread
      rw [hplain] at hread
      simp at hread
    · rename_i p r hread
      rw [hplain] at hread
      simp at hread

theorem pieces_construct {p : Piece} {t rest : Text} {ps : List Piece} (h : Construct p t rest)
    (hps : pieces rest = .ok ps) : pieces t = .ok (p :: ps) := by
  have hread := readConstruct_eq_construct_iff.2 h
  cases t with
  | nil =>
    have hlt := length_lt_of_readConstruct hread
    simp at hlt
  | cons c t =>
    rw [pieces]
    split
    · rename_i hr
      rw [hread] at hr
      simp at hr
    · rename_i o hr
      rw [hread] at hr
      simp at hr
    · rename_i p' rest' hr
      rw [hread] at hr
      simp only [Reading.construct.injEq] at hr
      obtain ⟨rfl, rfl⟩ := hr
      rw [hps]

/-- The pieces of a text are its one segmentation. -/
theorem pieces_eq_ok_iff {t : Text} {ps : List Piece} : pieces t = .ok ps ↔ Segmentation ps t := by
  constructor
  · exact segmentation_of_pieces
  · intro h
    induction ps generalizing t with
    | nil =>
      obtain rfl : [] = t := h.spelled
      rw [pieces]
    | cons p ps ih =>
      obtain ⟨rest, rfl, hfits, hapart, hrest⟩ := segmentation_cons_iff.1 h
      cases p with
      | text u =>
        exact pieces_text_append hfits (ih hrest) fun q hq hqt => hapart q hq ⟨⟨u, rfl⟩, hqt⟩
      | _ => exact pieces_construct hfits (ih hrest)

/-! ## Reading from left to right -/

/-- Reading a text from left to right comes to the point between `before` and `ahead`. A construct is
passed as a whole, everything else character by character. -/
inductive Reads : Text → Text → Text → Prop where
  | here (t : Text) : Reads t [] t
  | text {c : Char} {t before ahead : Text} :
      (∀ p rest, ¬ Construct p (c :: t) rest) → Reads t before ahead →
      Reads (c :: t) (c :: before) ahead
  | construct {p : Piece} {t rest before ahead : Text} :
      Construct p t rest → Reads rest before ahead → Reads t (p.spelling ++ before) ahead

theorem Reads.eq_append {t before ahead : Text} (h : Reads t before ahead) :
    t = before ++ ahead := by
  induction h with
  | here => rfl
  | text _ _ ih => rw [ih, List.cons_append]
  | construct hcons _ ih => rw [hcons.eq_append, ih, List.append_assoc]

/-- Behind `before`, outside any construct read so far, stands an opener that is never closed. -/
def MeetsUnclosed (t : Text) (o : Opener) (before : Text) : Prop :=
  ∃ ahead after, Reads t before ahead ∧ Opens o ahead after ∧ ¬ o.closer <:+: after

/-- The first opener that reading meets and that is never closed stands behind `before`. -/
def FirstUnclosed (t : Text) (o : Opener) (before : Text) : Prop :=
  MeetsUnclosed t o before ∧
    ∀ o' before', MeetsUnclosed t o' before' → before.length ≤ before'.length

theorem not_meetsUnclosed_nil {o : Opener} {before : Text} : ¬ MeetsUnclosed [] o before := by
  rintro ⟨ahead, after, hreads, hopen, -⟩
  have h := hreads.eq_append
  rw [hopen.1] at h
  cases o <;> simp [Opener.mark_code, Opener.mark_directive, Opener.mark_interpolation] at h

theorem meetsUnclosed_plain_iff {c : Char} {t before : Text} {o : Opener}
    (hread : readConstruct (c :: t) = .plain) :
    MeetsUnclosed (c :: t) o before ↔ ∃ b, before = c :: b ∧ MeetsUnclosed t o b := by
  have hnone : ∀ p rest, ¬ Construct p (c :: t) rest := by
    intro p rest h
    rw [readConstruct_eq_construct_iff.2 h] at hread
    simp at hread
  constructor
  · rintro ⟨ahead, after, hreads, hopen, hnot⟩
    cases hreads with
    | here =>
      rw [readConstruct_eq_unclosed_iff.2 ⟨after, hopen, hnot⟩] at hread
      simp at hread
    | text _ hrest => exact ⟨_, rfl, ahead, after, hrest, hopen, hnot⟩
    | construct h _ => exact absurd h (hnone _ _)
  · rintro ⟨b, rfl, ahead, after, hreads, hopen, hnot⟩
    exact ⟨ahead, after, .text hnone hreads, hopen, hnot⟩

theorem meetsUnclosed_construct_iff {p : Piece} {t rest before : Text} {o : Opener}
    (hread : readConstruct t = .construct p rest) :
    MeetsUnclosed t o before ↔ ∃ b, before = p.spelling ++ b ∧ MeetsUnclosed rest o b := by
  have hcons := readConstruct_eq_construct_iff.1 hread
  constructor
  · rintro ⟨ahead, after, hreads, hopen, hnot⟩
    cases hreads with
    | here =>
      rw [readConstruct_eq_unclosed_iff.2 ⟨after, hopen, hnot⟩] at hread
      simp at hread
    | text hnone _ => exact absurd hcons (hnone _ _)
    | construct h hrest =>
      obtain ⟨rfl, rfl⟩ := hcons.unique h
      exact ⟨_, rfl, ahead, after, hrest, hopen, hnot⟩
  · rintro ⟨b, rfl, ahead, after, hreads, hopen, hnot⟩
    exact ⟨ahead, after, .construct hcons hreads, hopen, hnot⟩

theorem not_meetsUnclosed_of_pieces {t : Text} {ps : List Piece} (h : pieces t = .ok ps)
    (o : Opener) (before : Text) : ¬ MeetsUnclosed t o before := by
  fun_induction pieces t generalizing ps before with
  | case1 => exact not_meetsUnclosed_nil
  | case2 c t hread ps' hps ih =>
    rw [meetsUnclosed_plain_iff hread]
    rintro ⟨b, -, hmeets⟩
    exact ih hps b hmeets
  | case3 => simp at h
  | case4 => simp at h
  | case5 c t p rest hread ps' hps ih =>
    rw [meetsUnclosed_construct_iff hread]
    rintro ⟨b, -, hmeets⟩
    exact ih hps b hmeets
  | case6 => simp at h

theorem firstUnclosed_of_pieces {t : Text} {u : Unclosed} (h : pieces t = .error u) :
    FirstUnclosed t u.opener u.before := by
  fun_induction pieces t generalizing u with
  | case1 => simp at h
  | case2 => simp at h
  | case3 c t hread v hv ih =>
    simp only [Except.error.injEq] at h
    subst h
    obtain ⟨hmeets, hfirst⟩ := ih hv
    refine ⟨(meetsUnclosed_plain_iff hread).2 ⟨_, rfl, hmeets⟩, fun o before hother => ?_⟩
    obtain ⟨b, rfl, hb⟩ := (meetsUnclosed_plain_iff hread).1 hother
    exact Nat.succ_le_succ (hfirst o b hb)
  | case4 c t o hread =>
    simp only [Except.error.injEq] at h
    subst h
    obtain ⟨after, hopen, hnot⟩ := readConstruct_eq_unclosed_iff.1 hread
    exact ⟨⟨c :: t, after, .here _, hopen, hnot⟩, fun _ _ _ => Nat.zero_le _⟩
  | case5 => simp at h
  | case6 c t p rest hread v hv ih =>
    simp only [Except.error.injEq] at h
    subst h
    obtain ⟨hmeets, hfirst⟩ := ih hv
    refine ⟨(meetsUnclosed_construct_iff hread).2 ⟨_, rfl, hmeets⟩, fun o before hother => ?_⟩
    obtain ⟨b, rfl, hb⟩ := (meetsUnclosed_construct_iff hread).1 hother
    simpa only [List.length_append, Nat.add_le_add_iff_left] using hfirst o b hb

theorem FirstUnclosed.unique {t before before' : Text} {o o' : Opener}
    (h : FirstUnclosed t o before) (h' : FirstUnclosed t o' before') : o = o' ∧ before = before' := by
  have hlen := Nat.le_antisymm (h.2 _ _ h'.1) (h'.2 _ _ h.1)
  obtain ⟨⟨ahead, after, hreads, hopen, -⟩, -⟩ := h
  obtain ⟨⟨ahead', after', hreads', hopen', -⟩, -⟩ := h'
  have heq := hreads.eq_append.symm.trans hreads'.eq_append
  obtain ⟨rfl, rfl⟩ := List.append_inj heq hlen
  exact ⟨(hopen.unique hopen').1, rfl⟩

/-- The error of the scan is the first opener that is never closed. -/
theorem pieces_eq_error_iff {t before : Text} {o : Opener} :
    pieces t = .error ⟨o, before⟩ ↔ FirstUnclosed t o before := by
  constructor
  · intro h
    exact firstUnclosed_of_pieces h
  · intro h
    cases hp : pieces t with
    | ok ps => exact absurd h.1 (not_meetsUnclosed_of_pieces hp o before)
    | error u =>
      obtain ⟨rfl, rfl⟩ := (firstUnclosed_of_pieces hp).unique h
      rfl

/-! ## Places -/

/-- The text ends in `line`: no newline stands in it, and it begins the text or follows a newline. -/
def EndsInLine (t line : Text) : Prop :=
  '\n' ∉ line ∧ (t = line ∨ ∃ earlier, t = earlier ++ '\n' :: line)

theorem exists_endsInLine (t : Text) :
    ∃ line, EndsInLine t line ∧ (Place.after t).column = line.length := by
  have hsplit := congrArg List.reverse (t.reverse.takeWhile_append_dropWhile (p := (· != '\n')))
  rw [List.reverse_append, List.reverse_reverse] at hsplit
  refine ⟨(t.reverse.takeWhile (· != '\n')).reverse, ⟨?_, ?_⟩, (List.length_reverse ..).symm⟩
  · intro hmem
    have := List.mem_takeWhile_imp (List.mem_reverse.1 hmem)
    simp at this
  · cases hdrop : t.reverse.dropWhile (· != '\n') with
    | nil =>
      rw [hdrop, List.reverse_nil, List.nil_append] at hsplit
      exact Or.inl hsplit.symm
    | cons c rest =>
      have hc : c = '\n' := by
        have := List.head?_dropWhile_not (· != '\n') t.reverse
        simpa [hdrop] using this
      rw [hdrop, hc, List.reverse_cons, List.append_assoc] at hsplit
      exact Or.inr ⟨rest.reverse, hsplit.symm⟩

theorem map_body_segmentsFrom (filename : Text) (line : Nat) (ps : List Piece) :
    (segmentsFrom filename line ps).map Segment.body = ps.map Piece.body := by
  induction ps generalizing line with
  | nil => rfl
  | cons p ps ih => rw [segmentsFrom, List.map_cons, List.map_cons, ih]

theorem filename_of_mem_segmentsFrom {filename : Text} {line : Nat} {ps : List Piece}
    {s : Segment} (h : s ∈ segmentsFrom filename line ps) : s.filename = filename := by
  induction ps generalizing line with
  | nil => simp [segmentsFrom] at h
  | cons p ps ih =>
    rw [segmentsFrom, List.mem_cons] at h
    rcases h with rfl | h
    · rfl
    · exact ih h

/-! ## The grammar -/

/-- **A template is scanned as its grammar says.** The scan fails exactly when reading meets an
opener that is never closed; its error then has the code of the first such opener and is placed at
it. Otherwise the segments are the pieces of the one segmentation of the text. -/
theorem scanTemplate_follows_grammar (t filename : Text) :
    ((∃ e, scanTemplate t filename = .error e) ↔ ∃ o before, MeetsUnclosed t o before) ∧
      match scanTemplate t filename with
      | .error e =>
        ∃ o before, FirstUnclosed t o before ∧ e.kind = .scan ∧ e.code = some o.errorCode ∧
          e.filename = some filename ∧ e.line = some (1 + before.count '\n' : Nat) ∧
          ∃ line, EndsInLine before line ∧ e.column = some (line.length : Int)
      | .ok d =>
        ∃ ps, Segmentation ps t ∧ (∀ qs, Segmentation qs t → qs = ps) ∧
          d.segments.map Segment.body = ps.map Piece.body ∧
          ∀ s ∈ d.segments, s.filename = filename := by
  rw [scanTemplate, scan]
  cases hp : pieces t with
  | error u =>
    have hfirst := firstUnclosed_of_pieces hp
    refine ⟨⟨fun _ => ⟨_, _, hfirst.1⟩, fun _ => ⟨_, rfl⟩⟩, ?_⟩
    obtain ⟨line, hline, hcolumn⟩ := exists_endsInLine u.before
    refine ⟨u.opener, u.before, hfirst, rfl, rfl, rfl, rfl, line, hline, ?_⟩
    rw [← hcolumn]
    rfl
  | ok ps =>
    refine ⟨⟨?_, ?_⟩, ps, pieces_eq_ok_iff.1 hp, ?_, map_body_segmentsFrom _ _ _, ?_⟩
    · rintro ⟨e, he⟩
      simp [Except.map, Except.mapError] at he
    · rintro ⟨o, before, hmeets⟩
      exact absurd hmeets (not_meetsUnclosed_of_pieces hp o before)
    · intro qs hqs
      rw [pieces_eq_ok_iff.2 hqs] at hp
      simpa using hp
    · intro s hs
      exact filename_of_mem_segmentsFrom hs

end Stencil
