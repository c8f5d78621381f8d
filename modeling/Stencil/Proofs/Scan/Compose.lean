import Stencil.Proofs.Scan.Spelling

/-!
# Templates put together

Behind a template that ends in a construct another one can be put, and each of the two is read as it
would be by itself. What a text opens with, and where that closes, is settled before the text comes
to its end, as long as a construct still follows; a brace that is text cannot take its closer from
the template behind. That goes for an opener of the second template that is never closed, too.

* `Segmentation.append`: segmentations put together.
* `pieces_append`, `pieces_append_error`: templates are cut into pieces one by one.
* `scanTemplate_append`: what scanning two templates gives that are put together.
-/

namespace Stencil

/-! ## What stands behind a text -/

theorem Opens.append {o : Opener} {t after : Text} (h : Opens o t after) (hne : after ≠ [])
    (more : Text) : Opens o (t ++ more) (after ++ more) := by
  refine ⟨by rw [h.1, List.append_assoc], h.2.imp_right fun hword => ?_⟩
  rwa [List.head?_append_of_ne_nil after hne]

/-- A text that is not the beginning of a mark opens by itself with what it opens with when more
text follows. -/
theorem Opens.of_append {o : Opener} {t more after' : Text} (h : Opens o (t ++ more) after')
    (hmark : ¬ t <+: o.mark) : ∃ after, after' = after ++ more ∧ Opens o t after := by
  obtain ⟨hspell, hword⟩ := h
  rcases List.append_eq_append_iff.mp hspell with ⟨rest, hrest, -⟩ | ⟨after, ht, hafter⟩
  · exact absurd ⟨rest, hrest.symm⟩ hmark
  · have hne : after ≠ [] := by
      rintro rfl
      exact hmark ⟨[], by rw [ht, List.append_nil, List.append_nil]⟩
    refine ⟨after, hafter, ht, hword.imp_right fun hword => ?_⟩
    rwa [hafter, List.head?_append_of_ne_nil after hne] at hword

/-- The first closer stays the first. -/
theorem ClosesAt.append {o : Opener} {after inner rest : Text} (h : ClosesAt o after inner rest)
    (more : Text) : ClosesAt o (after ++ more) inner (rest ++ more) := by
  obtain ⟨hspell, hfirst⟩ := h
  refine ⟨by rw [hspell, List.append_assoc], fun u v huv => ?_⟩
  by_contra hshort
  -- a closer that stands earlier ends where the text has not ended yet
  have hwithin : (u ++ o.closer).length ≤ after.length := by
    have hlength := congrArg List.length hspell
    simp only [List.length_append] at hlength ⊢
    omega
  obtain ⟨w, hw⟩ : u ++ o.closer <+: after :=
    List.prefix_of_prefix_length_le ⟨v, huv.symm⟩ (List.prefix_append after more) hwithin
  exact hshort (hfirst u w hw.symm)

theorem Refused.append {o : Opener} {after : Text} (h : Refused o after) (more : Text) :
    Refused o (after ++ more) := by
  obtain ⟨ho, inner, rest, hclose, hnone⟩ := h
  exact ⟨ho, inner, rest ++ more, hclose.append more, hnone⟩

theorem Construct.append {p : Piece} {t rest : Text} (h : Construct p t rest) (more : Text) :
    Construct p (t ++ more) (rest ++ more) := by
  obtain ⟨o, after, inner, hopen, hclose, hp⟩ := h
  have hne : after ≠ [] := by
    rw [hclose.1]
    cases o <;> simp [Opener.closer]
  exact ⟨o, after ++ more, inner, hopen.append hne more, hclose.append more, hp⟩

/-! ## Pieces -/

/-- A text has a character that no mark has, so it is not the beginning of one. -/
def Unmarked (t : Text) : Prop := ∃ c ∈ t, ∀ o : Opener, c ∉ o.mark

theorem Unmarked.not_begins_mark {t : Text} (h : Unmarked t) (o : Opener) : ¬ t <+: o.mark := by
  obtain ⟨c, hc, hnot⟩ := h
  intro hmark
  exact hnot o (hmark.subset hc)

theorem Unmarked.append_left {t : Text} (h : Unmarked t) (u : Text) : Unmarked (u ++ t) := by
  obtain ⟨c, hc, hnot⟩ := h
  exact ⟨c, List.mem_append_right u hc, hnot⟩

theorem Unmarked.append_right {t : Text} (h : Unmarked t) (u : Text) : Unmarked (t ++ u) := by
  obtain ⟨c, hc, hnot⟩ := h
  exact ⟨c, List.mem_append_left u hc, hnot⟩

/-- Every closer ends in a character that stands in no mark. -/
theorem Opener.unmarked_closer (o : Opener) : Unmarked o.closer := by
  have hbracket : ∀ o : Opener, '>' ∉ o.mark := by intro o; cases o <;> decide
  have hbrace : ∀ o : Opener, '\x7d' ∉ o.mark := by intro o; cases o <;> decide
  cases o with
  | code => exact ⟨'>', by decide, hbracket⟩
  | directive => exact ⟨'>', by decide, hbracket⟩
  | interpolation => exact ⟨'\x7d', by decide, hbrace⟩

theorem Piece.unmarked_spelling {p : Piece} (hp : ¬ p.IsText) : Unmarked p.spelling := by
  cases p with
  | text u => exact absurd ⟨u, rfl⟩ hp
  | code inner => exact (Opener.unmarked_closer .code).append_left _
  | directive inner => exact (Opener.unmarked_closer .directive).append_left _
  | interpolation name style => exact (Opener.unmarked_closer .interpolation).append_left _

/-- A piece fits a longer text behind it, too; behind a piece of text a closer has to stand before
the text that is put there. -/
theorem Piece.Fits.append {p : Piece} {rest : Text} (h : p.Fits rest)
    (hbehind : p.IsText → Unmarked rest) (more : Text) : p.Fits (rest ++ more) := by
  cases p with
  | text u =>
    obtain ⟨hne, hrefused⟩ := h
    refine ⟨hne, fun v w hu hw o after' hopen => ?_⟩
    rw [← List.append_assoc] at hopen
    have hmark := ((hbehind ⟨u, rfl⟩).append_left w).not_begins_mark o
    obtain ⟨after, rfl, hopens⟩ := hopen.of_append hmark
    exact (hrefused v w hu hw o after hopens).append more
  | code inner | directive inner | interpolation name style =>
    have hcons : Construct _ _ _ := h
    simpa only [Fits, List.append_assoc] using hcons.append more

/-- Pieces behind which others can be put: there are none, or the last one is a construct. -/
def EndWhole (ps : List Piece) : Prop := ∀ p ∈ ps.getLast?, ¬ p.IsText

theorem EndWhole.tail {p : Piece} {ps : List Piece} (h : EndWhole (p :: ps)) : EndWhole ps := by
  intro q hq
  apply h
  cases ps with
  | nil => cases hq
  | cons q' ps => rwa [List.getLast?_cons_cons]

/-- Behind a piece of text that is not the last piece comes a construct. -/
theorem EndWhole.exists_construct {p : Piece} {ps : List Piece} (h : EndWhole (p :: ps))
    (hapart : ∀ q ∈ ps.head?, ¬ (p.IsText ∧ q.IsText)) (hp : p.IsText) :
    ∃ q ps', ps = q :: ps' ∧ ¬ q.IsText := by
  cases ps with
  | nil => exact absurd hp (h p rfl)
  | cons q ps => exact ⟨q, ps, rfl, fun hq => hapart q rfl ⟨hp, hq⟩⟩

/-- The first piece of a template fits what is put behind the template. -/
theorem EndWhole.fits_append {p : Piece} {ps : List Piece} {behind : Text}
    (h : EndWhole (p :: ps)) (hfits : p.Fits behind)
    (hapart : ∀ q ∈ ps.head?, ¬ (p.IsText ∧ q.IsText)) (hbehind : Segmentation ps behind)
    (more : Text) : p.Fits (behind ++ more) := by
  refine hfits.append (fun hp => ?_) more
  obtain ⟨q, ps', rfl, hq⟩ := h.exists_construct hapart hp
  obtain ⟨behind', rfl, -⟩ := segmentation_cons_iff.mp hbehind
  exact (Piece.unmarked_spelling hq).append_right behind'

/-- **Segmentations can be put together** where the first one ends in a construct. -/
theorem Segmentation.append {ps qs : List Piece} {t rest : Text} (h : Segmentation ps t)
    (hend : EndWhole ps) (h' : Segmentation qs rest) : Segmentation (ps ++ qs) (t ++ rest) := by
  induction ps generalizing t with
  | nil =>
    obtain rfl : [] = t := h.spelled
    exact h'
  | cons p ps ih =>
    obtain ⟨behind, rfl, hfits, hapart, hbehind⟩ := segmentation_cons_iff.mp h
    have hwhole := ih hbehind hend.tail
    refine segmentation_cons_iff.mpr ⟨behind ++ rest, List.append_assoc .., ?_, ?_, hwhole⟩
    · exact hend.fits_append hfits hapart hbehind rest
    · rintro q hq ⟨hp, hqtext⟩
      obtain ⟨q', ps', rfl, hq'⟩ := hend.exists_construct hapart hp
      obtain rfl : q' = q := by simpa using hq
      exact hq' hqtext

/-- **Templates put together are cut into pieces one by one.** -/
theorem pieces_append {t rest : Text} {ps qs : List Piece} (h : pieces t = .ok ps)
    (hend : EndWhole ps) (h' : pieces rest = .ok qs) : pieces (t ++ rest) = .ok (ps ++ qs) :=
  pieces_eq_ok_iff.mpr ((pieces_eq_ok_iff.mp h).append hend (pieces_eq_ok_iff.mp h'))

/-! ## Openers that are never closed -/

/-- The same opener, with a text in front of it. -/
def Unclosed.behind (t : Text) (u : Unclosed) : Unclosed := { u with before := t ++ u.before }

theorem Unclosed.behind_append (t more : Text) (u : Unclosed) :
    u.behind (t ++ more) = (u.behind more).behind t :=
  congrArg (Unclosed.mk u.opener) (List.append_assoc t more u.before)

theorem pieces_plain_error {c : Char} {t : Text} {u : Unclosed}
    (hread : readConstruct (c :: t) = .plain) (h : pieces t = .error u) :
    pieces (c :: t) = .error (u.behind [c]) := by
  rw [pieces]
  split
  · rw [h]
    rfl
  · rename_i o hunclosed
    cases hread.symm.trans hunclosed
  · rename_i p rest hconstruct
    cases hread.symm.trans hconstruct

theorem pieces_text_append_error {u rest : Text} {v : Unclosed} (hfits : Piece.Fits (.text u) rest)
    (h : pieces rest = .error v) : pieces (u ++ rest) = .error (v.behind u) := by
  obtain ⟨-, hrefused⟩ := hfits
  induction u with
  | nil => exact h
  | cons c u ih =>
    have hplain : readConstruct (c :: (u ++ rest)) = .plain :=
      readConstruct_eq_plain_iff.mpr (hrefused [] (c :: u) rfl (by simp))
    have hbehind := ih fun w x hux => hrefused (c :: w) x (by rw [hux, List.cons_append])
    exact pieces_plain_error hplain hbehind

theorem pieces_construct_error {p : Piece} {t rest : Text} {u : Unclosed} (h : Construct p t rest)
    (hrest : pieces rest = .error u) : pieces t = .error (u.behind p.spelling) := by
  have hread := readConstruct_eq_construct_iff.mpr h
  cases t with
  | nil => exact absurd (length_lt_of_readConstruct hread) (Nat.not_lt_zero _)
  | cons c t =>
    rw [pieces]
    split
    · rename_i hplain
      cases hread.symm.trans hplain
    · rename_i o hunclosed
      cases hread.symm.trans hunclosed
    · rename_i p' rest' hconstruct
      obtain ⟨rfl, rfl⟩ := Reading.construct.inj (hread.symm.trans hconstruct)
      rw [hrest]
      rfl

/-- **An opener that is never closed is met behind a template** as it is met by itself, if the
template ends in a construct. -/
theorem pieces_append_error {t rest : Text} {ps : List Piece} {u : Unclosed}
    (h : Segmentation ps t) (hend : EndWhole ps) (hrest : pieces rest = .error u) :
    pieces (t ++ rest) = .error (u.behind t) := by
  induction ps generalizing t with
  | nil =>
    obtain rfl : [] = t := h.spelled
    exact hrest
  | cons p ps ih =>
    obtain ⟨behind, rfl, hfits, hapart, hbehind⟩ := segmentation_cons_iff.mp h
    have hwhole := ih hbehind hend.tail
    have hfits' := hend.fits_append hfits hapart hbehind rest
    rw [List.append_assoc, Unclosed.behind_append]
    cases p with
    | text w => exact pieces_text_append_error hfits' hwhole
    | code inner | directive inner | interpolation name style =>
      exact pieces_construct_error hfits' hwhole

/-! ## Places -/

theorem EndsInLine.column_eq {t line : Text} (h : EndsInLine t line) :
    (Place.after t).column = line.length := by
  obtain ⟨hline, ht⟩ := h
  have hall : ∀ c ∈ line.reverse, (c != '\n') = true := by
    intro c hc
    rw [bne_iff_ne]
    rintro rfl
    exact hline (List.mem_reverse.mp hc)
  rw [Place.after]
  rcases ht with rfl | ⟨earlier, rfl⟩
  · rw [List.takeWhile_eq_self_iff.mpr hall, List.length_reverse]
  · rw [List.reverse_append, List.reverse_cons, List.append_assoc,
      List.takeWhile_append_of_pos hall]
    simp

/-- The last line of a text goes on in a text of one line. -/
theorem EndsInLine.append_of_not_mem {t last u : Text} (h : EndsInLine t last) (hu : '\n' ∉ u) :
    EndsInLine (t ++ u) (last ++ u) := by
  refine ⟨by simp [h.1, hu], ?_⟩
  rcases h.2 with rfl | ⟨earlier, rfl⟩
  · exact .inl rfl
  · exact .inr ⟨earlier, by simp⟩

/-- The last line of several is the last one, whatever stands before them. -/
theorem EndsInLine.append_of_mem {u line : Text} (h : EndsInLine u line) (hu : '\n' ∈ u)
    (t : Text) : EndsInLine (t ++ u) line := by
  refine ⟨h.1, ?_⟩
  rcases h.2 with rfl | ⟨earlier, rfl⟩
  · exact absurd hu h.1
  · exact .inr ⟨t ++ earlier, by simp⟩

theorem Place.line_after (t : Text) : (after t).line = 1 + t.count '\n' := rfl

/-- The place at the end of a text, when another text stands before it. -/
theorem Place.after_append {t last : Text} (h : EndsInLine t last) (u : Text) :
    after (t ++ u) =
      { line := (after u).line + t.count '\n'
        column :=
          if (after u).line = 1 then last.length + (after u).column else (after u).column } := by
  have hline : (after (t ++ u)).line = (after u).line + t.count '\n' := by
    rw [line_after, line_after, List.count_append]
    omega
  have hcolumn : (after (t ++ u)).column =
      if (after u).line = 1 then last.length + (after u).column else (after u).column := by
    obtain ⟨line, hends, hu⟩ := exists_endsInLine u
    by_cases hmem : '\n' ∈ u
    · have hcount : 0 < u.count '\n' := List.count_pos_iff.mpr hmem
      rw [if_neg (by rw [line_after]; omega), hu, (hends.append_of_mem hmem t).column_eq]
    · have hone : EndsInLine u u := ⟨hmem, .inl rfl⟩
      rw [if_pos (by rw [line_after, List.count_eq_zero.mpr hmem]), hone.column_eq,
        (h.append_of_not_mem hmem).column_eq, List.length_append]
  rw [← hline, ← hcolumn]

/-! ## Documents -/

theorem segmentsFrom_append (filename : Text) (line : Nat) (ps qs : List Piece) :
    segmentsFrom filename line (ps ++ qs) = segmentsFrom filename line ps ++
      segmentsFrom filename (line + (ps.flatMap Piece.spelling).count '\n') qs := by
  induction ps generalizing line with
  | nil => rfl
  | cons p ps ih =>
    rw [List.cons_append, segmentsFrom, segmentsFrom, ih, List.flatMap_cons, List.count_append,
      Nat.add_assoc, List.cons_append]

/-- A segment that is met so many lines further down. -/
def Segment.moveDown (lines : Nat) (s : Segment) : Segment := { s with line := s.line + lines }

theorem map_moveDown_segmentsFrom (filename : Text) (line lines : Nat) (ps : List Piece) :
    (segmentsFrom filename line ps).map (Segment.moveDown lines) =
      segmentsFrom filename (line + lines) ps := by
  induction ps generalizing line with
  | nil => rfl
  | cons p ps ih =>
    rw [segmentsFrom, segmentsFrom, List.map_cons, ih, Nat.add_right_comm]
    rfl

theorem endWhole_of_getLast? {filename : Text} {line : Nat} {ps : List Piece}
    (h : ∀ s ∈ (segmentsFrom filename line ps).getLast?, ∀ u, s.body ≠ .literal u) :
    EndWhole ps := by
  rintro p hp ⟨u, rfl⟩
  have hbody : (segmentsFrom filename line ps).getLast?.map Segment.body =
      ps.getLast?.map Piece.body := by
    rw [← List.getLast?_map, ← List.getLast?_map, map_body_segmentsFrom]
  rw [Option.mem_def.mp hp] at hbody
  obtain ⟨s, hs, hliteral⟩ := Option.map_eq_some_iff.mp hbody
  exact h s hs u hliteral

/-- **Scanning is compositional where a construct ends.** Behind a template that is empty or ends in
a construct, another template is scanned as it is by itself. Both are scanned if and only if the
second one is; its segments then follow those of the first one, each as many lines further down as
there are newlines in the first one. If the second one has an opener that is never closed, the same
error is found at the same opener: as many lines further down, and behind the last line of the first
template if it stands on the first line of the second one. -/
theorem scanTemplate_append {t filename : Text} {d : Document}
    (h : scanTemplate t filename = .ok d)
    (hend : t = [] ∨ ∀ s ∈ d.segments.getLast?, ∀ u, s.body ≠ .literal u) (rest : Text) :
    ((∃ both, scanTemplate (t ++ rest) filename = .ok both) ↔
        ∃ d', scanTemplate rest filename = .ok d') ∧
      (∀ d', scanTemplate rest filename = .ok d' →
        scanTemplate (t ++ rest) filename = .ok
          { name := filename
            segments := d.segments ++ d'.segments.map (Segment.moveDown (t.count '\n'))
            source := t ++ rest }) ∧
      ∀ e, scanTemplate rest filename = .error e →
        ∃ (e' : CompileError) (last : Text) (line column : Nat),
          scanTemplate (t ++ rest) filename = .error e' ∧
          e'.kind = e.kind ∧ e'.code = e.code ∧ e'.reason = e.reason ∧ e'.filename = e.filename ∧
          e.line = some (line : Int) ∧ e.column = some (column : Int) ∧ EndsInLine t last ∧
          e'.line = some (line + t.count '\n' : Nat) ∧
          e'.column = some (if line = 1 then last.length + column else column : Nat) := by
  obtain ⟨ps, hps, rfl⟩ := exists_pieces_of_scanTemplate h
  have hsegmentation := segmentation_of_pieces hps
  have hwhole : EndWhole ps := by
    rcases hend with rfl | hend
    · rw [pieces] at hps
      cases hps
      simp [EndWhole]
    · exact endWhole_of_getLast? hend
  have hok (d' : Document) (hd' : scanTemplate rest filename = .ok d') :
      scanTemplate (t ++ rest) filename = .ok
        { name := filename
          segments := segmentsFrom filename 1 ps ++
            d'.segments.map (Segment.moveDown (t.count '\n'))
          source := t ++ rest } := by
    obtain ⟨qs, hqs, rfl⟩ := exists_pieces_of_scanTemplate hd'
    rw [scanTemplate_of_pieces (pieces_append hps hwhole hqs), segmentsFrom_append,
      hsegmentation.spelled, map_moveDown_segmentsFrom]
  have herror (e : CompileError) (he : scanTemplate rest filename = .error e) :
      ∃ u : Unclosed, e = u.toError rest filename ∧ scanTemplate (t ++ rest) filename =
        .error ((u.behind t).toError (t ++ rest) filename) := by
    obtain ⟨u, hu, rfl⟩ := exists_unclosed_of_scanTemplate he
    exact ⟨u, rfl, scanTemplate_of_pieces_error (pieces_append_error hsegmentation hwhole hu) _⟩
  refine ⟨⟨fun hboth => ?_, fun hrest => ?_⟩, hok, fun e he => ?_⟩
  · cases hrest : scanTemplate rest filename with
    | ok d' => exact ⟨d', rfl⟩
    | error e =>
      obtain ⟨both, hboth⟩ := hboth
      obtain ⟨u, -, hfails⟩ := herror e hrest
      cases hboth.symm.trans hfails
  · obtain ⟨d', hd'⟩ := hrest
    exact ⟨_, hok d' hd'⟩
  · obtain ⟨u, rfl, hfails⟩ := herror e he
    obtain ⟨last, hlast, -⟩ := exists_endsInLine t
    have hplace := Place.after_append hlast u.before
    refine ⟨_, last, (Place.after u.before).line, (Place.after u.before).column, hfails, rfl, rfl,
      rfl, rfl, rfl, rfl, hlast, ?_, ?_⟩
    · exact congrArg (fun place => some (place.line : Int)) hplace
    · exact congrArg (fun place => some (place.column : Int)) hplace

/-- A brace that is text, then a block of code; behind them, on the same line, an interpolation that
is never closed. -/
theorem scanTemplate_append_of_unclosed_brace :
    ∃ d e', scanTemplate "a\n\x7b$ <?py \x7d?>".toList "t".toList = .ok d ∧
      (∀ s ∈ d.segments.getLast?, ∀ u, s.body ≠ .literal u) ∧
      scanTemplate ("a\n\x7b$ <?py \x7d?>".toList ++ "b\x7b$x".toList) "t".toList = .error e' ∧
      e'.code = some .unterminatedInterpolation ∧ e'.line = some 2 ∧ e'.column = some 12 := by
  let t : Text := "a\n\x7b$ <?py \x7d?>".toList
  let title : Text := "t".toList
  let d : Document :=
    ⟨title, [⟨.literal "a\n\x7b$ ".toList, title, 1⟩, ⟨.code " \x7d".toList, title, 2⟩], t⟩
  have hscan : scanTemplate t title = .ok d := eq_ok_of_toOption (by decide +kernel)
  have hlast : ∀ s ∈ d.segments.getLast?, ∀ u, s.body ≠ .literal u := by simp [d]
  have hrest : pieces "b\x7b$x".toList = .error ⟨.interpolation, ['b']⟩ := by decide +kernel
  obtain ⟨-, -, herror⟩ := scanTemplate_append hscan (.inr hlast) "b\x7b$x".toList
  obtain ⟨e', last, line, column, hfails, -, hcode, -, -, hline, hcolumn, hends, hline', hcolumn'⟩ :=
    herror _ (scanTemplate_of_pieces_error hrest title)
  -- by itself the opener stands on line 1 in column 1
  obtain rfl : line = 1 := Int.ofNat_inj.mp (Option.some.inj hline).symm
  obtain rfl : column = 1 := Int.ofNat_inj.mp (Option.some.inj hcolumn).symm
  have hlength : last.length = 11 := by
    rw [← hends.column_eq]
    decide
  exact ⟨d, e', hscan, hlast, hfails, hcode, hline', by rw [hcolumn', hlength]; rfl⟩

/-! ## Constructs -/

theorem Opener.closer_eq (o : Opener) :
    o.closer = if o = .interpolation then ['\x7d'] else ['?', '>'] := by
  cases o <;> rfl

/-- A content without a closer is closed by the closer behind it. -/
theorem closesAt_closer {o : Opener} {inner : Text} (h : ¬ o.closer <:+: inner) :
    ClosesAt o (inner ++ o.closer) inner [] := by
  refine ⟨(List.append_nil _).symm, fun u v huv => ?_⟩
  by_contra hshort
  -- a closer that stands earlier begins inside the content
  obtain ⟨w, rfl⟩ : u <+: inner := by
    have hprefix : u <+: inner ++ o.closer := ⟨o.closer ++ v, by rw [huv, List.append_assoc]⟩
    exact List.prefix_of_prefix_length_le hprefix (List.prefix_append ..) (by omega)
  rw [List.append_assoc, List.append_assoc, List.append_cancel_left_eq] at huv
  simp only [Opener.closer_eq] at h huv
  obtain ⟨c, w, rfl⟩ : ∃ c w', w = c :: w' := List.exists_cons_of_ne_nil fun hw => by
    simp [hw] at hshort
  cases o with
  | interpolation =>
    obtain ⟨rfl, -⟩ := List.cons.inj huv
    exact h ⟨u, w, by simp⟩
  | code | directive =>
    obtain ⟨rfl, hrest⟩ := List.cons.inj huv
    -- the end of a closer is not the beginning of another one
    cases w with
    | nil => cases (List.cons.inj hrest).1
    | cons d w =>
      obtain ⟨rfl, -⟩ := List.cons.inj hrest
      exact h ⟨u, w, by simp⟩

/-- A construct is read as it is written, if its content has no closer in it. -/
theorem construct_spelling {o : Opener} {inner : Text} {p : Piece} (hp : o.piece? inner = some p)
    (hclosed : ¬ o.closer <:+: inner)
    (hword : o = .interpolation ∨ ∀ c ∈ (inner ++ o.closer).head?, Text.isWord c = false) :
    Construct p p.spelling [] := by
  refine ⟨o, inner ++ o.closer, inner, ⟨?_, hword⟩, closesAt_closer hclosed, hp⟩
  rw [spelling_of_piece? hp, List.append_assoc]

/-- A directive is read as it is written, with a blank before its path. -/
theorem construct_directive {path : Text} (h : ¬ "?>".toList <:+: path) :
    Construct (.directive (' ' :: path)) (Piece.directive (' ' :: path)).spelling [] := by
  refine construct_spelling (o := .directive) rfl ?_ (.inr fun c hc => ?_)
  · intro hwithin
    rcases List.infix_cons_iff.mp hwithin with ⟨rest, hrest⟩ | hwithin
    · cases hrest
    · exact h hwithin
  · obtain rfl : ' ' = c := by simpa using hc
    decide +kernel

theorem strip_cons_blank (t : Text) : Text.strip (' ' :: t) = Text.strip t := by
  have hblank : Text.isBlank ' ' = true := by decide
  simp only [Text.strip, Text.trim, List.dropWhile_cons_of_pos hblank]

end Stencil
