import Mathlib.Data.List.Chain
import Stencil.Proofs.Scan.Compose

/-!
# Segments written and read again

A list of segments can be written as a template: each in the plainest of its spellings, one after
the other. Scanning gives the list back, if each segment can be read by itself and no two literals
are neighbours. No opener and no closer comes into being where two segments meet, since a construct
begins with a character that stands nowhere else in a mark.

* `Piece.Fits.before_mark`: text that can be read by itself can be read before a construct.
* `segmentation_of_spellable`: the segments cut the template that they are written as.
* `scanTemplate_spelling`: scanning gives the segments back, each on its line.
-/

namespace Stencil

/-! ## Spellings -/

/-- How a segment is written, with a blank before the path of a directive. -/
def Body.spelling : Body → Text
  | .literal t => t
  | .code t => "<?py".toList ++ t ++ "?>".toList
  | .directive path => "<?include ".toList ++ path ++ "?>".toList
  | .interpolation name none => "\x7b$".toList ++ name ++ "\x7d".toList
  | .interpolation name (some style) =>
    "\x7b$".toList ++ name ++ ",".toList ++ style ++ "\x7d".toList

/-- Is the segment a literal? -/
def Body.IsLiteral (b : Body) : Prop := ∃ t, b = .literal t

/-- The segment can be read by itself: nothing in its spelling cuts it short, and what is read is
what was written. -/
def Body.Spellable (filename : Text) : Body → Prop
  | .literal t =>
    t ≠ [] ∧ ∃ d, scanTemplate t filename = .ok d ∧ d.segments = [⟨.literal t, filename, 1⟩]
  | .code t => ¬ "?>".toList <:+: t ∧ ∀ c ∈ t.head?, Text.isWord c = false
  | .directive path => ¬ "?>".toList <:+: path ∧ Text.strip path = path
  | .interpolation name style =>
    interpolation? (interpolationText name style) = some (name, style)

/-- The piece that is written for a segment. -/
def Body.piece : Body → Piece
  | .literal t => .text t
  | .code t => .code t
  | .directive path => .directive (' ' :: path)
  | .interpolation name style => .interpolation name style

theorem Body.spelling_piece (b : Body) : b.piece.spelling = b.spelling := by
  cases b with
  | literal t | code t | directive path => rfl
  | interpolation name style =>
    cases style with
    | none => rfl
    | some style =>
      rw [piece, Piece.spelling_styled]
      rfl

theorem Body.isText_piece_iff {b : Body} : b.piece.IsText ↔ b.IsLiteral := by
  cases b <;> simp [piece, Piece.IsText, IsLiteral]

variable {filename : Text} {b : Body}

theorem Body.Spellable.body_piece (h : b.Spellable filename) : b.piece.body = b := by
  cases b with
  | literal t | code t | interpolation name style => rfl
  | directive path => rw [piece, Piece.body, strip_cons_blank, h.2]

/-! ## Constructs -/

/-- No brace stands in an interpolation. -/
theorem not_mem_interpolationText {name : Text} {style : Option Text}
    (h : interpolation? (interpolationText name style) = some (name, style)) :
    '\x7d' ∉ interpolationText name style := by
  obtain ⟨-, hname, hstyle⟩ := words_of_interpolation? h
  have hbrace : ¬ Text.isWord '\x7d' = true := by decide +kernel
  have hnot : '\x7d' ∉ name := fun hmem => hbrace (hname _ hmem)
  cases style with
  | none => simpa [interpolationText] using hnot
  | some style =>
    have hnot' : '\x7d' ∉ style := fun hmem => hbrace (hstyle style rfl _ hmem)
    simp [interpolationText, hnot, hnot']

/-- An interpolation is read as it is written. -/
theorem construct_interpolation {name : Text} {style : Option Text}
    (h : interpolation? (interpolationText name style) = some (name, style)) :
    Construct (.interpolation name style) (Piece.interpolation name style).spelling [] := by
  have hnot := not_mem_interpolationText h
  obtain ⟨inner, hinner⟩ : ∃ inner, interpolationText name style = '$' :: inner := by
    cases style <;> exact ⟨_, rfl⟩
  rw [hinner] at h hnot
  have hpiece : Opener.interpolation.piece? inner = some (.interpolation name style) := by
    rw [Opener.piece?, h]
    rfl
  refine construct_spelling hpiece (fun hwithin => ?_) (.inl rfl)
  exact hnot (List.mem_cons_of_mem _ (hwithin.subset List.mem_cons_self))

/-- A segment that is no literal is read as it is written. -/
theorem construct_piece (h : b.Spellable filename) (hb : ¬ b.IsLiteral) :
    Construct b.piece b.piece.spelling [] := by
  cases b with
  | literal t => exact absurd ⟨t, rfl⟩ hb
  | code t =>
    obtain ⟨hclosed, hword⟩ := h
    refine construct_spelling (o := .code) rfl hclosed (.inr fun c hc => ?_)
    cases t with
    | nil =>
      obtain rfl : '?' = c := Option.mem_some_iff.mp hc
      decide +kernel
    | cons c' t => exact hword c hc
  | directive path => exact construct_directive h.1
  | interpolation name style => exact construct_interpolation h

/-! ## Where two segments meet -/

/-- A mark begins with a character that stands nowhere else in a mark. -/
theorem Opener.head_mark_not_mem_tail {o o' : Opener} {c : Char} (hc : c ∈ o.mark.head?) :
    c ∉ o'.mark.tail := by
  cases o <;> cases o' <;> cases hc <;> decide

/-- No opener is refused at the end of a text. -/
theorem not_refused_nil (o : Opener) : ¬ Refused o [] := by
  rintro ⟨-, inner, rest, ⟨hspell, -⟩, -⟩
  simp [Opener.closer] at hspell

/-- **Text that can be read by itself can be read before a construct**: it does not end in the
beginning of a mark that the construct would go on with. -/
theorem Piece.Fits.before_mark {u : Text} (h : Fits (.text u) []) (o : Opener) (after : Text) :
    Fits (.text u) (o.mark ++ after) := by
  obtain ⟨hne, hrefused⟩ := h
  simp only [List.append_nil] at hrefused
  refine ⟨hne, fun v w hu hw o' after' hopen => ?_⟩
  by_cases hmark : w <+: o'.mark
  · obtain ⟨x, hx⟩ := hmark
    have hseam : o.mark ++ after = x ++ after' := by
      have hspell := hopen.1
      rwa [← hx, List.append_assoc, List.append_cancel_left_eq] at hspell
    cases x with
    | nil =>
      -- a whole mark at the end of the text would be an opener by itself
      have hopens : Opens o' w [] := ⟨by rw [← hx, List.append_nil, List.append_nil], .inr nofun⟩
      exact absurd (hrefused v w hu hw o' [] hopens) (not_refused_nil o')
    | cons c x =>
      have hhead : c ∈ o.mark.head? := by
        obtain ⟨d, mark, hd⟩ : ∃ d mark, o.mark = d :: mark := by cases o <;> exact ⟨_, _, rfl⟩
        rw [hd, List.cons_append, List.cons_append] at hseam
        rw [hd, (List.cons.inj hseam).1]
        rfl
      have htail : c ∈ o'.mark.tail := by
        rw [← hx, List.tail_append_of_ne_nil hw]
        exact List.mem_append_right _ List.mem_cons_self
      exact absurd htail (Opener.head_mark_not_mem_tail hhead)
  · obtain ⟨after, rfl, hopens⟩ := hopen.of_append hmark
    exact (hrefused v w hu hw o' after hopens).append _

/-- A literal that can be read by itself fits the end of a template. -/
theorem Body.Spellable.fits_nil {t : Text} (h : (Body.literal t).Spellable filename) :
    Piece.Fits (.text t) [] := by
  obtain ⟨-, d, hscan, hsegments⟩ := h
  obtain ⟨ps, hps, rfl⟩ := exists_pieces_of_scanTemplate hscan
  have hbodies := map_body_segmentsFrom filename 1 ps
  dsimp only at hsegments
  rw [hsegments] at hbodies
  obtain ⟨p, rfl, hp⟩ := List.map_eq_singleton_iff.mp hbodies.symm
  obtain rfl : p = .text t := by
    cases p <;> simp_all [Piece.body]
  obtain ⟨rest, -, hfits, -, hrest⟩ := segmentation_cons_iff.mp (segmentation_of_pieces hps)
  obtain rfl : [] = rest := hrest.spelled
  exact hfits

/-- **Segments that can be read by themselves cut the template that they are written as**, if no two
literals are neighbours. -/
theorem segmentation_of_spellable {bodies : List Body} (h : ∀ b ∈ bodies, b.Spellable filename)
    (hapart : bodies.IsChain fun b b' => ¬ (b.IsLiteral ∧ b'.IsLiteral)) :
    Segmentation (bodies.map Body.piece) (bodies.flatMap Body.spelling) := by
  induction bodies with
  | nil => exact segmentation_nil
  | cons b bodies ih =>
    obtain ⟨hhead, htail⟩ := List.isChain_cons.mp hapart
    have hrest := ih (fun b' hb' => h b' (List.mem_cons_of_mem b hb')) htail
    refine segmentation_cons_iff.mpr ⟨_, ?_, ?_, ?_, hrest⟩
    · rw [List.flatMap_cons, b.spelling_piece]
    · by_cases hb : b.IsLiteral
      · obtain ⟨t, rfl⟩ := hb
        have hfits := (h _ List.mem_cons_self).fits_nil
        cases bodies with
        | nil => exact hfits
        | cons b' bodies =>
          have hb' : ¬ b'.IsLiteral := fun hb' => hhead b' rfl ⟨⟨t, rfl⟩, hb'⟩
          obtain ⟨o, after, -, ⟨hmark, -⟩, -⟩ := construct_piece (h b' (by simp)) hb'
          rw [List.flatMap_cons, ← b'.spelling_piece, hmark, List.append_assoc]
          exact hfits.before_mark o _
      · have hcons := construct_piece (h b List.mem_cons_self) hb
        exact (Piece.fits_of_construct (hcons.append _)).1
    · rintro q hq ⟨hp, hqtext⟩
      rw [List.head?_map] at hq
      obtain ⟨b', hb', rfl⟩ := Option.map_eq_some_iff.mp hq
      exact hhead b' hb' ⟨Body.isText_piece_iff.mp hp, Body.isText_piece_iff.mp hqtext⟩

/-! ## Reading what was written -/

/-- **Scanning undoes spelling.** If every segment can be read by itself and no two literals are
neighbours, then the template in which the segments are written one after the other is scanned as
these segments, each on the line to which the newlines before it lead. -/
theorem scanTemplate_spelling {bodies : List Body} (hspell : ∀ b ∈ bodies, b.Spellable filename)
    (hapart : bodies.IsChain fun b b' => ¬ (b.IsLiteral ∧ b'.IsLiteral)) :
    ∃ d, scanTemplate (bodies.flatMap Body.spelling) filename = .ok d ∧
      d.segments.map Segment.body = bodies ∧
      ∀ (i : Nat) (s : Segment), d.segments[i]? = some s →
        s.filename = filename ∧
          s.line = 1 + (((bodies.take i).flatMap Body.spelling).count '\n' : Nat) := by
  have hpieces := pieces_eq_ok_iff.mpr (segmentation_of_spellable hspell hapart)
  have hspelling (bs : List Body) :
      (bs.map Body.piece).flatMap Piece.spelling = bs.flatMap Body.spelling := by
    rw [List.flatMap_map]
    exact congrArg (bs.flatMap ·) (funext Body.spelling_piece)
  refine ⟨_, scanTemplate_of_pieces hpieces filename, ?_, fun i s hs => ⟨?_, ?_⟩⟩
  · rw [map_body_segmentsFrom, List.map_map]
    exact (List.map_congr_left fun b hb => (hspell b hb).body_piece).trans (List.map_id _)
  · exact filename_of_mem_segmentsFrom (List.mem_of_getElem? hs)
  · rw [line_of_getElem?_segmentsFrom hs, ← List.map_take, hspelling, Int.natCast_add]
    rfl

/-- A rejected brace and the beginning of a mark before an interpolation, code full of braces, and
a directive. -/
theorem scanTemplate_spelling_of_seams :
    ∃ d, scanTemplate
        "\x7b$ \x7d\n<?\x7b$x,raw\x7d<?py \x7b$y\n\x7b$?><?include b c?>".toList "t".toList = .ok d ∧
      d.segments.map Segment.body =
        [.literal "\x7b$ \x7d\n<?".toList, .interpolation ['x'] (some "raw".toList),
          .code " \x7b$y\n\x7b$".toList, .directive "b c".toList] := by
  let literal : Text := "\x7b$ \x7d\n<?".toList
  let title : Text := "t".toList
  let bodies : List Body :=
    [.literal literal, .interpolation ['x'] (some "raw".toList), .code " \x7b$y\n\x7b$".toList,
      .directive "b c".toList]
  have hliteral : scanTemplate literal title =
      .ok ⟨title, [⟨.literal literal, title, 1⟩], literal⟩ := eq_ok_of_toOption (by decide +kernel)
  have hstyled : interpolation? (interpolationText ['x'] (some "raw".toList)) =
      some (['x'], some "raw".toList) := by decide +kernel
  have hspell : ∀ b ∈ bodies, b.Spellable title := by
    simp only [bodies, List.forall_mem_cons, List.not_mem_nil, false_imp_iff, implies_true, and_true]
    refine ⟨⟨by decide, _, hliteral, rfl⟩, hstyled, ⟨by decide, fun c hc => ?_⟩, by decide, by decide⟩
    obtain rfl : ' ' = c := Option.mem_some_iff.mp hc
    decide +kernel
  have hapart : bodies.IsChain fun b b' => ¬ (b.IsLiteral ∧ b'.IsLiteral) := by
    simp [bodies, Body.IsLiteral]
  obtain ⟨d, hscan, hbodies, -⟩ := scanTemplate_spelling hspell hapart
  exact ⟨d, hscan, hbodies⟩

end Stencil
