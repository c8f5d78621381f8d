import Stencil.Proofs.Scan.Grammar
import Stencil.Proofs.Text.Lines

/-!
# Spellings of segments

Scanning loses nothing of a template and adds nothing to it. Every segment of a document is written
in the template in one of a few ways, the parts in which the segments are written follow each other
without a gap, and the line of a segment is counted from the newlines of the parts before it.

* `scanTemplate_spells_template`: the segments spell the template, each on its line.
-/

namespace Stencil

/-! ## Spellings -/

/-- How a segment is written in a template. -/
inductive Body.SpelledAs : Body → Text → Prop where
  | literal (t : Text) : SpelledAs (.literal t) t
  | code (t : Text) : SpelledAs (.code t) ("<?py".toList ++ t ++ "?>".toList)
  | plain (name : Text) :
      SpelledAs (.interpolation name none) ("\x7b$".toList ++ name ++ "\x7d".toList)
  | styled (name style : Text) :
      SpelledAs (.interpolation name (some style))
        ("\x7b$".toList ++ name ++ ",".toList ++ style ++ "\x7d".toList)
  | directive (inner : Text) :
      SpelledAs (.directive (Text.strip inner)) ("<?include".toList ++ inner ++ "?>".toList)

/-- The segment is written as the text, which is not empty. -/
def Segment.Spells (s : Segment) (u : Text) : Prop := s.body.SpelledAs u ∧ u ≠ []

theorem Piece.spelling_styled (name style : Text) :
    (Piece.interpolation name (some style)).spelling =
      "\x7b$".toList ++ name ++ ",".toList ++ style ++ "\x7d".toList := by
  simp [Piece.spelling, interpolationText, Opener.closer]

theorem Piece.body_spelledAs_spelling (p : Piece) : p.body.SpelledAs p.spelling := by
  cases p with
  | text t => exact .literal t
  | code inner => exact .code inner
  | directive inner => exact .directive inner
  | interpolation name style =>
    cases style with
    | none => exact .plain name
    | some style =>
      rw [spelling_styled]
      exact .styled name style

/-- The variable of an interpolation is a name that code can use, and it and the style are words. -/
theorem words_of_interpolation? {t name : Text} {style : Option Text}
    (h : interpolation? t = some (name, style)) :
    Text.isName name = true ∧ (∀ c ∈ name, Text.isWord c = true) ∧
      ∀ s ∈ style, ∀ c ∈ s, Text.isWord c = true := by
  unfold interpolation? at h
  split at h
  case h_2 => cases h
  case h_1 inner =>
    have hword : ∀ c ∈ inner.takeWhile Text.isWord, Text.isWord c = true :=
      fun c hc => List.mem_takeWhile_imp hc
    dsimp only at h
    split_ifs at h with hname
    split at h
    case h_1 =>
      cases h
      exact ⟨hname, hword, nofun⟩
    case h_2 style _ =>
      split_ifs at h with hstyle
      cases h
      refine ⟨hname, hword, fun s hs => ?_⟩
      obtain rfl : style = s := Option.mem_some_iff.mp hs
      exact List.all_eq_true.mp (Bool.and_eq_true_iff.mp hstyle).2
    case h_3 => cases h

/-- No piece of a segmentation is written as nothing. -/
theorem Segmentation.spelling_ne_nil {ps : List Piece} {t : Text} (h : Segmentation ps t) :
    ∀ p ∈ ps, p.spelling ≠ [] := by
  intro p hp
  obtain ⟨before, after, hps⟩ := List.append_of_mem hp
  have hfits := h.fits before p after hps
  cases p with
  | text u => exact hfits.1
  | _ => simp [Piece.spelling, Opener.mark_code, Opener.mark_directive]

theorem segmentsFrom_spells {filename : Text} {line : Nat} {ps : List Piece}
    (h : ∀ p ∈ ps, p.spelling ≠ []) :
    List.Forall₂ Segment.Spells (segmentsFrom filename line ps) (ps.map Piece.spelling) := by
  induction ps generalizing line with
  | nil => exact .nil
  | cons p ps ih =>
    refine .cons ⟨p.body_spelledAs_spelling, h p List.mem_cons_self⟩ (ih fun q hq => ?_)
    exact h q (List.mem_cons_of_mem p hq)

/-! ## Documents and pieces -/

/-- A template that is scanned is cut into pieces, which make its segments. -/
theorem exists_pieces_of_scanTemplate {t filename : Text} {d : Document}
    (h : scanTemplate t filename = .ok d) :
    ∃ ps, pieces t = .ok ps ∧ d = ⟨filename, segmentsFrom filename 1 ps, t⟩ := by
  unfold scanTemplate scan at h
  cases hp : pieces t with
  | error u => simp [hp, Except.map, Except.mapError] at h
  | ok ps =>
    rw [hp] at h
    exact ⟨ps, rfl, (Except.ok.inj h).symm⟩

theorem scanTemplate_of_pieces {t : Text} {ps : List Piece} (h : pieces t = .ok ps)
    (filename : Text) :
    scanTemplate t filename = .ok ⟨filename, segmentsFrom filename 1 ps, t⟩ := by
  unfold scanTemplate scan
  rw [h]
  rfl

theorem scanTemplate_of_pieces_error {t : Text} {u : Unclosed} (h : pieces t = .error u)
    (filename : Text) : scanTemplate t filename = .error (u.toError t filename) := by
  unfold scanTemplate scan
  rw [h]
  rfl

/-- A template that cannot be scanned has an opener that is never closed. -/
theorem exists_unclosed_of_scanTemplate {t filename : Text} {e : CompileError}
    (h : scanTemplate t filename = .error e) :
    ∃ u, pieces t = .error u ∧ e = u.toError t filename := by
  unfold scanTemplate scan at h
  cases hp : pieces t with
  | ok ps => simp [hp, Except.map, Except.mapError] at h
  | error u =>
    rw [hp] at h
    exact ⟨u, rfl, (Except.error.inj h).symm⟩

/-- What segments are is what their pieces are. -/
theorem forall_body_segmentsFrom_iff {P : Body → Prop} {filename : Text} {line : Nat}
    {ps : List Piece} :
    (∀ s ∈ segmentsFrom filename line ps, P s.body) ↔ ∀ p ∈ ps, P p.body := by
  have hmap := List.forall_mem_map (l := segmentsFrom filename line ps) (f := Segment.body) (P := P)
  rw [← hmap, map_body_segmentsFrom, List.forall_mem_map]

/-! ## Lines of segments -/

/-- The line of a segment is counted from the newlines of the pieces before it. -/
theorem line_of_getElem?_segmentsFrom {filename : Text} {line i : Nat} {ps : List Piece}
    {s : Segment} (h : (segmentsFrom filename line ps)[i]? = some s) :
    s.line = (line + ((ps.take i).flatMap Piece.spelling).count '\n' : Nat) := by
  induction ps generalizing line i with
  | nil => simp [segmentsFrom] at h
  | cons p ps ih =>
    cases i with
    | zero =>
      simp only [segmentsFrom, List.getElem?_cons_zero, Option.some.injEq] at h
      rw [← h]
      simp
    | succ i =>
      rw [segmentsFrom, List.getElem?_cons_succ] at h
      rw [ih h, List.take_succ_cons, List.flatMap_cons, List.count_append, Nat.add_assoc]

theorem le_line_of_mem_segmentsFrom {filename : Text} {line : Nat} {ps : List Piece} {s : Segment}
    (h : s ∈ segmentsFrom filename line ps) :
    (line : Int) ≤ s.line ∧ s.line ≤ (line + (ps.flatMap Piece.spelling).count '\n' : Nat) := by
  obtain ⟨i, hi⟩ := List.getElem?_of_mem h
  rw [line_of_getElem?_segmentsFrom hi]
  have hsplit : ((ps.take i).flatMap Piece.spelling).count '\n' +
      ((ps.drop i).flatMap Piece.spelling).count '\n' = (ps.flatMap Piece.spelling).count '\n' := by
    rw [← List.count_append, ← List.flatMap_append, List.take_append_drop]
  omega

/-- The place of a segment among the pieces. -/
theorem exists_piece_of_mem_segmentsFrom {filename : Text} {line : Nat} {ps : List Piece}
    {s : Segment} (h : s ∈ segmentsFrom filename line ps) :
    ∃ before p after, ps = before ++ p :: after ∧ s.body = p.body ∧
      s.line = (line + (before.flatMap Piece.spelling).count '\n' : Nat) := by
  induction ps generalizing line with
  | nil => cases h
  | cons p ps ih =>
    rcases List.mem_cons.mp h with rfl | h
    · exact ⟨[], p, ps, rfl, rfl, rfl⟩
    · obtain ⟨before, q, after, rfl, hbody, hline⟩ := ih h
      refine ⟨p :: before, q, after, rfl, hbody, ?_⟩
      rw [hline, List.flatMap_cons, List.count_append, Nat.add_assoc]

/-- Where a segment is written in its template. -/
theorem exists_spelling_of_mem {t filename : Text} {d : Document}
    (h : scanTemplate t filename = .ok d) {s : Segment} (hs : s ∈ d.segments) :
    ∃ before u after, t = before ++ u ++ after ∧ s.body.SpelledAs u ∧
      s.line = (1 + before.count '\n' : Nat) := by
  obtain ⟨ps, hp, rfl⟩ := exists_pieces_of_scanTemplate h
  obtain ⟨before, p, after, rfl, hbody, hline⟩ := exists_piece_of_mem_segmentsFrom hs
  refine ⟨before.flatMap Piece.spelling, p.spelling, after.flatMap Piece.spelling, ?_,
    hbody ▸ p.body_spelledAs_spelling, hline⟩
  rw [← pieces_spelling hp, List.flatMap_append, List.flatMap_cons, List.append_assoc]

/-- The segments of a document bear its name, and that is the name that the template goes by. -/
theorem filename_of_scanTemplate {t filename : Text} {d : Document}
    (h : scanTemplate t filename = .ok d) :
    d.name = filename ∧ ∀ s ∈ d.segments, s.filename = filename := by
  obtain ⟨ps, -, rfl⟩ := exists_pieces_of_scanTemplate h
  exact ⟨rfl, fun s hs => filename_of_mem_segmentsFrom hs⟩

theorem segmentsFrom_lines_sorted (filename : Text) (line : Nat) (ps : List Piece) :
    (segmentsFrom filename line ps).Pairwise fun a b => a.line ≤ b.line := by
  induction ps generalizing line with
  | nil => exact .nil
  | cons p ps ih =>
    refine .cons (fun b hb => ?_) (ih _)
    have hle := (le_line_of_mem_segmentsFrom hb).1
    show (line : Int) ≤ b.line
    omega

/-! ## The template spelled out -/

theorem exists_ok_of_isOk {ε α : Type} {x : Except ε α} (h : x.isOk = true) : ∃ a, x = .ok a := by
  cases x with
  | error e => simp [Except.isOk, Except.toBool] at h
  | ok a => exact ⟨a, rfl⟩

theorem eq_ok_of_toOption {ε α : Type} {x : Except ε α} {a : α} (h : x.toOption = some a) :
    x = .ok a := by
  cases x with
  | error e => cases h
  | ok b => exact congrArg Except.ok (Option.some.inj h)

/-- **Scanning loses and invents nothing.** The template is the parts in which its segments are
written, one after the other; the line of a segment is one more than the newlines in the parts
before it. The lines never decrease and are lines of the template. -/
theorem scanTemplate_spells_template {t filename : Text} {d : Document}
    (h : scanTemplate t filename = .ok d) :
    ∃ us : List Text, us.flatten = t ∧ List.Forall₂ Segment.Spells d.segments us ∧
      (∀ (i : Nat) (s : Segment), d.segments[i]? = some s →
        s.line = 1 + ((us.take i).flatten.count '\n' : Nat)) ∧
      (d.segments.Pairwise fun a b => a.line ≤ b.line) ∧
      ∀ s ∈ d.segments, 1 ≤ s.line ∧ s.line ≤ (Text.lines t).length := by
  rw [scanTemplate, scan] at h
  cases hp : pieces t with
  | error u => simp [hp, Except.map, Except.mapError] at h
  | ok ps =>
    simp only [hp, Except.map, Except.mapError, Except.ok.injEq] at h
    subst h
    have hseg := segmentation_of_pieces hp
    refine ⟨ps.map Piece.spelling, ?_, segmentsFrom_spells hseg.spelling_ne_nil, ?_,
      segmentsFrom_lines_sorted filename 1 ps, ?_⟩
    · rw [← List.flatMap_def]
      exact hseg.spelled
    · intro i s hs
      rw [line_of_getElem?_segmentsFrom hs, ← List.map_take, ← List.flatMap_def, Int.natCast_add]
      rfl
    · intro s hs
      have hbounds := le_line_of_mem_segmentsFrom hs
      rw [hseg.spelled] at hbounds
      rw [Text.length_lines]
      omega

/-- A template with a construct of every kind, on three lines. -/
theorem scanTemplate_spells_template_of_each_kind :
    ∃ d, scanTemplate "a\n<?py x = 1\n?>\x7b$x,raw\x7d<?include b ?>".toList "t".toList = .ok d ∧
      ∃ us : List Text,
        us.flatten = "a\n<?py x = 1\n?>\x7b$x,raw\x7d<?include b ?>".toList ∧
          List.Forall₂ Segment.Spells d.segments us := by
  have hok : (scanTemplate "a\n<?py x = 1\n?>\x7b$x,raw\x7d<?include b ?>".toList
      "t".toList).isOk = true := by decide +kernel
  obtain ⟨d, hd⟩ := exists_ok_of_isOk hok
  obtain ⟨us, hus, hspells, -⟩ := scanTemplate_spells_template hd
  exact ⟨d, hd, us, hus, hspells⟩

end Stencil
