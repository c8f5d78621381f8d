import Stencil.Diagnostic.TemplateError
import Stencil.Proofs.Diagnostic.Sequence
import Stencil.Proofs.Text.Lines

/-!
# Colour and plain text

A painted text is the text between control sequences. In front of the text the sequences are complete,
and behind it comes a fresh place, so stripping takes out what painting put in and does to the text
what it does to the text alone. That holds of each piece of a diagnostic, whatever is written in it:
a name, a reason or a line of source may begin a sequence, end in one, or be one.

* `stripColours_paint_append`: a painted piece of a text.
* `TemplateError.message_eq`, `TemplateError.stripColours_compact`: errors.
-/

namespace Stencil

/-! ## Painted texts -/

theorem stripColours_tints_append (tints : List Tint) (t : Text) :
    stripColours (tints.flatMap Tint.sequence ++ t) = stripColours t := by
  induction tints with
  | nil => rfl
  | cons tint tints ih =>
    rw [List.flatMap_cons, List.append_assoc, stripColours_sequence_append tint.isSequence, ih]

/-- **A painted text is stripped to what the text is stripped to**, if the text itself is stripped
apart from what follows it. -/
theorem stripColours_paint_append (colour : Bool) (tints : List Tint) {t rest : Text}
    (h : stripColours (t ++ rest) = stripColours t ++ stripColours rest) :
    stripColours (paint colour tints t ++ rest) = stripColours t ++ stripColours rest := by
  unfold paint
  split
  · exact h
  · -- the sequence behind the text begins at a fresh place
    rw [List.append_assoc, List.append_assoc, stripColours_tints_append,
      stripColours_append t (Tint.reset.isSequence.fresh_append rest),
      stripColours_sequence_append Tint.reset.isSequence]

theorem stripColours_paint_append_of_fresh (colour : Bool) (tints : List Tint) (t : Text)
    {rest : Text} (h : Fresh rest) :
    stripColours (paint colour tints t ++ rest) = stripColours t ++ stripColours rest :=
  stripColours_paint_append colour tints (stripColours_append t h)

theorem stripColours_paint_append_of_not_mem (colour : Bool) (tints : List Tint) {t : Text}
    (h : '\x1b' ∉ t) (rest : Text) :
    stripColours (paint colour tints t ++ rest) = t ++ stripColours rest := by
  have hself := stripColours_of_not_mem h
  refine (stripColours_paint_append colour tints ?_).trans (by rw [hself])
  rw [stripColours_append_of_not_mem h, hself]

theorem stripColours_paint (colour : Bool) (tints : List Tint) (t : Text) :
    stripColours (paint colour tints t) = stripColours t := by
  have h := stripColours_paint_append_of_fresh colour tints t fresh_nil
  rwa [List.append_nil, stripColours, List.append_nil] at h

/-! ## Rows -/

/-- **Rows are stripped one by one.** -/
theorem stripColours_join (rows : List Text) :
    stripColours (Text.join ['\n'] rows) = Text.join ['\n'] (rows.map stripColours) := by
  induction rows with
  | nil => exact stripColours_of_not_mem (by simp [Text.join])
  | cons row rows ih =>
    cases rows with
    | nil => simp [Text.join]
    | cons next rows =>
      rw [Text.join_cons_cons, stripColours_append row (fresh_newline _),
        stripColours_cons_of_ne (by decide), ih]
      exact (Text.join_cons_cons _ _ _).symm

theorem escape_not_mem_lineNumber (line : Int) (isError : Bool) :
    '\x1b' ∉ (if isError then '>' else ' ') :: Text.padLeft 3 (Text.ofInt line) := by
  simp only [Text.padLeft, List.mem_cons, List.mem_append, List.mem_replicate, not_or]
  exact ⟨by cases isError <;> decide, fun h => absurd h.2 (by decide),
    Text.not_mem_ofInt (by decide) (by decide) line⟩

theorem stripColours_sourceLine (colour : Bool) (line : Int) (content : Text) (isError : Bool) :
    stripColours (sourceLine colour line content isError) =
      (if isError then '>' else ' ') :: Text.padLeft 3 (Text.ofInt line) ++ " | ".toList ++
        stripColours content := by
  have hbar : '\x1b' ∉ " | ".toList := by decide
  rw [sourceLine, List.append_assoc,
    stripColours_paint_append_of_not_mem colour _ (escape_not_mem_lineNumber line isError),
    stripColours_append_of_not_mem hbar, List.append_assoc]
  cases isError <;> simp only [paintDim, stripColours_paint, if_true, if_false, Bool.false_eq_true]

theorem escape_not_mem_caretRow (column : Int) :
    '\x1b' ∉ "   |".toList ++ ' ' :: (List.replicate column.toNat ' ' ++ ['^']) := by
  simp [List.mem_replicate]

theorem stripColours_caretRow (colour : Bool) (column : Int) :
    stripColours (Snippet.caretRow colour column) =
      "   |".toList ++ ' ' :: (List.replicate column.toNat ' ' ++ ['^']) := by
  have hrule : '\x1b' ∉ "   |".toList := by decide
  have hcaret : '\x1b' ∉ List.replicate column.toNat ' ' ++ ['^'] := by
    simp [List.mem_replicate]
  rw [Snippet.caretRow, paintDim, stripColours_paint_append_of_not_mem colour _ hrule,
    stripColours_cons_of_ne (by decide), stripColours_paint, stripColours_of_not_mem hcaret]

namespace Snippet

theorem map_stripColours_rows (colour : Bool) (s : Snippet) (line : Int × Text) :
    (s.rows colour line).map stripColours = (s.rows false line).map stripColours := by
  unfold rows
  simp only [List.map_cons, stripColours_sourceLine]
  cases s.column with
  | none => rfl
  | some column =>
    dsimp only
    split
    · simp only [List.map_cons, stripColours_caretRow]
    · rfl

/-- **A snippet without its colours** is the snippet without colour, stripped. -/
theorem stripColours_format (colour : Bool) (s : Snippet) :
    stripColours (s.format colour) = stripColours (s.format false) := by
  simp only [format, stripColours_join, List.map_cons, List.map_append, List.map_flatMap,
    map_stripColours_rows colour, paintDim, stripColours_paint]

end Snippet

/-! ## Errors -/

theorem ErrorCode.escape_not_mem_label (code : ErrorCode) : '\x1b' ∉ code.label := by
  cases code <;> decide

theorem stripColours_paintCode_append (colour : Bool) (code : ErrorCode) (rest : Text) :
    stripColours (paintCode colour code.label ++ rest) = code.label ++ stripColours rest :=
  stripColours_paint_append_of_not_mem colour _ code.escape_not_mem_label rest

theorem CompileError.message_eq (colour : Bool) (e : CompileError) :
    e.message colour = e.message false := by
  unfold message
  cases e.snippet with
  | none => rfl
  | some s => simp only [s.stripColours_format colour]

/-- The rows of a snippet, if there is one. -/
theorem stripColours_snippetRows (colour : Bool) (snippet : Option Snippet) :
    (snippet.map (·.format colour)).toList.map stripColours =
      (snippet.map (·.format false)).toList.map stripColours := by
  cases snippet with
  | none => rfl
  | some s =>
    simp only [Option.map_some, Option.toList_some, List.map_cons, s.stripColours_format colour]

theorem CompileError.stripColours_compact (colour : Bool) (e : CompileError) :
    stripColours (e.compact colour) = stripColours (e.compact false) := by
  have hplace : '\x1b' ∉ "  --> ".toList := by decide
  unfold compact
  simp only [stripColours_join, List.map_cons, stripColours_snippetRows colour,
    stripColours_append_of_not_mem hplace, paintLocation, stripColours_paint]
  cases e.code with
  | none => rfl
  | some code => simp only [List.append_assoc, stripColours_paintCode_append]

theorem ExecutionError.message_eq (colour : Bool) (e : ExecutionError) :
    e.message colour = e.message false := by
  simp only [message, Snippet.stripColours_format colour]

theorem ExecutionError.stripColours_compact (colour : Bool) (e : ExecutionError) :
    stripColours (e.compact colour) = stripColours (e.compact false) := by
  have hplace : '\x1b' ∉ "  Location: ".toList := by decide
  unfold compact
  simp only [stripColours_join, List.map_cons, stripColours_snippetRows colour,
    stripColours_append_of_not_mem hplace, paintLocation, stripColours_paint, List.append_assoc,
    stripColours_paintCode_append]

namespace TemplateError

/-- The plain text of an error is the same in colour. -/
theorem message_eq (colour : Bool) (e : TemplateError) : e.message colour = e.message false := by
  cases e with
  | general message => rfl
  | notFound message => rfl
  | compile e => exact e.message_eq colour
  | execution e => exact e.message_eq colour

theorem stripColours_withCode (colour : Bool) (code : ErrorCode) (message : Text) :
    stripColours (withCode colour code message) = stripColours (withCode false code message) := by
  unfold withCode
  split
  · rfl
  · simp only [List.append_assoc, stripColours_paintCode_append]

/-- The one-screen form without its colours is the same in colour. -/
theorem stripColours_compact (colour : Bool) (e : TemplateError) :
    stripColours (e.compact colour) = stripColours (e.compact false) := by
  cases e with
  | general message => rfl
  | notFound message => exact stripColours_withCode colour _ message
  | compile e => exact e.stripColours_compact colour
  | execution e => exact e.stripColours_compact colour

end TemplateError

end Stencil
