import Stencil.Proofs.Code.Cut
import Stencil.Proofs.Code.Margin

/-!
# Code below comments

Pieces of code that can be read by themselves can be read one below the other as well, each below a
comment on a line of its own, and what is read is what the pieces say, in their order.

* `ended_codeLines`, `unixNewlines_ended`: code with its last line ended.
* `parsesAs_commented`, `lines_commented`: code below comments, and its lines.
-/

namespace Stencil.Code

open Stencil.Code.Parser (ReadsAs endMark readsAs_endMark rowLength)
open Text (join unixNewlines)

/-! ## Lines -/

theorem ended_codeLines (t : Text) : Ended (codeLines t) := by
  rw [codeLines_eq]
  split
  · exact ended_append_newline _
  · rename_i hnot
    intro c hc
    have hlast := not_not.mp (mt Or.inr hnot)
    exact Option.some.inj (hc.symm.trans hlast)

/-- Code with its last line ended is the code, or the code and an empty line. -/
theorem unixNewlines_ended (t : Text) :
    unixNewlines (t ++ ['\n']) = codeLines t ∨ unixNewlines (t ++ ['\n']) = codeLines t ++ ['\n'] := by
  rw [codeLines_eq]
  by_cases hreturn : ['\r'] <:+ t
  · obtain ⟨u, rfl⟩ := hreturn
    have hread : unixNewlines (u ++ ['\r']) = unixNewlines u ++ ['\n'] :=
      unixNewlines_append (.inr (by simp))
    have hpair : unixNewlines (u ++ ['\r'] ++ ['\n']) = unixNewlines u ++ ['\n'] := by
      rw [List.append_assoc]
      exact unixNewlines_append (.inr (by simp))
    have hnot : ¬ ['\r', '\n'] <:+ u ++ ['\r'] := by
      rintro ⟨before, heq⟩
      simpa using congrArg List.getLast? heq
    rw [hread, if_neg (by simp [hnot]), hpair]
    exact .inl rfl
  · have hread : unixNewlines (t ++ ['\n']) = unixNewlines t ++ ['\n'] :=
      unixNewlines_append (.inl hreturn)
    rw [hread]
    split
    · exact .inl rfl
    · exact .inr rfl

/-! ## Tokens -/

/-- Code that can be read is cut by the rules. -/
theorem cut_of_parse {t : Text} {ss : List Stmt} (h : parse t = .ok ss) :
    Cut .start true (codeLines t) (bareTokens t) :=
  cut_of_tokensFrom _ _ (ended_codeLines t) (fun _ => rfl) (readsAs_of_parse h).2.2

/-- Tokens of lines that may stand below any others, read as these statements. -/
def FollowsAs (t : Text) (ss : List Stmt) : Prop :=
  ∃ ts, Follows t ts ∧ ReadsAs rowLength blockDepth ts (Stmt.bareAll ss)

theorem followsAs_newline : FollowsAs ['\n'] [] :=
  ⟨[endMark], follows_nil.newline, readsAs_endMark⟩

theorem FollowsAs.newline {t : Text} {ss : List Stmt} (h : FollowsAs t ss) :
    FollowsAs ('\n' :: t) ss := by
  obtain ⟨ts, hfollows, hreads⟩ := h
  exact ⟨ts, hfollows.newline, hreads⟩

theorem FollowsAs.comment {t : Text} {ss : List Stmt} (h : FollowsAs t ss) {comment : Text}
    (hcomment : '\n' ∉ comment) : FollowsAs ('#' :: (comment ++ '\n' :: t)) ss := by
  obtain ⟨ts, hfollows, hreads⟩ := h
  exact ⟨ts, hfollows.comment hcomment, hreads⟩

/-- The text is code, and these statements are the same code. -/
def ParsesAs (t : Text) (ss : List Stmt) : Prop := ∃ ss', parse t = .ok ss' ∧ SameCode ss' ss

theorem ParsesAs.ne_nil {t : Text} {ss : List Stmt} (h : ParsesAs t ss) (hss : ss ≠ []) :
    t ≠ [] := by
  rintro rfl
  obtain ⟨ss', hparse, hsame⟩ := h
  obtain rfl : [] = ss' := Except.ok.inj hparse
  rw [SameCode, Stmt.mapLinesAll_eq_map, Stmt.mapLinesAll_eq_map] at hsame
  exact hss (List.map_eq_nil_iff.mp hsame.symm)

/-- Code, and code below it. -/
theorem FollowsAs.code {t below : Text} {ss rest : List Stmt} (h : ParsesAs t ss)
    (hbelow : FollowsAs below rest) : FollowsAs (codeLines t ++ below) (ss ++ rest) := by
  obtain ⟨more, hfollows, hmore⟩ := hbelow
  obtain ⟨ss', h, hsame⟩ := h
  obtain ⟨-, hreads, -⟩ := readsAs_of_parse h
  obtain ⟨row, hrow, hisRow, hall⟩ := (cut_of_parse h).exists_follows (ended_codeLines t)
    hreads.ne_indent hfollows hmore.ne_indent
  rw [hrow] at hreads
  refine ⟨row ++ more, hall, ?_⟩
  rw [Stmt.bareAll_append, ← show Stmt.bareAll ss' = Stmt.bareAll ss from hsame]
  exact hreads.append hisRow.lines hisRow.ne_finish hmore hmore.goesOn

/-- Code with its last line ended, and code below it. -/
theorem FollowsAs.line {t below : Text} {ss rest : List Stmt} (h : ParsesAs t ss)
    (hbelow : FollowsAs below rest) :
    FollowsAs (unixNewlines (t ++ ['\n']) ++ below) (ss ++ rest) := by
  obtain hsame | hsame := unixNewlines_ended t
  · rw [hsame]
    exact .code h hbelow
  · rw [hsame, List.append_assoc]
    exact .code h hbelow.newline

/-! ## Code below comments -/

/-- A comment that stays on its line. -/
structure PlainComment (comment : Text) : Prop where
  newline : '\n' ∉ comment
  carriage : '\r' ∉ comment
  nul : '\x00' ∉ comment

/-- Pieces of code, each below a comment. -/
def commented {ι : Type} (comment code : ι → Text) (pieces : List ι) : Text :=
  join ['\n'] (pieces.flatMap fun i => ['#' :: comment i, code i])

section

variable {ι : Type} {comment code : ι → Text} {meaning : ι → List Stmt}

theorem commented_cons_cons (i j : ι) (pieces : List ι) :
    commented comment code (i :: j :: pieces) =
      '#' :: comment i ++ '\n' :: (code i ++ '\n' :: commented comment code (j :: pieces)) := by
  simp only [commented, List.flatMap_cons, List.cons_append, List.nil_append, Text.join_cons_cons]

theorem commented_singleton (i : ι) :
    commented comment code [i] = '#' :: comment i ++ '\n' :: code i := by
  simp [commented, join, List.intercalate]

/-- Nothing is read differently in a comment. -/
theorem codeLines_comment {u t : Text} (hu : PlainComment u) (ht : t ≠ []) :
    codeLines ('#' :: u ++ '\n' :: t) = '#' :: (u ++ '\n' :: codeLines t) := by
  have hcarriage : '\r' ∉ '#' :: u ++ ['\n'] := by simp [hu.carriage]
  rw [codeLines_append _ ht, Text.unixNewlines_of_not_mem hcarriage]
  simp

theorem followsAs_commented {pieces : List ι}
    (hcomment : ∀ i ∈ pieces, PlainComment (comment i))
    (hcode : ∀ i ∈ pieces, ParsesAs (code i) (meaning i) ∧ meaning i ≠ []) :
    FollowsAs (codeLines (commented comment code pieces)) (pieces.flatMap meaning) := by
  induction pieces with
  | nil => exact followsAs_newline
  | cons i pieces ih =>
    obtain ⟨hplain, hcomment⟩ := List.forall_mem_cons.mp hcomment
    obtain ⟨⟨hparse, hsome⟩, hcode⟩ := List.forall_mem_cons.mp hcode
    cases pieces with
    | nil =>
      rw [commented_singleton, codeLines_comment hplain (hparse.ne_nil hsome)]
      have hlast : FollowsAs (codeLines (code i) ++ []) (meaning i ++ []) :=
        .code hparse ⟨[endMark], follows_nil, readsAs_endMark⟩
      rw [List.append_nil] at hlast
      exact hlast.comment hplain.newline
    | cons j pieces =>
      have hmore : commented comment code (j :: pieces) ≠ [] := by
        cases pieces <;> simp [commented_cons_cons, commented_singleton]
      rw [commented_cons_cons, codeLines_comment hplain (by simp),
        codeLines_append _ hmore, List.flatMap_cons]
      exact (FollowsAs.line hparse (ih hcomment hcode)).comment hplain.newline

theorem not_nul_commented {pieces : List ι} (hcomment : ∀ i ∈ pieces, PlainComment (comment i))
    (hcode : ∀ i ∈ pieces, '\x00' ∉ code i) : '\x00' ∉ commented comment code pieces := by
  induction pieces with
  | nil => simp [commented, join, List.intercalate]
  | cons i pieces ih =>
    obtain ⟨hplain, hcomment⟩ := List.forall_mem_cons.mp hcomment
    obtain ⟨hnul, hcode⟩ := List.forall_mem_cons.mp hcode
    have hplain := hplain.nul
    cases pieces with
    | nil => simp [commented_singleton, hplain, hnul]
    | cons j pieces =>
      have hmore := ih hcomment hcode
      simp [commented_cons_cons, hplain, hnul, hmore]

/-- **Pieces of code below comments are read as what they say, in their order.** -/
theorem parsesAs_commented {pieces : List ι}
    (hcomment : ∀ i ∈ pieces, PlainComment (comment i))
    (hcode : ∀ i ∈ pieces, ParsesAs (code i) (meaning i) ∧ meaning i ≠ []) :
    ParsesAs (commented comment code pieces) (pieces.flatMap meaning) := by
  obtain ⟨ts, hfollows, hreads⟩ := followsAs_commented hcomment hcode
  have htokens : bareTokens (commented comment code pieces) = ts :=
    (hfollows .start ⟨rfl, by simp [Layout.start]⟩).bare_tokensFrom _ (by simp)
  have hnul : '\x00' ∉ commented comment code pieces := by
    refine not_nul_commented hcomment fun i hi => ?_
    obtain ⟨ss, hparse, -⟩ := (hcode i hi).1
    exact (readsAs_of_parse hparse).1
  exact exists_parse_of_readsAs hnul (htokens ▸ hreads)

/-- The lines of code below comments. -/
theorem lines_commented {pieces : List ι} (hcomment : ∀ i ∈ pieces, PlainComment (comment i))
    (hne : pieces ≠ []) :
    Text.lines (commented comment code pieces) =
      pieces.flatMap fun i => ('#' :: comment i) :: Text.lines (code i) := by
  have hpiece {u : Text} (hu : PlainComment u) (t : Text) :
      Text.lines ('#' :: u ++ '\n' :: t) = ('#' :: u) :: Text.lines t :=
    Text.split_append (by simp [hu.newline]) t
  induction pieces with
  | nil => exact absurd rfl hne
  | cons i pieces ih =>
    obtain ⟨hplain, hcomment⟩ := List.forall_mem_cons.mp hcomment
    rw [List.flatMap_cons]
    cases pieces with
    | nil => rw [commented_singleton, hpiece hplain, List.flatMap_nil, List.append_nil]
    | cons j pieces =>
      rw [commented_cons_cons, hpiece hplain, Text.lines_append_newline, ih hcomment (by simp)]
      rfl

end

end Stencil.Code
