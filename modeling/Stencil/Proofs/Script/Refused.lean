import Stencil.Proofs.Scan.Spelling
import Stencil.Proofs.Script.Extent
import Stencil.Proofs.Script.Generable

/-!
# Code that cannot be read

Generation stops at the first block that the parser refuses. It fails with a syntax error in the file
of the block, on the line of the block that the parser gives and with the parser's message, unless
there are NUL characters: in the text of the block, or in the name of a file with code up to there. The
parser takes neither, and its own error is passed on without a place.

* `Code.parse_eq_nul_iff`: the texts that the parser does not take.
* `Draft.foldlM_add_append_of_error`: segments up to one that fails.
* `refused_block_is_reported`: how generation fails.
* `not_refused_block_is_reported_of_control_characters`: errors without their place.
-/

namespace Stencil

open Code (Stmt)

/-! ## Refusals -/

/-- Why the code of a segment cannot be read, if it cannot. -/
def Segment.refusal? (s : Segment) : Option Code.Unreadable :=
  match s.body with
  | .code t =>
    match Code.parse (Block.ofText t s.line).code with
    | .error refusal => some refusal
    | .ok _ => none
  | _ => none

/-- The file of the segment can be named, if the segment is a block of code. -/
def Segment.Named (s : Segment) : Prop := ∀ t, s.body = .code t → '\x00' ∉ s.filename

theorem Segment.readable_of_refusal? {s : Segment} (hpath : s.path? = none)
    (h : s.refusal? = none) : s.Readable := by
  unfold Segment.path? at hpath
  unfold Segment.refusal? at h
  unfold Segment.Readable Segment.code
  cases hbody : s.body with
  | literal t => trivial
  | interpolation name style => trivial
  | directive path => simp [hbody] at hpath
  | code t =>
    rw [hbody] at h
    dsimp only at h ⊢
    cases hparse : Code.parse (Block.ofText t s.line).code with
    | ok ss => rfl
    | error refusal => simp [hparse] at h

theorem Segment.exists_of_refusal? {s : Segment} {refusal : Code.Unreadable}
    (h : s.refusal? = some refusal) :
    ∃ t, s.body = .code t ∧ Code.parse (Block.ofText t s.line).code = .error refusal := by
  unfold Segment.refusal? at h
  cases hbody : s.body with
  | code t =>
    rw [hbody] at h
    dsimp only at h
    cases hparse : Code.parse (Block.ofText t s.line).code with
    | ok ss => simp [hparse] at h
    | error r =>
      obtain rfl : r = refusal := by simpa [hparse] using h
      exact ⟨t, rfl, hparse⟩
  | _ => simp [hbody] at h

namespace Code

/-- **The parser does not take texts with a NUL character**, and no others. -/
theorem parse_eq_nul_iff (t : Text) : parse t = .error .nul ↔ '\x00' ∈ t := by
  unfold parse
  constructor
  · intro h
    split at h
    · rename_i hnul
      simpa using hnul
    · dsimp only at h
      split at h <;> cases h
  · intro h
    rw [if_pos (by simpa using h)]

theorem exists_line_of_malformed {t message : Text} {line : Nat}
    (h : parse t = .error (.malformed message line)) : ∃ read, line = withinLines t read := by
  unfold parse at h
  split at h
  · cases h
  · dsimp only at h
    split at h
    · cases h
    · obtain ⟨-, rfl⟩ := Unreadable.malformed.inj (Except.error.inj h)
      exact ⟨_, rfl⟩

end Code

/-! ## Drafts -/

namespace Draft

theorem add_of_not_named (d : Draft) {s : Segment} (h : ¬ s.Named) :
    d.add s = .error .nulInName := by
  unfold Segment.Named at h
  push Not at h
  obtain ⟨t, hbody, hname⟩ := h
  unfold add
  simp [hbody, hname]

theorem add_of_nul (d : Draft) {s : Segment} {t : Text} (hbody : s.body = .code t)
    (hname : '\x00' ∉ s.filename)
    (hparse : Code.parse (Block.ofText t s.line).code = .error .nul) :
    d.add s = .error .nulInCode := by
  have hnul : s.filename.contains '\x00' = false := by simpa using hname
  unfold add
  simp only [hbody, hnul, hparse]
  rfl

/-- Segments up to one that fails. -/
theorem foldlM_add_append_of_error {before : List Segment} {s : Segment} {d : Draft}
    {e : GenerateError} (hbefore : ∀ s ∈ before, s.Generable)
    (hs : (d.extend before).add s = .error e) (after : List Segment) :
    (before ++ s :: after).foldlM Draft.add d = .error e := by
  rw [List.foldlM_append, foldlM_add_eq_ok_iff.mpr ⟨hbefore, rfl⟩]
  show (s :: after).foldlM Draft.add (d.extend before) = _
  rw [List.foldlM_cons, hs]
  rfl

/-- The first name that cannot be used is where segments fail that can be read. -/
theorem foldlM_add_of_not_named {before : List Segment} {s : Segment}
    (hbefore : ∀ s ∈ before, s.Readable) (hname : ∃ s' ∈ before ++ [s], ¬ s'.Named) (d : Draft)
    (after : List Segment) : (before ++ s :: after).foldlM Draft.add d = .error .nulInName := by
  induction before generalizing d with
  | nil =>
    obtain ⟨s', hs', hname⟩ := hname
    obtain rfl := List.mem_singleton.mp hs'
    rw [List.nil_append, List.foldlM_cons, add_of_not_named d hname]
    rfl
  | cons s₀ before ih =>
    obtain ⟨hreadable, hrest⟩ := List.forall_mem_cons.mp hbefore
    rw [List.cons_append, List.foldlM_cons]
    by_cases hnamed : s₀.Named
    · rw [add_of_generable d ⟨hreadable, hnamed⟩]
      refine ih hrest ?_ (d.extend [s₀])
      obtain ⟨s', hs', hname⟩ := hname
      rcases List.mem_cons.mp hs' with rfl | hs'
      · exact absurd hnamed hname
      · exact ⟨s', hs', hname⟩
    · rw [add_of_not_named d hnamed]
      rfl

end Draft

theorem generate_of_foldlM_add_error {d : Document} {sources : List (Text × Text)}
    {e : GenerateError}
    (h : d.segments.foldlM Draft.add (.empty (keptSources d sources)) = .error e)
    (warnings : List IncludeWarning) : generate d sources warnings = .error e := by
  rw [generate_eq, h]
  rfl

/-- A document fails as the first of its segments that cannot be made into statements. -/
theorem generate_of_add_error {d : Document} {before after : List Segment} {s : Segment}
    (hsegments : d.segments = before ++ s :: after) (hbefore : ∀ s ∈ before, s.Generable)
    {sources : List (Text × Text)} {e : GenerateError}
    (hs : ((Draft.empty (keptSources d sources)).extend before).add s = .error e)
    (warnings : List IncludeWarning) : generate d sources warnings = .error e := by
  refine generate_of_foldlM_add_error ?_ warnings
  rw [hsegments]
  exact Draft.foldlM_add_append_of_error hbefore hs after

/-! ## Errors -/

/-- **Generation fails at the first block that cannot be read.** If no name of a file with code up to
there and no text of the block holds a NUL character, it fails with a syntax error in the file of the
block, with the parser's message, on the line of the block that the parser gives; that line is one of
the block's own if the block is read in no more lines than it is high. A NUL character in a name or in
the block makes it fail with another error. -/
theorem refused_block_is_reported {d : Document} (hdirectives : ∀ s ∈ d.segments, s.path? = none)
    (hrefused : ∃ s ∈ d.segments, s.refusal? ≠ none) (sources : List (Text × Text))
    (warnings : List IncludeWarning) :
    ∃ before s after t, d.segments = before ++ s :: after ∧ s.body = .code t ∧
      s.refusal? ≠ none ∧ (∀ s' ∈ before, s'.refusal? = none) ∧
      ((∃ s' ∈ before ++ [s], ¬ s'.Named) →
        generate d sources warnings = .error .nulInName) ∧
      ((∀ s' ∈ before ++ [s], s'.Named) → '\x00' ∈ t →
        generate d sources warnings = .error .nulInCode) ∧
      ((∀ s' ∈ before ++ [s], s'.Named) → '\x00' ∉ t →
        let b := Block.ofText t s.line
        ∃ e message k, generate d sources warnings = .error (.syntaxError e) ∧
          s.refusal? = some (.malformed message (k + 1)) ∧ e.kind = .codeSyntax ∧
          e.reason = message ∧ e.filename = some s.filename ∧ e.line = some (b.line + k) ∧
          (s.ReadInPlace → s.line ≤ b.line + k ∧ b.line + k ≤ s.line + t.count '\n') ∧
          (s.ReturnsPaired → s.ReadInPlace ∧ s.WrittenOn k (b.line + k))) := by
  have hfirst : d.segments.findSome? Segment.refusal? ≠ none := by
    rw [Ne, List.findSome?_eq_none_iff]
    push Not
    exact hrefused
  obtain ⟨refusal, hfirst⟩ := Option.ne_none_iff_exists'.mp hfirst
  obtain ⟨before, s, after, hsegments, hrefusal, hbefore⟩ := List.findSome?_eq_some_iff.mp hfirst
  obtain ⟨t, hbody, hparse⟩ := Segment.exists_of_refusal? hrefusal
  have hreadable : ∀ s' ∈ before, s'.Readable := fun s' hs' =>
    Segment.readable_of_refusal?
      (hdirectives s' (hsegments ▸ List.mem_append_left (s :: after) hs')) (hbefore s' hs')
  let draft := (Draft.empty (keptSources d sources)).extend before
  -- as long as all files can be named, generation comes to the block and fails as the block does
  have hfails {e : GenerateError} (hnamed : ∀ s' ∈ before ++ [s], s'.Named)
      (he : draft.add s = .error e) : generate d sources warnings = .error e :=
    generate_of_add_error hsegments (fun s' hs' =>
      ⟨hreadable s' hs', hnamed s' (List.mem_append_left [s] hs')⟩) he warnings
  have hfile (hnamed : ∀ s' ∈ before ++ [s], s'.Named) : '\x00' ∉ s.filename :=
    hnamed s (List.mem_append_right before (List.mem_singleton_self s)) t hbody
  have hcode : '\x00' ∈ (Block.ofText t s.line).code ↔ '\x00' ∈ t := Block.mem_code_iff rfl t s.line
  refine ⟨before, s, after, t, hsegments, hbody, by simp [hrefusal], hbefore, fun hname => ?_,
    fun hnamed hnul => ?_, fun hnamed hnul => ?_⟩
  · refine generate_of_foldlM_add_error ?_ warnings
    rw [hsegments]
    exact Draft.foldlM_add_of_not_named hreadable hname _ after
  · have hnul := (Code.parse_eq_nul_iff _).mpr (hcode.mpr hnul)
    exact hfails hnamed (draft.add_of_nul hbody (hfile hnamed) hnul)
  · intro b
    cases refusal with
    | nul => exact absurd (hcode.mp ((Code.parse_eq_nul_iff _).mp hparse)) hnul
    | malformed message line =>
      obtain ⟨read, rfl⟩ := Code.exists_line_of_malformed hparse
      obtain ⟨k, hk, hplace⟩ := exists_withinLines b le_rfl read
      have hk : Code.withinLines b.code read = k + 1 := hk.trans (Nat.add_comm 1 k)
      have herror := draft.add_of_malformed hbody (hfile hnamed) hparse
      have hline : b.line + (k + 1 : Nat) - 1 = b.line + k := by omega
      rw [hk, hline] at herror
      rw [Segment.ReadInPlace, hbody]
      refine ⟨_, message, k, hfails hnamed herror, by rw [hrefusal, hk], rfl, rfl, rfl, rfl,
        fun hread => Block.line_add_mem t s.line (hplace hread), fun hpaired => ?_⟩
      have hread := hpaired.readInPlace
      rw [Segment.ReadInPlace, hbody] at hread
      exact ⟨hread, Segment.writtenOn_of_code hbody hpaired (hplace hread)⟩

/-- A bracket too many on the second line of a block behind a text. -/
theorem refused_block_is_reported_of_bracket :
    let s : Segment := ⟨.code "\n x = 1\n )\n".toList, "t".toList, 2⟩
    let d : Document := ⟨"t".toList, [⟨.literal "a\n".toList, "t".toList, 1⟩, s], []⟩
    (∀ s ∈ d.segments, s.path? = none) ∧ (∃ s ∈ d.segments, s.refusal? ≠ none) ∧
      ∃ e, generate d [] [] = .error (.syntaxError e) ∧ e.reason = "unmatched ')'".toList ∧
        e.filename = some "t".toList ∧ e.line = some 4 := by
  intro s d
  have hrefusal : s.refusal? = some (.malformed "unmatched ')'".toList 2) := by decide +kernel
  have hdirectives : ∀ s ∈ d.segments, s.path? = none :=
    List.forall_mem_cons.mpr ⟨rfl, List.forall_mem_singleton.mpr rfl⟩
  have hrefused : ∃ s ∈ d.segments, s.refusal? ≠ none :=
    ⟨s, List.mem_cons_of_mem _ List.mem_cons_self, by simp [hrefusal]⟩
  have hnamed : ∀ s ∈ d.segments, s.Named :=
    List.forall_mem_cons.mpr ⟨fun _ _ => by decide, List.forall_mem_singleton.mpr
      fun _ _ => by decide⟩
  obtain ⟨before, s', after, t, hsegments, hbody, hne, -, -, -, hreports⟩ :=
    refused_block_is_reported hdirectives hrefused [] []
  have hs' : s' = s := by
    have hmem : s' ∈ d.segments := hsegments ▸ List.mem_append_right before List.mem_cons_self
    rcases List.mem_cons.mp hmem with rfl | hmem
    · exact absurd rfl hne
    · exact List.mem_singleton.mp hmem
  rw [hs'] at hsegments hbody hreports
  have hreached : ∀ s' ∈ before ++ [s], s'.Named := by
    intro s' hs'
    rcases List.mem_append.mp hs' with hs' | hs'
    · exact hnamed s' (hsegments ▸ List.mem_append_left _ hs')
    · exact List.mem_singleton.mp hs' ▸ hnamed s (List.mem_cons_of_mem _ List.mem_cons_self)
  obtain rfl := Body.code.inj hbody
  obtain ⟨e, message, k, hgenerate, hmalformed, -, hreason, hfile, hline, -⟩ :=
    hreports hreached (by decide)
  rw [hrefusal] at hmalformed
  obtain ⟨rfl, hk⟩ := Code.Unreadable.malformed.inj (Option.some.inj hmalformed)
  obtain rfl : k = 1 := by omega
  have hblock : (Block.ofText "\n x = 1\n )\n".toList 2).line = 3 := by decide +kernel
  exact ⟨hdirectives, hrefused, e, hgenerate, hreason, hfile, hline.trans (by rw [hblock]; rfl)⟩

/-- **Two control characters** spoil the report. A NUL character in a block makes generation fail
without a place, and carriage returns by themselves put the error behind a block of one line. -/
theorem not_refused_block_is_reported_of_control_characters :
    let s : Segment := ⟨.code "x\x00".toList, "a".toList, 1⟩
    let s' : Segment := ⟨.code "x = 1\r\r)".toList, "a".toList, 1⟩
    s.refusal? = some .nul ∧ generate ⟨"a".toList, [s], []⟩ [] [] = .error .nulInCode ∧
      s'.refusal? = some (.malformed "unmatched ')'".toList 3) ∧
      ∃ e, generate ⟨"a".toList, [s'], []⟩ [] [] = .error (.syntaxError e) ∧ e.line = some 3 := by
  intro s s'
  let d : Document := ⟨"a".toList, [s], []⟩
  let d' : Document := ⟨"a".toList, [s'], []⟩
  have hnul : s.refusal? = some .nul := by decide +kernel
  have hmalformed : s'.refusal? = some (.malformed "unmatched ')'".toList 3) := by decide +kernel
  obtain ⟨t, hbody, hparse⟩ := Segment.exists_of_refusal? hnul
  obtain ⟨t', hbody', hparse'⟩ := Segment.exists_of_refusal? hmalformed
  have hline : (Block.ofText t' s'.line).line = 1 := by
    obtain rfl := Body.code.inj hbody'
    decide +kernel
  have hfails := generate_of_add_error (show d.segments = [] ++ s :: [] from rfl) (by simp)
    (Draft.add_of_nul (.extend (.empty (keptSources d [])) []) hbody (by decide) hparse) []
  have hfails' := generate_of_add_error (show d'.segments = [] ++ s' :: [] from rfl) (by simp)
    (Draft.add_of_malformed (.extend (.empty (keptSources d' [])) []) hbody' (by decide) hparse') []
  rw [hline] at hfails'
  exact ⟨hnul, hfails, hmalformed, _, hfails', rfl⟩

end Stencil
