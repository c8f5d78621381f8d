import Stencil.Segment
import Stencil.Text.Blank
import Stencil.Text.Lines
import Stencil.Text.Word

/-!
# Scanning a template

Three marks open a construct: `<?py` and `<?include`, when no word character follows, and `{$`. The
first two run to the next `?>`, the last to the next closing brace. What stands between the braces
must be a variable, or a variable and a style; anything else is no construct, its opening brace is
text, and reading goes on right behind that brace. An opener without its closer ends the scan.

`pieces` cuts a text into pieces, each with the spelling it was read from; `segments` gives every
piece its line. That nothing is lost is `pieces_spelling`: the spellings of the pieces, put one
after the other, are the text.
-/

namespace Stencil

/-! ## Marks -/

/-- The kinds of construct. -/
inductive Opener where
  | code
  | directive
  | interpolation
  deriving DecidableEq, Repr

/-- How a construct begins. -/
def Opener.mark : Opener → Text
  | .code => "<?py".toList
  | .directive => "<?include".toList
  | .interpolation => "\x7b$".toList

/-- How a construct ends. -/
def Opener.closer : Opener → Text
  | .code | .directive => "?>".toList
  | .interpolation => "\x7d".toList

/-- May the construct be followed by this text? A mark that ends in a letter must end its word. -/
def Opener.endsWord (o : Opener) (rest : Text) : Bool :=
  o == .interpolation || ! (rest.head?.any Text.isWord)

/-- What follows the mark of `o` in a text that opens with it. -/
def Opener.after? (o : Opener) (t : Text) : Option Text :=
  (Text.after? o.mark t).filter o.endsWord

/-- The opener that a text begins with, and the text after it. -/
def opener? (t : Text) : Option (Opener × Text) :=
  [Opener.directive, Opener.code, Opener.interpolation].findSome? fun o =>
    (o.after? t).map fun rest => (o, rest)

/-! ## Interpolations -/

/-- Reads what stands in an interpolation, from the dollar sign on: a variable, then perhaps a comma
and a style. The variable must be a name that code can use; a style is any word. -/
def interpolation? : Text → Option (Text × Option Text)
  | '$' :: inner =>
    let name := inner.takeWhile Text.isWord
    if Text.isName name then
      match inner.dropWhile Text.isWord with
      | [] => some (name, none)
      | ',' :: style =>
        if ! style.isEmpty && style.all Text.isWord then some (name, some style) else none
      | _ => none
    else none
  | _ => none

/-- How an interpolation is written, from the dollar sign on. -/
def interpolationText (name : Text) : Option Text → Text
  | none => '$' :: name
  | some style => '$' :: name ++ ',' :: style

theorem eq_of_interpolation? {t name : Text} {style : Option Text}
    (h : interpolation? t = some (name, style)) : t = interpolationText name style := by
  match t with
  | [] => simp [interpolation?] at h
  | c :: inner =>
    by_cases hc : c = '$'
    · subst hc
      have hsplit := inner.takeWhile_append_dropWhile (p := Text.isWord)
      simp only [interpolation?] at h
      split at h
      · split at h
        · rename_i hrest
          simp only [Option.some.injEq, Prod.mk.injEq] at h
          rw [← h.1, ← h.2, interpolationText]
          rw [hrest, List.append_nil] at hsplit
          rw [hsplit]
        · rename_i s hrest
          split at h
          · simp only [Option.some.injEq, Prod.mk.injEq] at h
            rw [← h.1, ← h.2, interpolationText, List.cons_append, ← hrest, hsplit]
          · simp at h
        · simp at h
      · simp at h
    · unfold interpolation? at h
      split at h
      · simp_all
      · simp at h

/-! ## Pieces -/

/-- A part of a template as it is written. -/
inductive Piece where
  | text (t : Text)
  | code (inner : Text)
  | directive (inner : Text)
  | interpolation (name : Text) (style : Option Text)
  deriving DecidableEq, Repr

/-- The text that a piece was read from. -/
def Piece.spelling : Piece → Text
  | .text t => t
  | .code inner => Opener.code.mark ++ inner ++ Opener.code.closer
  | .directive inner => Opener.directive.mark ++ inner ++ Opener.directive.closer
  | .interpolation name style =>
    '\x7b' :: interpolationText name style ++ Opener.interpolation.closer

/-- What a text begins with. -/
inductive Reading where
  /-- No construct: the first character is text. -/
  | plain
  /-- A construct, and the text after it. -/
  | construct (piece : Piece) (rest : Text)
  /-- An opener whose closer is missing. -/
  | unclosed (o : Opener)
  deriving DecidableEq, Repr

/-- The piece that a construct makes; none when its content is refused. -/
def Opener.piece? (o : Opener) (inner : Text) : Option Piece :=
  match o with
  | .code => some (.code inner)
  | .directive => some (.directive inner)
  | .interpolation => (interpolation? ('$' :: inner)).map fun found =>
    .interpolation found.1 found.2

/-- Reads the construct that a text begins with. -/
def readConstruct (t : Text) : Reading :=
  match opener? t with
  | none => .plain
  | some (o, after) =>
    match Text.cutAt? o.closer after with
    | none => .unclosed o
    | some (inner, rest) =>
      match o.piece? inner with
      | some piece => .construct piece rest
      | none => .plain

theorem eq_of_opener? {t after : Text} {o : Opener} (h : opener? t = some (o, after)) :
    t = o.mark ++ after := by
  simp only [opener?] at h
  obtain ⟨o', -, h⟩ := List.exists_of_findSome?_eq_some h
  obtain ⟨rest, hrest, hpair⟩ := Option.map_eq_some_iff.1 h
  simp only [Prod.mk.injEq] at hpair
  obtain ⟨rfl, rfl⟩ := hpair
  exact Text.eq_of_after? (Option.filter_eq_some_iff.1 hrest).1

theorem spelling_of_piece? {o : Opener} {inner : Text} {piece : Piece}
    (h : o.piece? inner = some piece) : piece.spelling = o.mark ++ inner ++ o.closer := by
  cases o with
  | code => simp only [Opener.piece?, Option.some.injEq] at h; rw [← h]; rfl
  | directive => simp only [Opener.piece?, Option.some.injEq] at h; rw [← h]; rfl
  | interpolation =>
    obtain ⟨⟨name, style⟩, hfound, rfl⟩ := Option.map_eq_some_iff.1 h
    rw [Piece.spelling, ← eq_of_interpolation? hfound]
    rfl

/-- A construct is read from its spelling. -/
theorem eq_of_readConstruct {t rest : Text} {piece : Piece}
    (h : readConstruct t = .construct piece rest) : t = piece.spelling ++ rest := by
  simp only [readConstruct] at h
  split at h
  · simp at h
  · rename_i o after hopen
    split at h
    · simp at h
    · rename_i inner rest' hcut
      split at h
      · rename_i p hp
        simp only [Reading.construct.injEq] at h
        obtain ⟨rfl, rfl⟩ := h
        rw [spelling_of_piece? hp, eq_of_opener? hopen, Text.eq_of_cutAt? hcut]
        simp
      · simp at h

/-- A construct is written as a mark, its content and a closer. -/
theorem exists_opener_of_readConstruct {t rest : Text} {piece : Piece}
    (h : readConstruct t = .construct piece rest) :
    ∃ (o : Opener) (inner : Text),
      o.piece? inner = some piece ∧ piece.spelling = o.mark ++ inner ++ o.closer := by
  simp only [readConstruct] at h
  split at h
  · simp at h
  · rename_i o after _
    split at h
    · simp at h
    · rename_i inner rest' _
      split at h
      · rename_i p hp
        simp only [Reading.construct.injEq] at h
        exact ⟨o, inner, h.1 ▸ hp, spelling_of_piece? (h.1 ▸ hp)⟩
      · simp at h

/-- What follows a construct is shorter than the text that begins with it. -/
theorem length_lt_of_readConstruct {t rest : Text} {piece : Piece}
    (h : readConstruct t = .construct piece rest) : rest.length < t.length := by
  obtain ⟨o, inner, -, hs⟩ := exists_opener_of_readConstruct h
  have hmark : 0 < o.mark.length := by cases o <;> decide
  have ht := congrArg List.length (eq_of_readConstruct h)
  simp only [hs, List.length_append] at ht
  omega

/-! ## Cutting a template into pieces -/

/-- An opener without its closer, and the text before it. -/
structure Unclosed where
  opener : Opener
  before : Text
  deriving DecidableEq, Repr

/-- Puts a character of text in front of pieces; it joins a text that comes first. -/
def consText (c : Char) : List Piece → List Piece
  | .text t :: ps => .text (c :: t) :: ps
  | ps => .text [c] :: ps

/-- The pieces of a template, or the first opener that is never closed. -/
def pieces : Text → Except Unclosed (List Piece)
  | [] => .ok []
  | c :: t =>
    match _hread : readConstruct (c :: t) with
    | .plain =>
      match pieces t with
      | .ok ps => .ok (consText c ps)
      | .error u => .error { u with before := c :: u.before }
    | .unclosed o => .error { opener := o, before := [] }
    | .construct piece rest =>
      match pieces rest with
      | .ok ps => .ok (piece :: ps)
      | .error u => .error { u with before := piece.spelling ++ u.before }
termination_by t => t.length
decreasing_by
  · simp
  · exact length_lt_of_readConstruct _hread

theorem spelling_consText (c : Char) (ps : List Piece) :
    (consText c ps).flatMap Piece.spelling = c :: ps.flatMap Piece.spelling := by
  unfold consText
  split <;> simp [Piece.spelling]

/-- Cutting into pieces loses nothing and adds nothing. -/
theorem pieces_spelling {t : Text} {ps : List Piece} (h : pieces t = .ok ps) :
    ps.flatMap Piece.spelling = t := by
  fun_induction pieces t generalizing ps with
  | case1 => simp only [Except.ok.injEq] at h; subst h; rfl
  | case2 c t _ ps' hps ih =>
    simp only [Except.ok.injEq] at h
    rw [← h, spelling_consText, ih hps]
  | case3 => simp at h
  | case4 => simp at h
  | case5 c t piece rest hread ps' hps ih =>
    simp only [Except.ok.injEq] at h
    rw [← h, List.flatMap_cons, ih hps, ← eq_of_readConstruct hread]
  | case6 => simp at h

/-! ## Documents -/

/-- What a piece contributes to a document. The path of a directive has no blanks at its ends. -/
def Piece.body : Piece → Body
  | .text t => .literal t
  | .code inner => .code inner
  | .directive inner => .directive (Text.strip inner)
  | .interpolation name style => .interpolation name style

/-- The segments of a file, given its pieces from line `line` on. -/
def segmentsFrom (filename : Text) (line : Nat) : List Piece → List Segment
  | [] => []
  | p :: ps =>
    { body := p.body, filename, line } ::
      segmentsFrom filename (line + p.spelling.count '\n') ps

/-- Scans the text of a template. -/
def scan (source filename : Text) : Except Unclosed Document :=
  (pieces source).map fun ps => { name := filename, segments := segmentsFrom filename 1 ps, source }

end Stencil
