import Stencil.Text.Basic

/-!
# Colour in diagnostics

Diagnostics are tinted with terminal control sequences when colour is on. Whether it is on is a
parameter of every function that prints; `detect` says how a process chooses it. `stripColours`
takes control sequences out again: it goes through a text once, from left to right, and drops every
sequence it meets.
-/

namespace Stencil

/-- The tints in use, and the one that ends them. -/
inductive Tint where
  | reset
  | bold
  | dim
  | yellow
  | cyan
  | brightRed
  deriving DecidableEq, Repr

namespace Tint

/-- The control sequence of a tint. -/
def sequence : Tint → Text
  | .reset => "\x1b[0m".toList
  | .bold => "\x1b[1m".toList
  | .dim => "\x1b[2m".toList
  | .yellow => "\x1b[33m".toList
  | .cyan => "\x1b[36m".toList
  | .brightRed => "\x1b[91m".toList

/-- The tint that goes by a name. -/
def ofName? (name : Text) : Option Tint :=
  ([("reset", reset), ("bold", bold), ("dim", dim), ("yellow", yellow), ("cyan", cyan),
    ("bright_red", brightRed)].map fun pair => (pair.1.toList, pair.2)).lookup name

end Tint

/-- The text in the given tints; unchanged when colour is off or no tint is given. -/
def paint (colour : Bool) (tints : List Tint) (t : Text) : Text :=
  if ! colour || tints.isEmpty then t
  else tints.flatMap Tint.sequence ++ t ++ Tint.reset.sequence

/-- The text in tints given by name. The first name that is no tint is the error; names are not
looked at when colour is off. -/
def paintNamed (colour : Bool) (names : List Text) (t : Text) : Except Text Text :=
  if ! colour then .ok t
  else do
    let tints ← names.mapM fun name =>
      match Tint.ofName? name with
      | some tint => Except.ok tint
      | none => Except.error name
    return paint colour tints t

/-- A location in a diagnostic. -/
def paintLocation (colour : Bool) (t : Text) : Text := paint colour [.cyan] t

/-- Secondary text in a diagnostic. -/
def paintDim (colour : Bool) (t : Text) : Text := paint colour [.dim] t

/-- The code of an error in a diagnostic. -/
def paintCode (colour : Bool) (t : Text) : Text := paint colour [.brightRed, .bold] t

/-- One numbered line of source; the line of the error is marked. -/
def sourceLine (colour : Bool) (line : Int) (content : Text) (isError : Bool) : Text :=
  let mark := if isError then '>' else ' '
  paint colour [.yellow] (mark :: Text.padLeft 3 (Text.ofInt line)) ++ " | ".toList ++
    if isError then paint colour [.brightRed] content else paintDim colour content

/-- Is colour on? A non-empty `FORCE_COLOR` turns it on, a non-empty `NO_COLOR` off, and without
either it is on for a terminal. -/
def detect (forceColor noColor : Option Text) (isTerminal : Bool) : Bool :=
  if forceColor.any (! ·.isEmpty) then true
  else if noColor.any (! ·.isEmpty) then false
  else isTerminal

/-! ## Taking colour out -/

/-- A parameter character of a control sequence. -/
def isParameter (c : Char) : Bool := '0' ≤ c && c ≤ '?'

/-- An intermediate character of a control sequence. -/
def isIntermediate (c : Char) : Bool := ' ' ≤ c && c ≤ '/'

/-- The character that ends a control sequence. -/
def isFinal (c : Char) : Bool := '@' ≤ c && c ≤ '~'

/-- What follows the control sequence that a text begins with. -/
def afterSequence? : Text → Option Text
  | '\x1b' :: '[' :: body =>
    match (body.dropWhile isParameter).dropWhile isIntermediate with
    | c :: rest => if isFinal c then some rest else none
    | [] => none
  | _ => none

theorem length_lt_of_afterSequence? {t rest : Text} (h : afterSequence? t = some rest) :
    rest.length < t.length := by
  unfold afterSequence? at h
  split at h
  · rename_i body
    split at h
    · rename_i c r hr
      split at h
      · have h1 := (List.dropWhile_sublist (l := body) isParameter).length_le
        have h2 :=
          (List.dropWhile_sublist (l := body.dropWhile isParameter) isIntermediate).length_le
        rw [hr] at h2
        simp only [Option.some.injEq] at h
        subst h
        simp only [List.length_cons] at h2 ⊢
        omega
      · simp at h
    · simp at h
  · simp at h

/-- The text without its control sequences. -/
def stripColours : Text → Text
  | [] => []
  | c :: t =>
    match _hseq : afterSequence? (c :: t) with
    | some rest => stripColours rest
    | none => c :: stripColours t
termination_by t => t.length
decreasing_by
  · exact length_lt_of_afterSequence? _hseq
  · simp

/-- A text without an escape character is left as it is. -/
theorem stripColours_of_not_mem {t : Text} (h : '\x1b' ∉ t) : stripColours t = t := by
  induction t with
  | nil => simp [stripColours]
  | cons c t ih =>
    rw [List.mem_cons, not_or] at h
    have hnone : afterSequence? (c :: t) = none := by
      unfold afterSequence?
      split
      · rename_i heq
        exact absurd (List.cons.inj heq).1.symm h.1
      · rfl
    rw [stripColours]
    split
    · rename_i rest hsome
      rw [hnone] at hsome
      simp at hsome
    · rw [ih h.2]

end Stencil
