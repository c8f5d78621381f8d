import Mathlib.Logic.Basic
import Stencil.Code.Cursor
import Stencil.Proofs.Code.Lines

/-!
# Reading in step

What is read from tokens does not depend on the lines that they stand on: from two cursors whose
tokens are the same but for their lines, a parser reads the same but for the lines in it, or refuses
both. Only what a refusal says may differ: it names lines, and a bracket that is never closed goes
before other messages if it is opened on a line above.

Nor does it depend on what stands behind a mark of the layout that is not taken. Both are cases of
cursors that can be read in step: their first tokens are the same, and so on behind each token that is
no mark (`Stepwise`).

Two parsers are `Alike` when they read the same from all such cursors; `r` forgets the lines in what
is read. The rules of this file build such pairs from smaller ones.

* `Alike.bind`: one parser after another.
* `alike_peek_bind`, `alike_accept`, `alike_report`, `alike_follows`: the parsers that all others
  are made of.
-/

namespace Stencil.Code

/-! ## Lines left out -/

/-- An expression without its lines. -/
def Expr.bare (e : Expr) : Expr := e.mapLines fun _ => 0

/-- Expressions without their lines. -/
def Expr.bareAll (es : List Expr) : List Expr := Expr.mapLinesAll (fun _ => 0) es

/-- An expression that may be missing, without its lines. -/
def Expr.bareOption (e : Option Expr) : Option Expr := Expr.mapLinesOption (fun _ => 0) e

/-- A statement without its lines. -/
def Stmt.bare (s : Stmt) : Stmt := s.mapLines fun _ => 0

/-- Statements without their lines. -/
def Stmt.bareAll (ss : List Stmt) : List Stmt := Stmt.mapLinesAll (fun _ => 0) ss

theorem Expr.bareAll_eq_map (es : List Expr) : Expr.bareAll es = es.map Expr.bare :=
  Expr.mapLinesAll_eq_map (fun _ => 0) es

theorem Expr.bareAll_map {ι : Type} (f : ι → Expr) (is : List ι) :
    Expr.bareAll (is.map f) = is.map fun i => (f i).bare := by
  rw [bareAll_eq_map, List.map_map]
  rfl

theorem Expr.isEmpty_of_bareAll {es es' : List Expr} (h : Expr.bareAll es = Expr.bareAll es') :
    es.isEmpty = es'.isEmpty := by
  rw [bareAll_eq_map, bareAll_eq_map] at h
  rw [← List.isEmpty_map (f := Expr.bare), h, List.isEmpty_map]

theorem Expr.bareAll_append (es ds : List Expr) :
    Expr.bareAll (es ++ ds) = Expr.bareAll es ++ Expr.bareAll ds :=
  Expr.mapLinesAll_append (fun _ => 0) es ds

theorem Expr.bareAll_flatten (ess : List (List Expr)) :
    Expr.bareAll ess.flatten = (ess.map Expr.bareAll).flatten := by
  induction ess with
  | nil => rfl
  | cons es ess ih => rw [List.flatten_cons, bareAll_append, ih, List.map_cons, List.flatten_cons]

theorem Expr.bareAll_cons (e : Expr) (es : List Expr) :
    Expr.bareAll (e :: es) = e.bare :: Expr.bareAll es := rfl

/-- What is one expression without lines is one with them. -/
theorem Expr.single_of_bareAll {es : List Expr} {e : Expr} (h : Expr.bareAll es = [e]) :
    ∃ d, es = [d] ∧ d.bare = e :=
  List.map_eq_singleton_iff.mp ((Expr.bareAll_eq_map es).symm.trans h)

/-- What is one constant without lines is one with them. -/
theorem Expr.single_constant_of_bareAll {es : List Expr} {line : Nat} {value : Constant}
    (h : Expr.bareAll es = [.constant line value]) : ∃ line', es = [.constant line' value] := by
  obtain ⟨e, rfl, he⟩ := Expr.single_of_bareAll h
  cases e with
  | constant line' value' =>
    obtain ⟨-, rfl⟩ := Expr.constant.inj he
    exact ⟨line', rfl⟩
  | _ => exact nomatch he

theorem Expr.bare_mapLines (f : Nat → Nat) (e : Expr) : (e.mapLines f).bare = e.bare :=
  Expr.mapLines_mapLines (fun _ => 0) f e

/-- Something with an expression, without the lines of the expression. -/
def bareSnd {ι : Type} (x : ι × Expr) : ι × Expr := (x.1, x.2.bare)

/-- The two halves of a list of things with expressions. -/
theorem halves_of_map_bareSnd {ι : Type} {xs ys : List (ι × Expr)}
    (h : xs.map bareSnd = ys.map bareSnd) :
    xs.map Prod.fst = ys.map Prod.fst ∧
      Expr.bareAll (xs.map Prod.snd) = Expr.bareAll (ys.map Prod.snd) := by
  have hfst := congrArg (List.map Prod.fst) h
  have hsnd := congrArg (List.map Prod.snd) h
  rw [List.map_map, List.map_map] at hfst hsnd
  rw [Expr.bareAll_map, Expr.bareAll_map]
  exact ⟨hfst, hsnd⟩

theorem Stmt.bareAll_append (ss ts : List Stmt) :
    Stmt.bareAll (ss ++ ts) = Stmt.bareAll ss ++ Stmt.bareAll ts :=
  Stmt.mapLinesAll_append (fun _ => 0) ss ts

/-- A token without its lines. -/
def Token.bare (t : Token) : TokenKind × Nat := (t.kind, t.depth)

/-- What is ahead of a cursor, without lines. -/
def Cursor.bare (c : Cursor) : List (TokenKind × Nat) := c.ahead.tokens.map Token.bare

namespace Parser

/-- Pairs of tokens ahead that can be read in step, up to a mark that is not taken. -/
structure Stepwise (ρ : List (TokenKind × Nat) → List (TokenKind × Nat) → Prop) : Prop where
  head?_eq : ∀ {ts us}, ρ ts us → ts.head? = us.head?
  tail : ∀ {t ts us}, ρ (t :: ts) (t :: us) → t.1.isMark = false → ρ ts us

/-- Tokens can be read in step with themselves. -/
theorem stepwise_eq : Stepwise Eq where
  head?_eq h := congrArg List.head? h
  tail h _ := (List.cons.inj h).2

theorem Stepwise.flip {ρ : List (TokenKind × Nat) → List (TokenKind × Nat) → Prop}
    (h : Stepwise ρ) : Stepwise fun ts us => ρ us ts where
  head?_eq hts := (h.head?_eq hts).symm
  tail := h.tail

/-- The same was read but for what `r` leaves out, with tokens in step behind it; or both were
refused, for a fault of the tokens or not. -/
inductive Agree {α β : Type} (ρ : List (TokenKind × Nat) → List (TokenKind × Nat) → Prop)
    (r : α → β) : Except Refusal (α × Cursor) → Except Refusal (α × Cursor) → Prop where
  | read {a b : α} {c d : Cursor} (h : r a = r b) (hbare : ρ c.bare d.bare) :
      Agree ρ r (.ok (a, c)) (.ok (b, d))
  | refused {e e' : Refusal} (h : e.lexical = e'.lexical) : Agree ρ r (.error e) (.error e')

variable {α β γ δ : Type}

/-- From tokens that can be read in step, both parsers do the same. -/
def Alike (r : α → β) (p q : Parser α) : Prop :=
  ∀ ⦃ρ⦄, Stepwise ρ → ∀ ⦃c d : Cursor⦄, ρ c.bare d.bare → Agree ρ r (p c) (q d)

/-! ## One after the other -/

theorem bind_apply (p : Parser α) (k : α → Parser β) (c : Cursor) :
    (p >>= k) c = match p c with
      | .ok (a, c') => k a c'
      | .error refusal => .error refusal := by
  show Except.bind (p c) (fun (a, c') => k a c') = _
  cases p c <;> rfl

theorem Alike.pure {r : α → β} {a b : α} (h : r a = r b) : Alike r (pure a) (pure b) :=
  fun _ _ _ _ hbare => .read h hbare

theorem alike_pure (a : α) : Alike id (Pure.pure a) (Pure.pure a) := .pure rfl

/-- **One parser after another.** -/
theorem Alike.bind {r : α → β} {s : γ → δ} {p q : Parser α} {k l : α → Parser γ} (h : Alike r p q)
    (hk : ∀ a b, r a = r b → Alike s (k a) (l b)) : Alike s (p >>= k) (q >>= l) := by
  intro ρ hρ c d hbare
  have hagree := h hρ hbare
  rw [bind_apply, bind_apply]
  generalize p c = o, q d = o' at hagree
  cases hagree with
  | read hr hbare => exact hk _ _ hr hρ hbare
  | refused hlexical => exact .refused hlexical

/-- One parser after another that reads nothing with lines. -/
theorem Alike.andThen {s : γ → δ} {p q : Parser α} {k l : α → Parser γ} (h : Alike id p q)
    (hk : ∀ a, Alike s (k a) (l a)) : Alike s (p >>= k) (q >>= l) :=
  h.bind fun a b hab => by
    obtain rfl : a = b := hab
    exact hk a

theorem Alike.symm {r : α → β} {p q : Parser α} (h : Alike r p q) : Alike r q p := by
  intro ρ hρ c d hbare
  have hagree := h hρ.flip hbare
  generalize p d = o, q c = o' at hagree
  cases hagree with
  | read hr hbare => exact .read hr.symm hbare
  | refused hlexical => exact .refused hlexical.symm

theorem Alike.trans {r : α → β} {p q t : Parser α} (h : Alike r p q) (h' : Alike r q t) :
    Alike r p t := by
  intro ρ hρ c d hbare
  have hagree := h hρ hbare
  have hagree' := h' stepwise_eq (rfl : d.bare = d.bare)
  generalize p c = o, q d = o', t d = o'' at hagree hagree'
  cases hagree with
  | read hr hbare =>
    cases hagree' with
    | read hr' hbare' => exact .read (hr.trans hr') (hbare' ▸ hbare)
  | refused hlexical =>
    cases hagree' with
    | refused hlexical' => exact .refused (hlexical.trans hlexical')

theorem Alike.ite {r : α → β} {b : Prop} {_ : Decidable b} {p q p' q' : Parser α} (h : Alike r p q)
    (h' : Alike r p' q') : Alike r (if b then p else p') (if b then q else q') := by
  split
  · exact h
  · exact h'

/-- Several parsers in a row. -/
theorem alike_mapM {ι : Type} {r : ι → δ} {s : α → β} {f g : ι → Parser α}
    (h : ∀ i j, r i = r j → Alike s (f i) (g j)) {is js : List ι} (his : is.map r = js.map r) :
    Alike (List.map s) (is.mapM f) (js.mapM g) := by
  induction is generalizing js with
  | nil =>
    obtain rfl := List.map_eq_nil_iff.mp his.symm
    exact .pure rfl
  | cons i is ih =>
    obtain ⟨j, js, rfl, hj, hjs⟩ := List.map_eq_cons_iff.mp his.symm
    rw [List.mapM_cons, List.mapM_cons]
    refine (h i j hj.symm).bind fun a b hab => (ih hjs.symm).bind fun as bs has => .pure ?_
    rw [List.map_cons, List.map_cons, hab, has]

theorem alike_forM {ι : Type} {r : ι → δ} {f g : ι → Parser PUnit}
    (h : ∀ i j, r i = r j → Alike id (f i) (g j)) {is js : List ι} (his : is.map r = js.map r) :
    Alike id (is.forM f) (js.forM g) := by
  induction is generalizing js with
  | nil =>
    obtain rfl := List.map_eq_nil_iff.mp his.symm
    exact alike_pure _
  | cons i is ih =>
    obtain ⟨j, js, rfl, hj, hjs⟩ := List.map_eq_cons_iff.mp his.symm
    exact (h i j hj.symm).andThen fun _ => ih hjs.symm

/-! ## Refusals -/

/-- Both parsers refuse whatever is ahead, and a fault of the tokens is the reason for both or for
none. -/
def Refuse (p q : Parser α) : Prop :=
  ∀ ⦃ρ⦄, Stepwise ρ → ∀ ⦃c d : Cursor⦄, ρ c.bare d.bare →
    ∃ e e', p c = .error e ∧ q d = .error e' ∧ e.lexical = e'.lexical

theorem Refuse.alike {r : α → β} {p q : Parser α} (h : Refuse p q) : Alike r p q := by
  intro ρ hρ c d hbare
  obtain ⟨e, e', hp, hq, hlexical⟩ := h hρ hbare
  rw [hp, hq]
  exact .refused hlexical

/-- Nothing comes after a refusal. -/
theorem Refuse.bind {p q : Parser α} (h : Refuse p q) (k l : α → Parser β) :
    Refuse (p >>= k) (q >>= l) := by
  intro ρ hρ c d hbare
  obtain ⟨e, e', hp, hq, hlexical⟩ := h hρ hbare
  exact ⟨e, e', by rw [bind_apply, hp], by rw [bind_apply, hq], hlexical⟩

/-- What is refused after something was read is refused. -/
theorem Refuse.after {r : α → β} {p q : Parser α} {k l : α → Parser γ} (h : Alike r p q)
    (hk : ∀ a b, r a = r b → Refuse (k a) (l b)) : Refuse (p >>= k) (q >>= l) := by
  intro ρ hρ c d hbare
  have hagree := h hρ hbare
  rw [bind_apply, bind_apply]
  generalize p c = o, q d = o' at hagree
  cases hagree with
  | read hr hbare => exact hk _ _ hr hρ hbare
  | refused hlexical => exact ⟨_, _, rfl, rfl, hlexical⟩

theorem refuse_throw (message message' : Text) (line line' : Nat) :
    Refuse (throw ⟨message, line, false⟩ : Parser α) (throw ⟨message', line', false⟩) :=
  fun _ _ _ _ _ => ⟨_, _, rfl, rfl, rfl⟩

/-- Messages and their lines make no difference. -/
theorem refuse_report (line line' : Nat) (message message' : Text) :
    Refuse (report (α := α) line message) (report line' message') := by
  have hreport (line : Nat) (message : Text) (c : Cursor) :
      ∃ e, report (α := α) line message c = .error e ∧ e.lexical = false := by
    unfold report
    rw [bind_apply]
    dsimp only [get, getThe, MonadStateOf.get, StateT.get, pure, Except.pure]
    cases c.ahead.fault with
    | none => exact ⟨_, rfl, rfl⟩
    | some fault =>
      dsimp only
      split
      · exact ⟨_, rfl, rfl⟩
      · cases fault.bracket with
        | none => exact ⟨_, rfl, rfl⟩
        | some opened =>
          dsimp only
          split <;> exact ⟨_, rfl, rfl⟩
  intro ρ _ c d _
  obtain ⟨e, hp, hfirst⟩ := hreport line message c
  obtain ⟨e', hq, hsecond⟩ := hreport line' message' d
  exact ⟨e, e', hp, hq, hfirst.trans hsecond.symm⟩

/-! ## Tokens -/

/-- Cursors with the same first token, but for its lines, or with none. -/
inductive Ahead : Cursor → Cursor → Prop where
  | nothing (fault fault' : Option LexFault) (last last' : Nat) :
      Ahead ⟨⟨[], fault⟩, last⟩ ⟨⟨[], fault'⟩, last'⟩
  | token (fault fault' : Option LexFault) (last last' : Nat) (kind : TokenKind)
      (line line' lastLine lastLine' depth : Nat) (more more' : List Token) :
      Ahead ⟨⟨⟨kind, line, lastLine, depth⟩ :: more, fault⟩, last⟩
        ⟨⟨⟨kind, line', lastLine', depth⟩ :: more', fault'⟩, last'⟩

theorem Stepwise.ahead {ρ : List (TokenKind × Nat) → List (TokenKind × Nat) → Prop}
    (hρ : Stepwise ρ) {c d : Cursor} (h : ρ c.bare d.bare) : Ahead c d := by
  have hhead := hρ.head?_eq h
  obtain ⟨⟨tokens, fault⟩, last⟩ := c
  obtain ⟨⟨tokens', fault'⟩, last'⟩ := d
  cases tokens with
  | nil =>
    cases tokens' with
    | nil => exact .nothing ..
    | cons => cases hhead
  | cons t more =>
    cases tokens' with
    | nil => cases hhead
    | cons t' more' =>
      obtain ⟨kind, line, lastLine, depth⟩ := t
      obtain ⟨kind', line', lastLine', depth'⟩ := t'
      obtain ⟨rfl, rfl⟩ := Prod.mk.inj (Option.some.inj hhead)
      exact .token ..

theorem alike_peek : Alike Token.bare peek peek := by
  intro ρ hρ c d hbare
  cases hρ.ahead hbare with
  | nothing fault fault' => cases fault <;> cases fault' <;> exact .refused rfl
  | token => exact .read rfl hbare

/-- **The next token**, whatever line it stands on. -/
theorem alike_peek_bind {r : α → β} {k l : Token → Parser α}
    (h : ∀ kind depth line line' last last',
      Alike r (k ⟨kind, line, last, depth⟩) (l ⟨kind, line', last', depth⟩)) :
    Alike r (peek >>= k) (peek >>= l) :=
  alike_peek.bind fun t t' ht => by
    obtain ⟨kind, line, last, depth⟩ := t
    obtain ⟨kind', line', last', depth'⟩ := t'
    obtain ⟨rfl, rfl⟩ := Prod.mk.inj ht
    exact h kind depth line line' last last'

theorem alike_advance : Alike id advance advance := by
  intro ρ hρ c d hbare
  cases hρ.ahead hbare with
  | nothing fault fault' => cases fault <;> cases fault' <;> exact .refused rfl
  | token fault fault' last last' kind =>
    show Agree ρ id ((if ! kind.isMark then take else pure ()) _)
      ((if ! kind.isMark then take else pure ()) _)
    cases hkind : kind.isMark with
    | true => exact .read rfl hbare
    | false => exact .read rfl (hρ.tail hbare hkind)

theorem refuse_refuse : Refuse (refuse (α := α)) refuse := by
  unfold refuse
  refine .after alike_peek fun t t' ht => ?_
  obtain ⟨kind, line, last, depth⟩ := t
  obtain ⟨kind', line', last', depth'⟩ := t'
  obtain ⟨rfl, rfl⟩ := Prod.mk.inj ht
  cases kind with
  | «indent» => exact refuse_throw _ _ line line'
  | «dedent» => exact refuse_throw _ _ line line'
  | _ => exact refuse_report line line' _ _

theorem alike_refuse {r : α → β} : Alike r refuse refuse := refuse_refuse.alike

theorem alike_report {r : α → β} {line line' : Nat} {message message' : Text} :
    Alike r (report line message) (report line' message') :=
  (refuse_report line line' message message').alike

/-- A message about the next token. -/
theorem refuse_next {message message' : Token → Text} :
    Refuse (peek >>= fun t => report (α := α) t.line (message t))
      (peek >>= fun t => report t.line (message' t)) :=
  .after alike_peek fun _ _ _ => refuse_report ..

theorem refuse_next_bind {message message' : Token → Text} {k l : Token → α → Parser β} :
    Refuse (peek >>= fun t => report t.line (message t) >>= k t)
      (peek >>= fun t => report t.line (message' t) >>= l t) :=
  .after alike_peek fun _ _ _ => (refuse_report ..).bind _ _

theorem alike_sees (kind : TokenKind) : Alike id (sees kind) (sees kind) :=
  alike_peek_bind fun _ _ _ _ _ _ => alike_pure _

theorem alike_accept (kind : TokenKind) (hkind : kind.isMark = false) :
    Alike id (accept kind) (accept kind) := by
  intro ρ hρ c d hbare
  cases hρ.ahead hbare with
  | nothing fault fault' => cases fault <;> cases fault' <;> exact .refused rfl
  | token fault fault' last last' kind' =>
    show Agree ρ id ((if kind' == kind then take >>= fun _ => pure true else pure false) _)
      ((if kind' == kind then take >>= fun _ => pure true else pure false) _)
    by_cases hsees : kind' = kind
    · rw [if_pos (beq_iff_eq.mpr hsees)]
      exact .read rfl (hρ.tail hbare (hsees ▸ hkind))
    · rw [if_neg (by simpa using hsees)]
      exact .read rfl hbare

/-- A choice on whether a token can be taken. -/
theorem alike_accept_bind (kind : TokenKind) (hkind : kind.isMark = false) {r : α → β}
    {p q p' q' : Parser α} (h : Alike r p q) (h' : Alike r p' q') :
    Alike r (accept kind >>= fun b => if b = true then p else p')
      (accept kind >>= fun b => if b = true then q else q') :=
  (alike_accept kind hkind).andThen fun _ => h.ite h'

theorem alike_expect (kind : TokenKind) (hkind : kind.isMark = false) :
    Alike id (expect kind) (expect kind) :=
  (alike_accept kind hkind).andThen fun _ => alike_refuse.ite (alike_pure ())

theorem alike_equalsFollows : Alike id equalsFollows equalsFollows := by
  intro ρ hρ c d hbare
  cases hρ.ahead hbare with
  | nothing => exact .read rfl hbare
  | token fault fault' last last' kind line line' lastLine lastLine' depth more more' =>
    cases hkind : kind.isMark with
    | true =>
      cases more <;> cases more' <;> exact .read (by simp [hkind]) hbare
    | false =>
      have hhead := hρ.head?_eq (hρ.tail hbare hkind)
      cases more with
      | nil =>
        cases more' with
        | nil => exact .read rfl hbare
        | cons => cases hhead
      | cons u more =>
        cases more' with
        | nil => cases hhead
        | cons u' more' =>
          have hsecond : u.kind = u'.kind := congrArg Prod.fst (Option.some.inj hhead)
          exact .read (congrArg (fun k => ! kind.isMark && k == symbol "=") hsecond) hbare

/-- Whether a parser would succeed. -/
theorem alike_follows {r : α → β} {p q : Parser α} (h : Alike r p q) :
    Alike id (follows p) (follows q) := by
  intro ρ hρ c d hbare
  have hagree := h hρ hbare
  unfold follows
  generalize p c = o, q d = o' at hagree
  cases hagree with
  | read hr _ => exact .read rfl hbare
  | refused hlexical =>
    dsimp only
    rw [hlexical]
    split
    · exact .refused hlexical
    · exact .read rfl hbare

end Parser

end Stencil.Code
