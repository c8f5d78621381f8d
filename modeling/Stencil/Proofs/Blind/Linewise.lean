import Stencil.Proofs.Blind.Parser

/-!
# Reading line by line

A statement takes the mark that ends its last line, and behind that mark two texts need not be the
same any more: one is at its end, the other goes on. The reading of statements is followed from the
text that ends to the one that goes on: a parser `Leads` to another if the second succeeds where the
first does, reads the same, and leaves tokens that belong together as well.

Between statements the tokens are related by `σ`, within a line by `ρ` (`Linewise`). At the end of the
first text the second must not go on with `else` or `elif`, which continue a statement.

* `Leads.bind`, `Alike.leads`: one parser after another.
* `leads_accept_bind`, `leads_expect`: marks that are taken.
* `leads_choice_bind`: what continues a statement.
* `FailsOnNothing`: parsers that take nothing at the end of a text.
-/

namespace Stencil.Code.Parser

variable {α β γ δ : Type}

/-! ## Tokens that begin nothing -/

/-- Does the token stand in front of no statement: is it the end of the text, or does it continue
one? -/
def beginsNothing : TokenKind → Bool
  | .finish => true
  | .keyword w => w == "else".toList || w == "elif".toList
  | _ => false

/-- The parser fails where the next token begins nothing. -/
def FailsOnNothing (p : Parser α) : Prop :=
  ∀ ⦃c : Cursor⦄ ⦃t : Token⦄ ⦃ts : List Token⦄, c.ahead.tokens = t :: ts →
    beginsNothing t.kind = true → ∃ e, p c = .error e

/-- What is asked for is not the next token, where that begins nothing. -/
theorem ne_of_beginsNothing {kind kind' : TokenKind} (h : beginsNothing kind = true)
    (h' : beginsNothing kind' = false) : (kind == kind') = false := by
  rw [beq_eq_false_iff_ne]
  rintro rfl
  rw [h] at h'
  cases h'

theorem peek_of_cons {c : Cursor} {t : Token} {ts : List Token} (h : c.ahead.tokens = t :: ts) :
    peek c = .ok (t, c) := by
  obtain ⟨⟨tokens, fault⟩, last⟩ := c
  obtain rfl : tokens = t :: ts := h
  rfl

theorem accept_of_cons {c : Cursor} {t : Token} {ts : List Token} (h : c.ahead.tokens = t :: ts)
    (kind : TokenKind) :
    accept kind c =
      if t.kind == kind then .ok (true, ⟨⟨ts, c.ahead.fault⟩, t.lastLine⟩) else .ok (false, c) := by
  obtain ⟨⟨tokens, fault⟩, last⟩ := c
  obtain rfl : tokens = t :: ts := h
  show (if t.kind == kind then take >>= fun _ => pure true else pure false) _ = _
  split <;> rfl

theorem Refuse.failsOnNothing {p : Parser α} (h : Refuse p p) : FailsOnNothing p := by
  intro c t ts _ _
  obtain ⟨e, -, he, -⟩ := h stepwise_eq (rfl : c.bare = c.bare)
  exact ⟨e, he⟩

theorem failsOnNothing_refuse : FailsOnNothing (refuse (α := α)) := refuse_refuse.failsOnNothing

theorem FailsOnNothing.bind {p : Parser α} (h : FailsOnNothing p) (k : α → Parser β) :
    FailsOnNothing (p >>= k) := by
  intro c t ts htokens hkind
  obtain ⟨e, he⟩ := h htokens hkind
  exact ⟨e, by rw [bind_apply, he]⟩

theorem failsOnNothing_peek_bind {k : Token → Parser α}
    (h : ∀ t, beginsNothing t.kind = true → FailsOnNothing (k t)) :
    FailsOnNothing (peek >>= k) := by
  intro c t ts htokens hkind
  rw [bind_apply, peek_of_cons htokens]
  exact h t hkind htokens hkind

/-- What is not there is not taken. -/
theorem failsOnNothing_accept_bind {kind : TokenKind} (hkind : beginsNothing kind = false)
    {p p' : Parser α} (h : FailsOnNothing p') :
    FailsOnNothing (accept kind >>= fun b => if b = true then p else p') := by
  intro c t ts htokens hnothing
  have hne := ne_of_beginsNothing hnothing hkind
  rw [bind_apply, accept_of_cons htokens, hne]
  exact h htokens hnothing

/-! ## Lines -/

/-- The first text is at its end, and the second goes on with what continues no statement. -/
def Ended (ts us : List (TokenKind × Nat)) : Prop :=
  (∃ t ts', ts = t :: ts' ∧ t.1 = .finish) ∧
    ∃ u us', us = u :: us' ∧ u.1 ≠ word "else" ∧ u.1 ≠ word "elif"

/-- Tokens ahead that can be read in step within a line, by `ρ`, and between lines, by `σ`. -/
structure Linewise (ρ σ : List (TokenKind × Nat) → List (TokenKind × Nat) → Prop) : Prop
    extends Stepwise ρ where
  behind : ∀ {t ts us}, ρ (t :: ts) (t :: us) → σ ts us
  within_or_ended : ∀ {ts us}, σ ts us → ρ ts us ∨ Ended ts us

/-- Where the first parser succeeds from tokens in `π`, so does the second; both read the same and
leave tokens in `τ`. -/
def Leads (π τ : List (TokenKind × Nat) → List (TokenKind × Nat) → Prop) (r : α → β)
    (p q : Parser α) : Prop :=
  ∀ ⦃c d : Cursor⦄, π c.bare d.bare → ∀ ⦃a c'⦄, p c = .ok (a, c') →
    ∃ b d', q d = .ok (b, d') ∧ r a = r b ∧ τ c'.bare d'.bare

variable {ρ σ π τ υ : List (TokenKind × Nat) → List (TokenKind × Nat) → Prop} {r : α → β}
  {s : γ → δ} {p q p' q' : Parser α}

theorem Leads.pure {a b : α} (h : r a = r b) : Leads π π r (pure a) (pure b) := by
  intro c d hbare x c' hx
  obtain ⟨rfl, rfl⟩ := Prod.mk.inj (Except.ok.inj hx)
  exact ⟨b, d, rfl, h, hbare⟩

theorem Leads.bind {k l : α → Parser γ} (h : Leads π τ r p q)
    (hk : ∀ a b, r a = r b → Leads τ υ s (k a) (l b)) : Leads π υ s (p >>= k) (q >>= l) := by
  intro c d hbare x c' hx
  rw [bind_apply] at hx ⊢
  cases hp : p c with
  | error e =>
    rw [hp] at hx
    cases hx
  | ok read =>
    rw [hp] at hx
    obtain ⟨b, d', hq, hr, hτ⟩ := h hbare hp
    rw [hq]
    exact hk _ _ hr hτ hx

/-- Parsers that do the same within a line. -/
theorem Alike.leads (h : Alike r p q) (hρ : Stepwise ρ) : Leads ρ ρ r p q := by
  intro c d hbare a c' ha
  have hagree := h hρ hbare
  rw [ha] at hagree
  generalize q d = o at hagree
  cases hagree with
  | read hr hbare => exact ⟨_, _, rfl, hr, hbare⟩

/-- A parser that does the same within a line, and another after it. -/
theorem Alike.leads_bind {k l : α → Parser γ} (h : Alike r p q) (hρ : Stepwise ρ)
    (hk : ∀ a b, r a = r b → Leads ρ τ s (k a) (l b)) : Leads ρ τ s (p >>= k) (q >>= l) :=
  (h.leads hρ).bind hk

/-- A parser that reads nothing with lines, and another after it. -/
theorem Alike.leads_andThen {k l : α → Parser γ} (h : Alike id p q) (hρ : Stepwise ρ)
    (hk : ∀ a, Leads ρ τ s (k a) (l a)) : Leads ρ τ s (p >>= k) (q >>= l) :=
  h.leads_bind hρ fun a b hab => by
    obtain rfl : a = b := hab
    exact hk a

theorem Leads.ite {b : Prop} {_ : Decidable b} (h : Leads π τ r p q) (h' : Leads π τ r p' q') :
    Leads π τ r (if b then p else p') (if b then q else q') := by
  split
  · exact h
  · exact h'

/-- Nothing follows from what is refused. -/
theorem Refuse.leads (h : Refuse p p) : Leads π τ r p q := by
  intro c d _ a c' ha
  obtain ⟨e, -, he, -⟩ := h stepwise_eq (rfl : c.bare = c.bare)
  rw [he] at ha
  cases ha

/-- Nothing follows at the end of the first text if the parser fails there. -/
theorem FailsOnNothing.leads (h : FailsOnNothing p) : Leads Ended τ r p q := by
  rintro c d ⟨⟨t, ts, hbare, hfinish⟩, -⟩ a c' ha
  obtain ⟨token, tokens, htokens, htoken, -⟩ := List.map_eq_cons_iff.mp hbare
  have hkind : token.kind = .finish := (congrArg Prod.fst htoken).trans hfinish
  obtain ⟨e, he⟩ := h htokens (by rw [hkind]; rfl)
  rw [he] at ha
  cases ha

section

variable (hl : Linewise ρ σ)

include hl

/-- Between lines, the first text is within a line or at its end. -/
theorem Linewise.leads (h : Leads ρ τ r p q) (h' : Leads Ended τ r p q) : Leads σ τ r p q := by
  intro c d hbare a c' ha
  obtain hbare | hbare := hl.within_or_ended hbare
  · exact h hbare ha
  · exact h' hbare ha

/-- A choice on whether a token can be taken, which may be a mark. -/
theorem leads_accept_bind (kind : TokenKind) (h : Leads σ τ r p q) (h' : Leads ρ τ r p' q') :
    Leads ρ τ r (accept kind >>= fun b => if b = true then p else p')
      (accept kind >>= fun b => if b = true then q else q') := by
  intro c d hbare a c' ha
  rw [bind_apply] at ha ⊢
  cases hl.ahead hbare with
  | nothing fault => cases fault <;> cases ha
  | token fault fault' last last' kind' line line' lastLine lastLine' depth more more' =>
    rw [accept_of_cons rfl] at ha ⊢
    by_cases hsees : (kind' == kind) = true
    · rw [if_pos hsees] at ha ⊢
      refine h ?_ ha
      exact hl.behind (t := (kind', depth)) hbare
    · rw [if_neg hsees] at ha ⊢
      exact h' hbare ha

/-- A token is taken, which may be a mark. -/
theorem leads_expect (kind : TokenKind) : Leads ρ σ id (expect kind) (expect kind) := by
  intro c d hbare a c' ha
  unfold expect at ha ⊢
  rw [bind_apply] at ha ⊢
  cases hl.ahead hbare with
  | nothing fault => cases fault <;> cases ha
  | token fault fault' last last' kind' line line' lastLine lastLine' depth more more' =>
    rw [accept_of_cons rfl] at ha ⊢
    by_cases hsees : (kind' == kind) = true
    · rw [if_pos hsees] at ha ⊢
      obtain ⟨rfl, rfl⟩ := Prod.mk.inj (Except.ok.inj ha)
      exact ⟨_, _, rfl, rfl, hl.behind hbare⟩
    · rw [if_neg hsees] at ha ⊢
      exact refuse_refuse.leads hbare ha

/-- Between lines, the next token may be asked for if nothing depends on it. -/
theorem leads_peek_bind {k l : Token → Parser α} (h : ∀ t t', Leads σ τ r (k t) (l t')) :
    Leads σ τ r (peek >>= k) (peek >>= l) := by
  intro c d hbare a c' ha
  have hfirst : ∃ u us, d.ahead.tokens = u :: us := by
    obtain hwithin | ⟨-, u, us, hd, -⟩ := hl.within_or_ended hbare
    · cases hl.ahead hwithin with
      | nothing fault => cases fault <;> cases ha
      | token => exact ⟨_, _, rfl⟩
    · obtain ⟨u, us, hd, -, -⟩ := List.map_eq_cons_iff.mp hd
      exact ⟨u, us, hd⟩
  obtain ⟨u, us, hd⟩ := hfirst
  rw [bind_apply, peek_of_cons hd]
  rw [bind_apply] at ha
  obtain ⟨⟨_ | ⟨t, ts⟩, fault⟩, last⟩ := c
  · cases fault <;> cases ha
  · exact h t u hbare ha

/-- **A statement goes on between lines** with `else` or `elif`, or it does not. -/
theorem leads_choice_bind {kind : TokenKind} (hkind : kind = word "else" ∨ kind = word "elif")
    (h : Leads ρ τ r p q) (h' : Leads σ τ r p' q') :
    Leads σ τ r (accept kind >>= fun b => if b = true then p else p')
      (accept kind >>= fun b => if b = true then q else q') := by
  have hmark : kind.isMark = false := by obtain rfl | rfl := hkind <;> rfl
  intro c d hbare a c' ha
  rw [bind_apply] at ha ⊢
  obtain hwithin | ⟨⟨t, ts, hc, hfinish⟩, u, us, hd, helse, helif⟩ := hl.within_or_ended hbare
  · cases hl.ahead hwithin with
    | nothing fault => cases fault <;> cases ha
    | token fault fault' last last' kind' line line' lastLine lastLine' depth more more' =>
      rw [accept_of_cons rfl] at ha ⊢
      by_cases hsees : kind' = kind
      · rw [if_pos (beq_iff_eq.mpr hsees)] at ha ⊢
        refine h ?_ ha
        exact hl.tail (t := (kind', depth)) hwithin (hsees ▸ hmark)
      · rw [if_neg (by simpa using hsees)] at ha ⊢
        exact h' hbare ha
  · obtain ⟨t, ts, htokens, rfl, -⟩ := List.map_eq_cons_iff.mp hc
    obtain ⟨u, us, htokens', rfl, -⟩ := List.map_eq_cons_iff.mp hd
    have hct : ¬ (t.kind == kind) = true := by
      rw [beq_iff_eq]
      rintro rfl
      have hend : t.kind = .finish := hfinish
      rw [hend] at hmark
      cases hmark
    have hdu : ¬ (u.kind == kind) = true := by
      rw [beq_iff_eq]
      rintro rfl
      obtain h | h := hkind
      · exact helse h
      · exact helif h
    rw [accept_of_cons htokens, if_neg hct] at ha
    rw [accept_of_cons htokens', if_neg hdu]
    exact h' hbare ha

end

end Stencil.Code.Parser
