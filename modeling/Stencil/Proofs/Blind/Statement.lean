import Stencil.Code.Parse
import Stencil.Proofs.Blind.Expression
import Stencil.Proofs.Blind.Linewise

/-!
# Reading statements in step

Statements are read from tokens whatever lines these stand on, and whatever stands behind the
statement, one lemma for each parser. Up to the end of a line both texts are read alike; what takes
marks is followed from the text that ends to the one that goes on.

* `alike_simpleStatement`: statements that hold no others.
* `failsOnNothing_statement`: where no statement begins.
* `leads_statement`: all statements.
-/

namespace Stencil.Code

namespace Parser

theorem alike_value (n : Nat) : Alike Expr.bare (value n) (value n) := alike_expression n _

theorem alike_operand (n : Nat) : Alike Expr.bare (operand n) (operand n) :=
  alike_arithmetic (alike_value n) n

theorem alike_values (n : Nat) : Alike Expr.bare (values n) (values n) :=
  alike_peek_bind fun _ _ _ _ _ _ => (alike_tupleOr (alike_value n) n).bind fun _ _ h =>
    .pure (bare_ofItems _ _ h)

/-- The lines of a span are left out. -/
theorem alike_spanFrom_bind {α β : Type} {r : α → β} {k l : Span → Parser α} (line line' : Nat)
    (h : ∀ span span', Alike r (k span) (l span')) :
    Alike r (spanFrom line >>= k) (spanFrom line' >>= l) :=
  Alike.bind (r := fun _ => ()) (fun _ _ _ _ hbare => .read rfl hbare) fun a b _ => h a b

/-! ## Targets -/

mutual

theorem badTarget?_mapLines (f : Nat → Nat) :
    (e : Expr) → badTarget? (e.mapLines f) = (badTarget? e).map (Expr.mapLines f)
  | .tuple _ items | .list _ items => badTargetIn?_mapLinesAll f items
  | .name .. | .attribute .. | .subscript .. => rfl
  | .constant .. | .joined .. | .field .. | .dict .. | .slice .. | .call .. | .unary ..
  | .binary .. | .boolean .. | .compare .. | .conditional .. | .yield .. => rfl

theorem badTargetIn?_mapLinesAll (f : Nat → Nat) :
    (es : List Expr) →
      badTargetIn? (Expr.mapLinesAll f es) = (badTargetIn? es).map (Expr.mapLines f)
  | [] => rfl
  | e :: es => by
    rw [Expr.mapLinesAll, badTargetIn?, badTargetIn?, badTarget?_mapLines f e,
      badTargetIn?_mapLinesAll f es, Option.map_or]

end

theorem isSome_badTarget?_of_bare {e e' : Expr} (h : e.bare = e'.bare) :
    (badTarget? e).isSome = (badTarget? e').isSome := by
  have hbare := congrArg (fun e => (badTarget? e).isSome) h
  simpa only [Expr.bare, badTarget?_mapLines, Option.isSome_map] using hbare

theorem isYield_of_bare {e e' : Expr} (h : e.bare = e'.bare) : e.isYield = e'.isYield := by
  have hbare (e : Expr) : e.bare.isYield = e.isYield := by cases e <;> rfl
  rw [← hbare, h, hbare]

theorem isSingleTarget_of_bare {e e' : Expr} (h : e.bare = e'.bare) :
    isSingleTarget e = isSingleTarget e' := by
  have hbare (e : Expr) : isSingleTarget e.bare = isSingleTarget e := by cases e <;> rfl
  rw [← hbare, h, hbare]

theorem alike_checkTarget (verb : String) (line line' : Nat) {e e' : Expr} (h : e.bare = e'.bare) :
    Alike id (checkTarget verb line e) (checkTarget verb line' e') := by
  have hbad (line : Nat) (e : Expr) : checkTarget verb line e = pure () ∧ badTarget? e = none ∨
      ∃ message, checkTarget verb line e = report line message ∧ (badTarget? e).isSome = true := by
    unfold checkTarget
    cases badTarget? e with
    | none => exact .inl ⟨rfl, rfl⟩
    | some d => cases d <;> exact .inr ⟨_, rfl, rfl⟩
  have hsome := isSome_badTarget?_of_bare h
  obtain ⟨he, hnone⟩ | ⟨message, he, hbad₁⟩ := hbad line e
  · obtain ⟨he', -⟩ | ⟨message', he', hbad₂⟩ := hbad line' e'
    · rw [he, he']
      exact alike_pure ()
    · rw [hnone, hbad₂] at hsome
      cases hsome
  · obtain ⟨he', hnone⟩ | ⟨message', he', hbad₂⟩ := hbad line' e'
    · rw [hnone, hbad₁] at hsome
      cases hsome
    · rw [he, he']
      exact alike_report

/-! ## Simple statements -/

theorem alike_assigned (n : Nat) : Alike Expr.bare (assigned n) (assigned n) := by
  unfold assigned
  refine alike_peek_bind fun kind depth line line' last last' => ?_
  exact alike_accept_bind _ rfl (alike_yieldValue (alike_value n) line line' n) (alike_values n)

/-- Targets and a value without their lines. -/
def bareAssignment (x : List Expr × Expr) : List Expr × Expr := (Expr.bareAll x.1, x.2.bare)

theorem alike_assignments (n : Nat) :
    ∀ (m : Nat) (first : Bool) (start start' : Token) {e e' : Expr}, e.bare = e'.bare →
      Alike bareAssignment (assignments n m first start e) (assignments n m first start' e')
  | 0, _, _, _, _, _, _ => alike_refuse
  | m + 1, first, start, start', e, e', he => by
    unfold assignments
    refine (alike_sees _).andThen fun _ => .ite (.pure ?_) ?_
    · exact congrArg (fun e => ([], e)) he
    · rw [isSome_badTarget?_of_bare he, isYield_of_bare he]
      extract_lets further further'
      have hfurther : Alike bareAssignment (further ()) (further' ()) := by
        refine (alike_checkTarget _ _ _ he).andThen fun _ => alike_advance.andThen fun _ => ?_
        refine alike_peek_bind fun kind depth _ _ _ _ => (alike_assigned n).bind fun d d' hd => ?_
        refine (alike_assignments n m false _ _ hd).bind fun x y hxy => .pure ?_
        obtain ⟨htargets, hlast⟩ := Prod.mk.inj hxy
        exact congrArg₂ (fun es e => (es, e)) (congrArg₂ List.cons he htargets) hlast
      refine .ite ?_ hfurther
      exact (alike_checkNotAssigned (alike_operand n) _ _ he).andThen fun _ => hfurther

theorem alike_expressionStatement (n : Nat) :
    Alike Stmt.bare (expressionStatement n) (expressionStatement n) := by
  unfold expressionStatement
  refine alike_peek_bind fun kind depth line line' last last' => ?_
  refine (alike_assigned n).bind fun e e' he => ?_
  refine alike_peek_bind fun kind depth _ _ _ _ => ?_
  dsimp only
  cases augmentOps.find? fun op => symbol op.1 == kind with
  | some op =>
    dsimp only
    rw [isSingleTarget_of_bare he]
    refine .ite ((refuse_report ..).bind _ _).alike ?_
    refine alike_advance.andThen fun _ => (alike_assigned n).bind fun right right' hright => ?_
    exact alike_spanFrom_bind _ _ fun _ _ =>
      .pure (congrArg₂ (Stmt.augment ⟨0, 0⟩ · op.2) he hright)
  | none =>
    refine (alike_assignments n n true _ _ he).bind fun x y hxy => ?_
    obtain ⟨targets, d⟩ := x
    obtain ⟨targets', d'⟩ := y
    obtain ⟨htargets, hd⟩ := Prod.mk.inj hxy
    cases targets with
    | nil =>
      cases targets' with
      | nil => exact alike_spanFrom_bind _ _ fun _ _ => .pure (congrArg (Stmt.expr ⟨0, 0⟩) hd)
      | cons => cases htargets
    | cons =>
      cases targets' with
      | nil => cases htargets
      | cons =>
        exact alike_spanFrom_bind _ _ fun _ _ =>
          .pure (congrArg₂ (Stmt.assign ⟨0, 0⟩) htargets hd)

theorem alike_dottedName : ∀ n, Alike id (dottedName n) (dottedName n)
  | 0 => alike_refuse
  | n + 1 => by
    unfold dottedName
    refine alike_peek_bind fun kind depth _ _ _ _ => ?_
    cases kind with
    | name id =>
      exact alike_advance.andThen fun _ => alike_accept_bind _ rfl
        ((alike_dottedName n).andThen fun _ => alike_pure _) (alike_pure _)
    | _ => exact alike_refuse

theorem alike_importedModule (n : Nat) : Alike id (importedModule n) (importedModule n) := by
  unfold importedModule
  refine (alike_dottedName n).andThen fun path => alike_accept_bind _ rfl ?_ (alike_pure _)
  refine alike_peek_bind fun kind depth _ _ _ _ => ?_
  cases kind with
  | name id => exact alike_advance.andThen fun _ => alike_pure _
  | _ => exact (refuse_refuse.bind _ _).alike

theorem alike_importedModules (n : Nat) :
    ∀ m, Alike id (importedModules n m) (importedModules n m)
  | 0 => alike_refuse
  | m + 1 => (alike_importedModule n).andThen fun _ => alike_accept_bind _ rfl
      ((alike_importedModules n m).andThen fun _ => alike_pure _) (alike_pure _)

theorem alike_optional (n : Nat) {mark : TokenKind} (hmark : mark.isMark = false) :
    Alike Expr.bareOption (optional n mark) (optional n mark) :=
  alike_accept_bind _ hmark ((alike_value n).bind fun _ _ he => .pure (congrArg some he)) (.pure rfl)

theorem alike_simpleStatement (n : Nat) :
    Alike Stmt.bare (simpleStatement n) (simpleStatement n) := by
  unfold simpleStatement
  refine alike_peek_bind fun kind depth line line' last last' => ?_
  refine .ite (alike_advance.andThen fun _ => alike_spanFrom_bind _ _ fun _ _ => .pure rfl) ?_
  refine .ite (alike_advance.andThen fun _ => alike_spanFrom_bind _ _ fun _ _ => .pure rfl) ?_
  refine .ite (alike_advance.andThen fun _ => alike_spanFrom_bind _ _ fun _ _ => .pure rfl) ?_
  refine .ite (alike_advance.andThen fun _ => ?_) ?_
  · refine alike_peek_bind fun kind depth _ _ _ _ => .ite ?_ ?_
    · exact (alike_values n).bind fun e e' he => alike_spanFrom_bind _ _ fun _ _ =>
        .pure (congrArg (fun e => Stmt.ret ⟨0, 0⟩ (some e)) he)
    · exact alike_spanFrom_bind _ _ fun _ _ => .pure rfl
  refine .ite (alike_advance.andThen fun _ => ?_) ?_
  · refine alike_peek_bind fun kind depth _ _ _ _ => .ite ?_ ?_
    · exact (alike_value n).bind fun e e' he => (alike_optional n rfl).bind fun cause cause' hcause =>
        alike_spanFrom_bind _ _ fun _ _ =>
          .pure (congrArg₂ (fun e => Stmt.raise ⟨0, 0⟩ (some e)) he hcause)
    · exact alike_spanFrom_bind _ _ fun _ _ => .pure rfl
  refine .ite (alike_advance.andThen fun _ => ?_) ?_
  · exact (alike_value n).bind fun test test' htest => (alike_optional n rfl).bind fun e e' he =>
      alike_spanFrom_bind _ _ fun _ _ => .pure (congrArg₂ (Stmt.assert ⟨0, 0⟩) htest he)
  refine .ite (alike_advance.andThen fun _ => ?_) ?_
  · refine (alike_tupleOr (alike_operand n) n).bind fun x y hxy => ?_
    have htargets := (Prod.mk.inj hxy).1
    have heach : x.1.map Expr.bare = y.1.map Expr.bare := by
      rw [← Expr.bareAll_eq_map, ← Expr.bareAll_eq_map, htargets]
    refine (alike_forM (fun e e' he => alike_checkTarget "delete" _ _ he) heach).andThen fun _ => ?_
    exact alike_spanFrom_bind _ _ fun _ _ => .pure (congrArg (Stmt.delete ⟨0, 0⟩) htargets)
  refine .ite (alike_advance.andThen fun _ => ?_) (alike_expressionStatement n)
  exact (alike_importedModules n n).andThen fun _ => alike_spanFrom_bind _ _ fun _ _ => .pure rfl

/-! ## Headers -/

theorem alike_checkColon (always : Bool) : Alike id (checkColon always) (checkColon always) :=
  alike_peek_bind fun _ _ _ _ _ _ => .ite alike_report (alike_pure ())

theorem alike_condition (n : Nat) : Alike Expr.bare (condition n) (condition n) :=
  alike_peek_bind fun _ _ _ _ _ _ => (alike_value n).bind fun _ _ he =>
    (alike_checkNotAssigned (alike_operand n) _ _ he).andThen fun _ => .pure he

theorem alike_parameters (n : Nat) :
    ∀ (m : Nat) (names : List Text) {defaults defaults' : List Expr},
      Expr.bareAll defaults = Expr.bareAll defaults' →
      Alike (fun x : List Text × List Expr => (x.1, Expr.bareAll x.2))
        (parameters n m names defaults) (parameters n m names defaults')
  | 0, _, _, _, _ => alike_refuse
  | m + 1, names, defaults, defaults', h => by
    unfold parameters
    refine alike_accept_bind _ rfl (.pure (congrArg (Prod.mk names) h)) ?_
    refine alike_peek_bind fun kind depth _ _ _ _ => ?_
    cases kind with
    | name id =>
      refine alike_advance.andThen fun _ => (alike_accept _ rfl).andThen fun _ => ?_
      extract_lets names' further _ further' _
      have hfurther (default default' : List Expr)
          (hdefault : Expr.bareAll default = Expr.bareAll default') :
          Alike (fun x : List Text × List Expr => (x.1, Expr.bareAll x.2)) (further default)
            (further' default') := by
        have hall : Expr.bareAll (defaults ++ default) = Expr.bareAll (defaults' ++ default') := by
          rw [Expr.bareAll_append, Expr.bareAll_append, h, hdefault]
        unfold further further'
        rw [Expr.isEmpty_of_bareAll h, Expr.isEmpty_of_bareAll hdefault]
        refine .ite refuse_next_bind.alike (alike_accept_bind _ rfl ?_ ?_)
        · exact alike_parameters n m _ hall
        · exact (alike_expect _ rfl).andThen fun _ => .pure (congrArg (Prod.mk _) hall)
      refine .ite ?_ (Alike.bind (.pure rfl) hfurther)
      refine alike_peek_bind fun kind depth _ _ _ _ => ?_
      refine .ite ((refuse_report ..).bind _ _).alike ?_
      refine (alike_value n).bind fun e e' he => ?_
      exact Alike.bind (.pure (congrArg (fun e => [e]) he)) hfurther
    | _ => exact alike_refuse

theorem alike_definedName : Alike id definedName definedName := by
  unfold definedName
  refine alike_peek_bind fun kind depth _ _ _ _ => ?_
  cases kind with
  | name id => exact alike_advance.andThen fun _ => alike_pure _
  | _ => exact alike_refuse

theorem alike_bases (n : Nat) : Alike Expr.bareAll (bases n) (bases n) := by
  unfold bases
  refine alike_accept_bind _ rfl ?_ (.pure rfl)
  refine (alike_arguments (alike_value n) n rfl).bind fun args args' hargs => ?_
  obtain ⟨hpositional, hkeywords⟩ := Prod.mk.inj hargs
  have hempty : args.keywords.isEmpty = args'.keywords.isEmpty := by
    rw [← List.isEmpty_map (f := bareSnd), hkeywords, List.isEmpty_map]
  rw [hempty]
  exact .ite (.pure hpositional) alike_refuse

/-! ## Where no statement begins -/

theorem failsOnNothing_atom (inner operand : Parser Expr) (n : Nat) :
    FailsOnNothing (atom inner operand n) := by
  refine failsOnNothing_peek_bind fun t hnothing => ?_
  obtain ⟨kind, line, lastLine, depth⟩ := t
  cases kind with
  | finish => exact failsOnNothing_refuse
  | keyword w =>
    obtain rfl | rfl : w = "else".toList ∨ w = "elif".toList := by
      simpa [beginsNothing] using hnothing
    · exact failsOnNothing_refuse
    · exact failsOnNothing_refuse
  | _ => cases hnothing

theorem failsOnNothing_factor (inner operand : Parser Expr) :
    ∀ n, FailsOnNothing (factor inner operand n)
  | 0 => failsOnNothing_refuse
  | n + 1 => failsOnNothing_peek_bind fun _ _ =>
      failsOnNothing_accept_bind rfl (failsOnNothing_accept_bind rfl
        ((failsOnNothing_atom inner operand (n + 1)).bind _))

theorem failsOnNothing_arithmetic (inner : Parser Expr) (n : Nat) :
    FailsOnNothing (arithmetic inner n) :=
  failsOnNothing_peek_bind fun _ _ => FailsOnNothing.bind
    (failsOnNothing_peek_bind fun _ _ => (failsOnNothing_factor inner _ n).bind _) _

theorem failsOnNothing_inversion {operand : Parser Expr} (h : FailsOnNothing operand) :
    ∀ n, FailsOnNothing (inversion operand n)
  | 0 => failsOnNothing_refuse
  | _ + 1 => failsOnNothing_peek_bind fun _ _ => failsOnNothing_accept_bind rfl (h.bind _)

theorem failsOnNothing_chained (between : TokenKind) {operand : Parser Expr}
    (h : FailsOnNothing operand) : ∀ n, FailsOnNothing (chained between operand n)
  | 0 => failsOnNothing_refuse
  | _ + 1 => h.bind _

theorem failsOnNothing_junction (op : BoolOp) (between : TokenKind) {operand : Parser Expr}
    (h : FailsOnNothing operand) (n : Nat) : FailsOnNothing (junction op between operand n) :=
  failsOnNothing_peek_bind fun _ _ => (failsOnNothing_chained between h n).bind _

theorem failsOnNothing_conditional (inner : Parser Expr) (n : Nat) :
    ∀ m, FailsOnNothing (conditional inner n m)
  | 0 => failsOnNothing_refuse
  | _ + 1 => failsOnNothing_peek_bind fun _ _ => FailsOnNothing.bind
      (failsOnNothing_junction _ _ (failsOnNothing_junction _ _
        (failsOnNothing_inversion (failsOnNothing_arithmetic inner n) n) n) n) _

theorem failsOnNothing_value (n : Nat) : FailsOnNothing (value n) :=
  failsOnNothing_conditional _ n (n + 1)

theorem failsOnNothing_values (n : Nat) : FailsOnNothing (values n) := by
  refine failsOnNothing_peek_bind fun _ _ => FailsOnNothing.bind ?_ _
  cases n with
  | zero => exact failsOnNothing_refuse
  | succ n => exact (failsOnNothing_value (n + 1)).bind _

theorem failsOnNothing_simpleStatement (n : Nat) : FailsOnNothing (simpleStatement n) := by
  have hexpression : FailsOnNothing (expressionStatement n) :=
    failsOnNothing_peek_bind fun _ _ => FailsOnNothing.bind
      (failsOnNothing_peek_bind fun _ _ =>
        failsOnNothing_accept_bind rfl (failsOnNothing_values n)) _
  refine failsOnNothing_peek_bind fun t hnothing => ?_
  have hne (w : String) (hw : beginsNothing (word w) = false) : ¬ (t.kind == word w) = true := by
    rw [ne_of_beginsNothing hnothing hw]
    exact Bool.false_ne_true
  dsimp only
  rw [if_neg (hne "pass" rfl), if_neg (hne "break" rfl), if_neg (hne "continue" rfl),
    if_neg (hne "return" rfl), if_neg (hne "raise" rfl), if_neg (hne "assert" rfl),
    if_neg (hne "del" rfl), if_neg (hne "import" rfl)]
  exact hexpression

theorem failsOnNothing_simpleLine (n : Nat) : ∀ m, FailsOnNothing (simpleLine n m)
  | 0 => failsOnNothing_refuse
  | _ + 1 => (failsOnNothing_simpleStatement n).bind _

/-- **No statement begins** at the end of a text, and none with what continues a statement. -/
theorem failsOnNothing_statement (n : Nat) : ∀ depth, FailsOnNothing (Parser.statement n depth)
  | 0 => failsOnNothing_refuse
  | _ + 1 => failsOnNothing_peek_bind fun _ _ =>
      failsOnNothing_accept_bind rfl (failsOnNothing_accept_bind rfl (failsOnNothing_accept_bind rfl
        (failsOnNothing_accept_bind rfl (failsOnNothing_accept_bind rfl
          (failsOnNothing_simpleLine n n)))))

/-! ## Lines and blocks -/

section

variable {ρ σ : List (TokenKind × Nat) → List (TokenKind × Nat) → Prop} (hl : Linewise ρ σ)
  {statement : Parser (List Stmt)}

include hl

theorem leads_simpleLine (n : Nat) :
    ∀ m, Leads ρ σ Stmt.bareAll (simpleLine n m) (simpleLine n m)
  | 0 => refuse_refuse.leads
  | m + 1 => by
    unfold simpleLine
    refine (alike_simpleStatement n).leads_bind hl.toStepwise fun s s' hs => ?_
    have hone : Stmt.bareAll [s] = Stmt.bareAll [s'] := congrArg (fun s => [s]) hs
    refine (alike_accept _ rfl).leads_andThen hl.toStepwise fun _ => .ite ?_ ?_
    · refine leads_accept_bind hl _ (.pure hone) ?_
      exact (leads_simpleLine n m).bind fun _ _ hrest => .pure (congrArg₂ List.cons hs hrest)
    · exact (leads_expect hl _).bind fun _ _ _ => .pure hone

variable (h : Leads ρ σ Stmt.bareAll statement statement) (hfails : FailsOnNothing statement)

include hfails

omit hl in
theorem failsOnNothing_blockBody : ∀ m, FailsOnNothing (blockBody statement m)
  | 0 => failsOnNothing_refuse
  | _ + 1 => hfails.bind _

include h

theorem leads_blockBody : ∀ m, Leads ρ σ Stmt.bareAll (blockBody statement m) (blockBody statement m)
  | 0 => refuse_refuse.leads
  | m + 1 => by
    unfold blockBody
    refine h.bind fun ss ss' hss => hl.leads ?_ ?_
    · refine leads_accept_bind hl _ (.pure hss) ((leads_blockBody m).bind fun _ _ hrest => .pure ?_)
      rw [Stmt.bareAll_append, Stmt.bareAll_append, hss, hrest]
    · exact (failsOnNothing_accept_bind rfl ((failsOnNothing_blockBody hfails m).bind _)).leads

theorem leads_suite (n : Nat) (header header' : Text) (line line' : Nat) :
    Leads ρ σ Stmt.bareAll (suite statement n header line) (suite statement n header' line') := by
  have hblock := leads_blockBody hl h hfails n
  unfold suite
  refine (alike_expect _ rfl).leads_andThen hl.toStepwise fun _ => ?_
  refine leads_accept_bind hl _ (hl.leads ?_ ?_) (leads_simpleLine hl n n)
  · refine leads_accept_bind hl _ (hl.leads hblock ?_) refuse_next.leads
    exact (failsOnNothing_blockBody hfails n).leads
  · exact (failsOnNothing_accept_bind rfl refuse_next.failsOnNothing).leads

theorem leads_elseSuite (n : Nat) :
    Leads σ σ Stmt.bareAll (elseSuite statement n) (elseSuite statement n) :=
  leads_peek_bind hl fun _ _ => leads_choice_bind hl (.inl rfl)
    ((alike_checkColon true).leads_andThen hl.toStepwise fun _ => leads_suite hl h hfails n _ _ _ _)
    (.pure rfl)

theorem leads_branches (n : Nat) :
    ∀ (m : Nat) (w : String) (line line' : Nat),
      Leads ρ σ Stmt.bare (branches statement n m w line) (branches statement n m w line')
  | 0, _, _, _ => refuse_refuse.leads
  | m + 1, w, line, line' => by
    unfold branches
    refine (alike_condition n).leads_bind hl.toStepwise fun test test' htest => ?_
    refine (alike_checkColon false).leads_andThen hl.toStepwise fun _ => ?_
    refine (leads_suite hl h hfails n _ _ _ _).bind fun body body' hbody => ?_
    refine leads_peek_bind hl fun token token' => ?_
    have hbranch (orelse orelse' : List Stmt) (h : Stmt.bareAll orelse = Stmt.bareAll orelse') :
        Leads σ σ Stmt.bare
          (pure (.branch ⟨line, lastLineOf (lastLineOf line body) orelse⟩ test body orelse))
          (pure (.branch ⟨line', lastLineOf (lastLineOf line' body') orelse'⟩ test' body'
            orelse')) := by
      have hchoice := congr (congrArg₂ (Stmt.branch ⟨0, 0⟩) htest hbody) h
      exact .pure hchoice
    refine leads_choice_bind hl (.inr rfl) ?_ ((leads_elseSuite hl h hfails n).bind hbranch)
    refine (leads_branches n m "elif" _ _).bind fun s s' hs => ?_
    exact Leads.bind (.pure (congrArg (fun s => [s]) hs)) hbranch

theorem leads_anyStatement (n : Nat) :
    Leads ρ σ Stmt.bareAll (anyStatement statement n) (anyStatement statement n) := by
  have hρ := hl.toStepwise
  have hsuite := leads_suite hl h hfails n
  unfold anyStatement
  refine alike_peek.leads_bind hρ fun token token' _ => ?_
  refine (alike_accept _ rfl).leads_andThen hρ fun _ => .ite ?_ ?_
  · exact (leads_branches hl h hfails n n "if" _ _).bind fun _ _ hs =>
      .pure (congrArg (fun s => [s]) hs)
  refine (alike_accept _ rfl).leads_andThen hρ fun _ => .ite ?_ ?_
  · refine (alike_condition n).leads_bind hρ fun test test' htest => ?_
    refine (alike_checkColon false).leads_andThen hρ fun _ => ?_
    refine (hsuite _ _ _ _).bind fun body body' hbody => ?_
    refine (leads_elseSuite hl h hfails n).bind fun orelse orelse' horelse => .pure ?_
    have hloop := congr (congrArg₂ (Stmt.whileLoop ⟨0, 0⟩) htest hbody) horelse
    exact congrArg (fun s => [s]) hloop
  refine (alike_accept _ rfl).leads_andThen hρ fun _ => .ite ?_ ?_
  · refine alike_peek.leads_bind hρ fun first first' _ => ?_
    refine (alike_tupleOr (alike_operand n) n).leads_bind hρ fun x y hxy => ?_
    have htarget := bare_ofItems first.line first'.line hxy
    refine (alike_checkTarget _ _ _ htarget).leads_andThen hρ fun _ => ?_
    refine (alike_expect _ rfl).leads_andThen hρ fun _ => ?_
    refine (alike_values n).leads_bind hρ fun e e' he => ?_
    refine (alike_checkColon false).leads_andThen hρ fun _ => ?_
    refine (hsuite _ _ _ _).bind fun body body' hbody => ?_
    refine (leads_elseSuite hl h hfails n).bind fun orelse orelse' horelse => .pure ?_
    have hloop := congr (congr (congrArg₂ (Stmt.forLoop ⟨0, 0⟩) htarget he) hbody) horelse
    exact congrArg (fun s => [s]) hloop
  refine (alike_accept _ rfl).leads_andThen hρ fun _ => .ite ?_ ?_
  · refine alike_definedName.leads_andThen hρ fun name => ?_
    refine alike_peek.leads_bind hρ fun token token' _ => ?_
    refine (alike_accept _ rfl).leads_andThen hρ fun _ => ?_
    refine .ite ((refuse_report ..).bind _ _).leads ?_
    refine (alike_parameters n n [] rfl).leads_bind hρ fun x y hxy => ?_
    obtain ⟨hnames, hdefaults⟩ := Prod.mk.inj hxy
    refine (alike_checkColon true).leads_andThen hρ fun _ => ?_
    refine (hsuite _ _ _ _).bind fun body body' hbody => .pure ?_
    have hfunction := congr (congrArg₂ (Stmt.function ⟨0, 0⟩ name) hnames hdefaults) hbody
    exact congrArg (fun s => [s]) hfunction
  refine (alike_accept _ rfl).leads_andThen hρ fun _ => .ite ?_ (leads_simpleLine hl n n)
  refine alike_definedName.leads_andThen hρ fun name => ?_
  refine (alike_bases n).leads_bind hρ fun parents parents' hbases => ?_
  refine (alike_checkColon false).leads_andThen hρ fun _ => ?_
  refine (hsuite _ _ _ _).bind fun body body' hbody => .pure ?_
  have hclass := congrArg₂ (Stmt.classDef ⟨0, 0⟩ name) hbases hbody
  exact congrArg (fun s => [s]) hclass

omit h hfails in
/-- **A statement that is read from the first text is read from the second.** -/
theorem leads_statement (n : Nat) :
    ∀ depth, Leads ρ σ Stmt.bareAll (Parser.statement n depth) (Parser.statement n depth)
  | 0 => refuse_refuse.leads
  | depth + 1 => leads_anyStatement hl (leads_statement n depth) (failsOnNothing_statement n depth) n

end

end Parser

end Stencil.Code
