import Stencil.Code.Expression
import Stencil.Proofs.Blind.Parser

/-!
# Reading expressions without lines

Every parser of expressions reads the same from tokens that are the same but for their lines: one
lemma for each parser, put together as the parser is. A field of a formatted string is cut into
tokens of its own, which are the same on every line.

* `alike_formattedParts`: formatted strings.
* `alike_atom`, `alike_trailers`: operands.
* `alike_expression`: expressions.
-/

namespace Stencil.Code.Parser

/-- Expressions without their lines, and what was read with them. -/
def bareWith {β : Type} (x : List Expr × β) : List Expr × β := (Expr.bareAll x.1, x.2)

variable {inner operand element : Parser Expr}

/-! ## Mistakes with messages of their own -/

/-- What runs into an expression does not depend on the lines of the expression. -/
theorem alike_checkEnd (hinner : Alike Expr.bare inner inner) (start start' : Token)
    {e e' : Expr} (he : e.bare = e'.bare) :
    Alike id (checkEnd inner start e) (checkEnd inner start' e') := by
  have hbare (start : Token) (e : Expr) :
      Alike id (checkEnd inner start e) (checkEnd inner start' e.bare) := by
    unfold checkEnd
    refine alike_peek_bind fun kind depth line line' last last' => ?_
    refine .ite ?_ (alike_pure ())
    cases e with
    | name nameLine id =>
      cases kind with
      | string s =>
        exact .ite ((alike_follows hinner).andThen fun _ => .ite alike_report (alike_pure ()))
          (alike_pure ())
      | _ =>
        refine (alike_follows hinner).andThen fun _ => .ite ?_ (alike_pure ())
        exact .ite ((refuse_report ..).bind _ _).alike (.ite alike_report (alike_pure ()))
    | _ =>
      refine (alike_follows hinner).andThen fun _ => .ite ?_ (alike_pure ())
      exact .ite alike_report (alike_pure ())
  exact (hbare start e).trans (he ▸ (hbare start' e').symm)

/-- Whether an assignment stands where a value is wanted does not depend on lines. -/
theorem alike_checkNotAssigned (hoperand : Alike Expr.bare operand operand) (start start' : Token)
    {e e' : Expr} (he : e.bare = e'.bare) :
    Alike id (checkNotAssigned operand start e) (checkNotAssigned operand start' e') := by
  have hbare (start : Token) (e : Expr) :
      Alike id (checkNotAssigned operand start e) (checkNotAssigned operand start' e.bare) := by
    unfold checkNotAssigned
    refine (alike_sees _).andThen fun _ => .ite ?_ (alike_pure ())
    extract_lets attempt
    have hattempt : Alike id attempt attempt := alike_advance.andThen fun _ =>
      hoperand.bind fun _ _ _ => (alike_sees _).andThen fun _ => .ite alike_refuse (alike_pure ())
    have hreport (message message' : Text) : Alike id
        (follows attempt >>= fun b => if b = true then report start.line message else pure ())
        (follows attempt >>= fun b => if b = true then report start'.line message' else pure ()) :=
      (alike_follows hattempt).andThen fun _ => .ite alike_report (alike_pure ())
    cases e with
    | name => exact hreport _ _
    | list | tuple => exact alike_pure ()
    | constant line value =>
      cases value with
      | none | bool => exact alike_pure ()
      | _ => exact .ite (hreport _ _) (alike_pure ())
    | unary line op e => cases op <;> exact .ite (hreport _ _) (alike_pure ())
    | _ => exact .ite (hreport _ _) (alike_pure ())
  exact (hbare start e).trans (he ▸ (hbare start' e').symm)

/-! ## Strings -/

theorem alike_textOf (raw : Bool) (t : Text) : Alike id (textOf raw t) (textOf raw t) := by
  unfold textOf
  refine Alike.ite (alike_pure t) ?_
  cases unescape true 0 t with
  | ok t => exact alike_pure t
  | error e => exact refuse_next.alike

theorem alike_formattedParts {line line' : Nat} {raw : Bool}
    {expression expression' : Text → Parser Expr}
    (h : ∀ t, Alike Expr.bare (expression t) (expression' t)) :
    ∀ (nested : Bool) (n : Nat) (t : Text),
      Alike bareWith (formattedParts line raw expression nested n t)
        (formattedParts line' raw expression' nested n t)
  | _, 0, _ => alike_refuse
  | nested, n + 1, t => by
    unfold formattedParts
    obtain ⟨literal, rest⟩ := fieldText nested t
    refine (alike_textOf raw literal).andThen fun literal => ?_
    have hfront : Expr.bareAll (if literal.isEmpty then [] else [.constant line (.text literal)]) =
        Expr.bareAll (if literal.isEmpty then [] else [.constant line' (.text literal)]) := by
      split <;> rfl
    generalize (if literal.isEmpty then [] else [Expr.constant line (.text literal)]) = front,
      (if literal.isEmpty then [] else [Expr.constant line' (.text literal)]) = front' at hfront
    split
    · exact .pure (congrArg (·, []) hfront)
    · rename_i rest
      obtain ⟨inside, rest⟩ := fieldExpression [] none rest
      refine .ite refuse_next_bind.alike ?_
      refine .ite (refuse_next.bind _ _).alike ?_
      refine .ite (refuse_next.bind _ _).alike ?_
      refine (h inside).bind fun value value' hvalue => ?_
      extract_lets convert convert'
      have hconvert (x : Option Char × Text) : Alike bareWith (convert x) (convert' x) := by
        obtain ⟨conversion, rest⟩ := x
        unfold convert convert'
        dsimp -zeta only
        extract_lets finish finish'
        have hfinish (x y : Option Expr × Text)
            (hxy : (Expr.bareOption x.1, x.2) = (Expr.bareOption y.1, y.2)) :
            Alike bareWith (finish x) (finish' y) := by
          obtain ⟨format, rest⟩ := x
          obtain ⟨format', rest'⟩ := y
          obtain ⟨hformat, rfl⟩ := Prod.mk.inj hxy
          unfold finish finish'
          dsimp only
          split
          · refine (alike_formattedParts h nested n _).bind fun x y hxy => .pure ?_
            obtain ⟨hparts, hrest⟩ := Prod.mk.inj hxy
            have hfield : (Expr.field line value conversion format).bare =
                (Expr.field line' value' conversion format').bare :=
              congrArg₂ (Expr.field 0 · conversion ·) hvalue hformat
            refine congrArg₂ Prod.mk ?_ hrest
            rw [Expr.bareAll_append, Expr.bareAll_cons, hfront, hfield, hparts, Expr.bareAll_append,
              Expr.bareAll_cons]
          · exact refuse_next.alike
        split
        · refine (alike_formattedParts h true n _).bind fun x y hxy => ?_
          obtain ⟨hparts, hrest⟩ := Prod.mk.inj hxy
          refine Alike.bind (r := fun x : Option Expr × Text => (Expr.bareOption x.1, x.2))
            (.pure ?_) hfinish
          exact congrArg₂ (fun es t => (some (Expr.joined 0 es), t)) hparts hrest
        · exact (alike_pure _).andThen fun x => hfinish x x rfl
      split
      · exact .ite ((alike_pure _).andThen hconvert) (refuse_next.bind _ _).alike
      · exact (alike_pure _).andThen hconvert
    · exact .ite (.pure (congrArg (·, _) hfront)) refuse_next.alike

/-- An expression in a field is read from tokens of its own. -/
theorem alike_fieldValue (hinner : Alike Expr.bare inner inner) (line line' : Nat) (t : Text) :
    Alike Expr.bare (fieldValue inner line t) (fieldValue inner line' t) := by
  have hwhole : Alike Expr.bare
      (expect (symbol "(") >>= fun _ => inner >>= fun e => expect (symbol ")") >>= fun _ => pure e)
      (expect (symbol "(") >>= fun _ => inner >>= fun e => expect (symbol ")") >>= fun _ =>
        pure e) :=
    (alike_expect _ rfl).andThen fun _ => hinner.bind fun _ _ he =>
      (alike_expect _ rfl).andThen fun _ => .pure he
  unfold fieldValue
  extract_lets whole
  have hagree : Agree Eq Expr.bare (whole ⟨tokens ('(' :: t ++ [')']), line⟩)
      (whole ⟨tokens ('(' :: t ++ [')']), line'⟩) := hwhole stepwise_eq rfl
  generalize whole ⟨_, line⟩ = o, whole ⟨_, line'⟩ = o' at hagree
  cases hagree with
  | read he _ =>
    exact .pure (by rw [Expr.bare_mapLines, Expr.bare_mapLines, he])
  | refused => exact alike_report

theorem alike_stringParts (hinner : Alike Expr.bare inner inner) (line line' : Nat)
    (s : StringToken) :
    Alike Expr.bareAll (stringParts inner line s) (stringParts inner line' s) := by
  unfold stringParts
  refine .ite ?_ ((alike_textOf _ _).andThen fun _ => .pure rfl)
  refine (alike_formattedParts (fun t => alike_fieldValue hinner line line' t) _ _ _).bind
    fun x y hxy => .pure (Prod.mk.inj hxy).1

/-- Joining neighbouring texts does not ask for lines. -/
theorem bareAll_mergeTexts (es : List Expr) :
    Expr.bareAll (mergeTexts es) = mergeTexts (Expr.bareAll es) := by
  induction es with
  | nil => rfl
  | cons e es ih =>
    cases e with
    | constant line value =>
      cases value with
      | text t =>
        show _ = mergeTexts (.constant 0 (.text t) :: Expr.bareAll es)
        rw [mergeTexts, mergeTexts, ← ih]
        cases mergeTexts es with
        | nil =>
          dsimp only
          split <;> rfl
        | cons d rest =>
          cases d with
          | constant line' value' =>
            cases value' with
            | text u => rfl
            | _ =>
              dsimp only
              split <;> rfl
          | _ =>
            dsimp only
            split <;> rfl
      | _ => exact congrArg (_ :: ·) ih
    | _ => exact congrArg (_ :: ·) ih

theorem alike_bytesOf (s : StringToken) : Alike id (bytesOf s) (bytesOf s) := by
  unfold bytesOf
  refine .ite refuse_next_bind.alike ?_
  dsimp only
  refine .ite ((alike_pure _).andThen fun _ => alike_pure _) ?_
  cases unescape false 0 s.inside with
  | ok t => exact (alike_pure t).andThen fun _ => alike_pure _
  | error e => exact refuse_next_bind.alike

theorem alike_strings (line line' : Nat) :
    ∀ n, Alike (List.map Prod.snd) (strings inner line n) (strings inner line' n)
  | 0 => .pure rfl
  | n + 1 => by
    unfold strings
    refine alike_peek_bind fun kind depth _ _ last last' => ?_
    cases kind with
    | string s =>
      exact alike_advance.andThen fun _ => (alike_strings line line' n).bind fun _ _ h =>
        .pure (congrArg (s :: ·) h)
    | _ => exact .pure rfl

theorem alike_stringValue (hinner : Alike Expr.bare inner inner) (line line' : Nat)
    {found found' : List (Nat × StringToken)} (h : found.map Prod.snd = found'.map Prod.snd) :
    Alike Expr.bare (stringValue inner line found) (stringValue inner line' found') := by
  have hall (p : StringToken → Bool) : (found.all fun x => p x.2) = found'.all fun x => p x.2 := by
    show found.all (p ∘ Prod.snd) = found'.all (p ∘ Prod.snd)
    rw [← List.all_map, ← List.all_map, h]
  have hany (p : StringToken → Bool) : (found.any fun x => p x.2) = found'.any fun x => p x.2 := by
    show found.any (p ∘ Prod.snd) = found'.any (p ∘ Prod.snd)
    rw [← List.any_map, ← List.any_map, h]
  have hbytes : Alike (List.map id) (found.mapM fun x => bytesOf x.2)
      (found'.mapM fun x => bytesOf x.2) :=
    alike_mapM (r := Prod.snd) (fun x y hxy => hxy ▸ alike_bytesOf x.2) h
  have hparts : Alike (List.map Expr.bareAll) (found.mapM fun x => stringParts inner x.1 x.2)
      (found'.mapM fun x => stringParts inner x.1 x.2) :=
    alike_mapM (r := Prod.snd) (fun x y hxy => hxy ▸ alike_stringParts hinner x.1 y.1 x.2) h
  unfold stringValue
  rw [hall, hany, hany]
  refine .ite (hbytes.bind fun bs bs' hbs => .pure ?_) ?_
  · rw [List.map_id, List.map_id] at hbs
    rw [hbs]
    rfl
  · refine .ite refuse_next_bind.alike (hparts.bind fun parts parts' hflat => ?_)
    have hmerged : Expr.bareAll (mergeTexts parts.flatten) =
        Expr.bareAll (mergeTexts parts'.flatten) := by
      rw [bareAll_mergeTexts, bareAll_mergeTexts, Expr.bareAll_flatten, Expr.bareAll_flatten, hflat]
    dsimp only
    generalize mergeTexts parts.flatten = es, mergeTexts parts'.flatten = es' at hmerged
    refine .ite (.pure (congrArg (Expr.joined 0) hmerged)) ?_
    split
    · obtain ⟨_, rfl⟩ := Expr.single_constant_of_bareAll hmerged.symm
      exact .pure rfl
    · rename_i hother
      split
      · obtain ⟨_, rfl⟩ := Expr.single_constant_of_bareAll hmerged
        exact (hother _ _ rfl).elim
      · exact .pure rfl

/-! ## Brackets -/

theorem alike_items (helement : Alike Expr.bare element element) (closer : TokenKind)
    (hcloser : closer.isMark = false) :
    ∀ n, Alike bareWith (items element closer n) (items element closer n)
  | 0 => alike_refuse
  | n + 1 => by
    unfold items
    refine alike_accept_bind closer hcloser (.pure rfl) ?_
    refine helement.bind fun e e' he => alike_accept_bind _ rfl ?_ ?_
    · refine (alike_items helement closer hcloser n).bind fun x y hxy => .pure ?_
      exact congrArg₂ (fun e es => (e :: es, true)) he (Prod.mk.inj hxy).1
    · exact (alike_expect _ hcloser).andThen fun _ => .pure (congrArg (fun e => ([e], false)) he)

/-- Pairs of expressions without their lines. -/
def barePair (x : Expr × Expr) : Expr × Expr := (x.1.bare, x.2.bare)

theorem alike_entries (hinner : Alike Expr.bare inner inner) :
    ∀ n, Alike (List.map barePair) (entries inner n) (entries inner n)
  | 0 => alike_refuse
  | n + 1 => by
    unfold entries
    refine alike_accept_bind _ rfl (.pure rfl) ?_
    refine hinner.bind fun key key' hkey => ?_
    refine alike_peek_bind fun kind depth line line' last last' => ?_
    refine (alike_accept _ rfl).andThen fun _ => .ite ?_ ?_
    · exact .ite ((refuse_report ..).bind _ _).alike (refuse_refuse.bind _ _).alike
    · refine alike_peek_bind fun kind depth line line' last last' => ?_
      refine .ite ((refuse_report ..).bind _ _).alike ?_
      refine hinner.bind fun value value' hvalue => ?_
      have hpair : barePair (key, value) = barePair (key', value') :=
        congrArg₂ Prod.mk hkey hvalue
      refine alike_accept_bind _ rfl ((alike_entries hinner n).bind fun x y hxy => .pure ?_) ?_
      · exact congrArg₂ List.cons hpair hxy
      · exact (alike_expect _ rfl).andThen fun _ => .pure (congrArg (fun x => [x]) hpair)

/-- Arguments without their lines. -/
def Arguments.bare (args : Arguments) : List Expr × List (Text × Expr) :=
  (Expr.bareAll args.positional, args.keywords.map bareSnd)

theorem alike_arguments (hinner : Alike Expr.bare inner inner) :
    ∀ (n : Nat) {args args' : Arguments}, args.bare = args'.bare →
      Alike Arguments.bare (arguments inner args n) (arguments inner args' n)
  | 0, _, _, _ => alike_refuse
  | n + 1, args, args', h => by
    obtain ⟨hpositional, hkeywords⟩ := Prod.mk.inj h
    have hempty : args.keywords.isEmpty = args'.keywords.isEmpty := by
      rw [← List.isEmpty_map (f := bareSnd), hkeywords, List.isEmpty_map]
    unfold arguments
    refine alike_accept_bind _ rfl (.pure h) ?_
    refine alike_peek_bind fun kind depth line line' last last' => ?_
    refine alike_equalsFollows.andThen fun named => ?_
    extract_lets further
    have hfurther (x y : Arguments) (hxy : x.bare = y.bare) :
        Alike Arguments.bare (further x) (further y) :=
      alike_accept_bind _ rfl (alike_arguments hinner n hxy)
        ((alike_expect _ rfl).andThen fun _ => .pure hxy)
    dsimp only
    split
    · rename_i id
      refine alike_advance.andThen fun _ => alike_advance.andThen fun _ => ?_
      refine hinner.bind fun value value' hvalue => Alike.bind (.pure ?_) hfurther
      refine congrArg₂ Prod.mk hpositional ?_
      rw [List.map_append, List.map_append, hkeywords]
      exact congrArg (fun e => args'.keywords.map bareSnd ++ [(id, e)]) hvalue
    · exact .ite ((refuse_report ..).bind _ _).alike (refuse_refuse.bind _ _).alike
    · refine hinner.bind fun e e' he => (alike_sees _).andThen fun _ => ?_
      refine .ite ((refuse_report ..).bind _ _).alike ?_
      rw [hempty]
      refine .ite refuse_next_bind.alike (Alike.bind (.pure ?_) hfurther)
      refine congrArg₂ Prod.mk ?_ hkeywords
      rw [Expr.bareAll_append, Expr.bareAll_append, hpositional]
      exact congrArg (fun e => Expr.bareAll args'.positional ++ [e]) he

theorem alike_tupleOr (helement : Alike Expr.bare element element) :
    ∀ n, Alike bareWith (tupleOr element n) (tupleOr element n)
  | 0 => alike_refuse
  | n + 1 => by
    unfold tupleOr
    refine helement.bind fun e e' he => alike_accept_bind _ rfl ?_ ?_
    · refine alike_peek_bind fun kind depth line line' last last' => .ite ?_ ?_
      · refine (alike_tupleOr helement n).bind fun x y hxy => .pure ?_
        exact congrArg₂ (fun e es => (e :: es, true)) he (Prod.mk.inj hxy).1
      · exact .pure (congrArg (fun e => ([e], true)) he)
    · exact .pure (congrArg (fun e => ([e], false)) he)

theorem bare_ofItems (line line' : Nat) {x y : List Expr × Bool} (h : bareWith x = bareWith y) :
    (ofItems line x).bare = (ofItems line' y).bare := by
  have hbare (line : Nat) (x : List Expr × Bool) :
      (ofItems line x).bare = ofItems 0 (bareWith x) := by
    obtain ⟨es, comma⟩ := x
    rcases es with _ | ⟨e, _ | ⟨d, es⟩⟩ <;> cases comma <;> rfl
  rw [hbare, hbare, h]

theorem alike_yieldValue (helement : Alike Expr.bare element element) (line line' n : Nat) :
    Alike Expr.bare (yieldValue element line n) (yieldValue element line' n) := by
  unfold yieldValue
  refine alike_peek_bind fun kind depth _ _ last last' => .ite ?_ (.pure rfl)
  refine alike_peek_bind fun kind depth _ _ last last' => ?_
  refine (alike_tupleOr helement n).bind fun x y hxy => .pure ?_
  exact congrArg (fun e => Expr.yield 0 (some e)) (bare_ofItems _ _ hxy)

theorem alike_atom (hinner : Alike Expr.bare inner inner)
    (hoperand : Alike Expr.bare operand operand) (n : Nat) :
    Alike Expr.bare (atom inner operand n) (atom inner operand n) := by
  unfold atom
  refine alike_peek_bind fun kind depth line line' last last' => ?_
  extract_lets line element line'
  have helement : Alike Expr.bare element element :=
    alike_peek_bind fun kind depth line line' last last' => hinner.bind fun e e' he =>
      (alike_checkNotAssigned hoperand _ _ he).andThen fun _ => .pure he
  cases kind with
  | name id => exact alike_advance.andThen fun _ => .pure rfl
  | number value => exact alike_advance.andThen fun _ => .pure rfl
  | string s =>
    exact (alike_strings line line' n).bind fun _ _ h => alike_stringValue hinner line line' h
  | keyword w =>
    refine .ite (alike_advance.andThen fun _ => .pure rfl) ?_
    refine .ite (alike_advance.andThen fun _ => .pure rfl) ?_
    exact .ite (alike_advance.andThen fun _ => .pure rfl) alike_refuse
  | symbol s =>
    refine .ite (alike_advance.andThen fun _ => alike_accept_bind _ rfl ?_ ?_) ?_
    · exact (alike_yieldValue hinner line line' n).bind fun _ _ he =>
        (alike_expect _ rfl).andThen fun _ => .pure he
    · refine (alike_items helement _ rfl n).bind fun x y hxy => ?_
      -- both sides are `ofItems`, each with its own line
      refine Alike.trans ?_ ((Alike.pure (bare_ofItems line line' hxy)).trans (Alike.symm ?_))
      · rcases x with ⟨_ | ⟨e, _ | ⟨d, es⟩⟩, _ | _⟩ <;> exact .pure rfl
      · rcases y with ⟨_ | ⟨e, _ | ⟨d, es⟩⟩, _ | _⟩ <;> exact .pure rfl
    refine .ite (alike_advance.andThen fun _ => ?_) ?_
    · exact (alike_items helement _ rfl n).bind fun x y hxy =>
        .pure (congrArg (Expr.list 0) (Prod.mk.inj hxy).1)
    refine .ite (alike_advance.andThen fun _ => ?_) ?_
    · refine (alike_entries hinner n).bind fun xs ys hxs => .pure ?_
      have hkeys := congrArg (List.map Prod.fst) hxs
      have hvalues := congrArg (List.map Prod.snd) hxs
      rw [List.map_map, List.map_map] at hkeys hvalues
      refine congrArg₂ (Expr.dict 0) ?_ ?_
      · exact (Expr.bareAll_map _ _).trans (hkeys.trans (Expr.bareAll_map _ _).symm)
      · exact (Expr.bareAll_map _ _).trans (hvalues.trans (Expr.bareAll_map _ _).symm)
    exact .ite (alike_advance.andThen fun _ => .pure rfl) alike_refuse
  | «newline» | «indent» | «dedent» | finish => exact alike_refuse

/-! ## What follows an operand -/

theorem alike_sliceFrom {bound : Parser (Option Expr)}
    (hbound : Alike Expr.bareOption bound bound) (line line' : Nat) {lower lower' : Option Expr}
    (hlower : Expr.bareOption lower = Expr.bareOption lower') :
    Alike Expr.bare (indexOrSlice.sliceFrom bound line lower)
      (indexOrSlice.sliceFrom bound line' lower') := by
  unfold indexOrSlice.sliceFrom
  refine hbound.bind fun upper upper' hupper => ?_
  have hslice (step step' : Option Expr) (hstep : Expr.bareOption step = Expr.bareOption step') :
      Alike Expr.bare (pure (.slice line lower upper step))
        (pure (.slice line' lower' upper' step')) := by
    refine .pure ?_
    show Expr.slice 0 (Expr.bareOption lower) (Expr.bareOption upper) (Expr.bareOption step) =
      Expr.slice 0 (Expr.bareOption lower') (Expr.bareOption upper') (Expr.bareOption step')
    rw [hlower, hupper, hstep]
  exact alike_accept_bind _ rfl (hbound.bind hslice)
    (Alike.bind (.pure (rfl : Expr.bareOption none = _)) hslice)

theorem alike_indexOrSlice (hinner : Alike Expr.bare inner inner) :
    Alike Expr.bare (indexOrSlice inner) (indexOrSlice inner) := by
  unfold indexOrSlice
  refine alike_peek_bind fun kind depth line line' last last' => ?_
  extract_lets line bound line'
  have hbound : Alike Expr.bareOption bound bound :=
    alike_peek_bind fun kind depth line line' last last' =>
      .ite (hinner.bind fun _ _ he => .pure (congrArg some he)) (.pure rfl)
  refine (alike_sees _).andThen fun _ => .ite ?_ ?_
  · exact alike_advance.andThen fun _ => alike_sliceFrom hbound line line' rfl
  · refine hinner.bind fun e e' he => alike_accept_bind _ rfl ?_ (.pure he)
    exact alike_sliceFrom hbound line line' (congrArg some he)

theorem alike_trailers (hinner : Alike Expr.bare inner inner) (line line' : Nat) :
    ∀ (n : Nat) {e e' : Expr}, e.bare = e'.bare →
      Alike Expr.bare (trailers inner line n e) (trailers inner line' n e')
  | 0, _, _, _ => alike_refuse
  | n + 1, e, e', he => by
    unfold trailers
    refine alike_accept_bind _ rfl ?_
      (alike_accept_bind _ rfl ?_ (alike_accept_bind _ rfl ?_ (.pure he)))
    · refine alike_peek_bind fun kind depth _ _ last last' => ?_
      cases kind with
      | name id =>
        exact alike_advance.andThen fun _ => alike_trailers hinner line line' n
          (congrArg (Expr.attribute 0 0 · id) he)
      | _ => exact alike_refuse
    · refine (alike_arguments hinner (n + 1) rfl).bind fun args args' hargs => ?_
      refine alike_trailers hinner line line' n ?_
      obtain ⟨hpositional, hkeywords⟩ := Prod.mk.inj hargs
      obtain ⟨hwords, hvalues⟩ := halves_of_map_bareSnd hkeywords
      show Expr.call 0 e.bare (Expr.bareAll args.positional) (args.keywords.map Prod.fst)
          (Expr.bareAll (args.keywords.map Prod.snd)) =
        Expr.call 0 e'.bare (Expr.bareAll args'.positional) (args'.keywords.map Prod.fst)
          (Expr.bareAll (args'.keywords.map Prod.snd))
      rw [he, hpositional, hwords, hvalues]
    · refine alike_peek_bind fun kind depth _ _ last last' => ?_
      refine (alike_sees _).andThen fun _ => ?_
      refine .ite (refuse_refuse.bind _ _).alike ?_
      refine (alike_items (alike_indexOrSlice hinner) _ rfl _).bind fun x y hxy => ?_
      exact alike_trailers hinner line line' n
        (congrArg₂ (Expr.subscript 0) he (bare_ofItems _ _ hxy))

/-! ## Operators -/

theorem alike_factor (hinner : Alike Expr.bare inner inner)
    (hoperand : Alike Expr.bare operand operand) :
    ∀ n, Alike Expr.bare (factor inner operand n) (factor inner operand n)
  | 0 => alike_refuse
  | n + 1 => by
    have ih := alike_factor hinner hoperand n
    unfold factor
    refine alike_peek_bind fun kind depth line line' last last' => ?_
    refine alike_accept_bind _ rfl ?_ (alike_accept_bind _ rfl ?_ ?_)
    · exact ih.bind fun _ _ he => .pure (congrArg (Expr.unary 0 .negative) he)
    · exact ih.bind fun _ _ he => .pure (congrArg (Expr.unary 0 .positive) he)
    · refine (alike_atom hinner hoperand (n + 1)).bind fun e e' he => ?_
      refine (alike_trailers hinner line line' (n + 1) he).bind fun base base' hbase => ?_
      exact alike_accept_bind _ rfl
        (ih.bind fun _ _ he => .pure (congrArg₂ (Expr.binary 0 .pow) hbase he)) (.pure hbase)

theorem alike_leftGrouped (ops : List (String × BinaryOp))
    (hoperand : Alike Expr.bare operand operand) (line line' : Nat) :
    ∀ (n : Nat) {left left' : Expr}, left.bare = left'.bare →
      Alike Expr.bare (leftGrouped ops operand line n left) (leftGrouped ops operand line' n left')
  | 0, _, _, _ => alike_refuse
  | n + 1, left, left', h => by
    unfold leftGrouped
    refine alike_peek_bind fun kind depth _ _ last last' => ?_
    dsimp only
    cases ops.find? fun op => symbol op.1 == kind with
    | none => exact .pure h
    | some op =>
      exact alike_advance.andThen fun _ => hoperand.bind fun _ _ he =>
        alike_leftGrouped ops hoperand line line' n (congrArg₂ (Expr.binary 0 op.2) h he)

theorem alike_term (hinner : Alike Expr.bare inner inner)
    (hoperand : Alike Expr.bare operand operand) (n : Nat) :
    Alike Expr.bare (term inner operand n) (term inner operand n) :=
  alike_peek_bind fun _ _ line line' _ _ => (alike_factor hinner hoperand n).bind fun _ _ he =>
    alike_leftGrouped _ (alike_factor hinner hoperand n) line line' n he

theorem alike_sum (hinner : Alike Expr.bare inner inner)
    (hoperand : Alike Expr.bare operand operand) (n : Nat) :
    Alike Expr.bare (sum inner operand n) (sum inner operand n) :=
  alike_peek_bind fun _ _ line line' _ _ => (alike_term hinner hoperand n).bind fun _ _ he =>
    alike_leftGrouped _ (alike_term hinner hoperand n) line line' n he

theorem alike_comparison? : Alike id comparison? comparison? := by
  unfold comparison?
  refine alike_peek_bind fun kind depth line line' last last' => ?_
  extract_lets simple
  cases simple.find? fun op => symbol op.1 == kind with
  | some op => exact alike_advance.andThen fun _ => alike_pure _
  | none =>
    refine alike_accept_bind _ rfl (alike_pure _) (alike_accept_bind _ rfl ?_ ?_)
    · exact alike_accept_bind _ rfl (alike_pure _) (alike_pure _)
    · refine .ite ?_ (alike_pure _)
      have hisIn : Alike id (advance >>= fun _ => expect (word "in"))
          (advance >>= fun _ => expect (word "in")) :=
        alike_advance.andThen fun _ => alike_expect _ rfl
      refine (alike_follows hisIn).andThen fun _ => .ite ?_ (alike_pure _)
      exact alike_advance.andThen fun _ => alike_advance.andThen fun _ => alike_pure _

theorem alike_comparisons (hoperand : Alike Expr.bare operand operand) :
    ∀ n, Alike (List.map bareSnd) (comparisons operand n) (comparisons operand n)
  | 0 => alike_refuse
  | n + 1 => by
    unfold comparisons
    refine alike_comparison?.andThen fun op? => ?_
    cases op? with
    | none => exact .pure rfl
    | some op =>
      exact hoperand.bind fun _ _ he => (alike_comparisons hoperand n).bind fun _ _ hrest =>
        .pure (congrArg₂ (fun e rest => (op, e) :: rest) he hrest)

theorem alike_inversion (hoperand : Alike Expr.bare operand operand) :
    ∀ n, Alike Expr.bare (inversion operand n) (inversion operand n)
  | 0 => alike_refuse
  | n + 1 => by
    unfold inversion
    refine alike_peek_bind fun kind depth line line' last last' => ?_
    refine alike_accept_bind _ rfl ?_ ?_
    · exact (alike_inversion hoperand n).bind fun _ _ he => .pure (congrArg (Expr.unary 0 .not) he)
    · refine hoperand.bind fun left left' hleft => ?_
      refine (alike_comparisons hoperand (n + 1)).bind fun chain chain' hchain => ?_
      cases chain with
      | nil =>
        obtain rfl := List.map_eq_nil_iff.mp hchain.symm
        exact .pure hleft
      | cons step chain =>
        obtain ⟨step', chain', rfl, hstep, hrest⟩ := List.map_eq_cons_iff.mp hchain.symm
        obtain ⟨hops, hvalues⟩ := halves_of_map_bareSnd hchain
        have hcompare := congr (congrArg₂ (Expr.compare 0) hleft hops) hvalues
        exact .pure hcompare

theorem alike_chained (between : TokenKind) (hbetween : between.isMark = false)
    (hoperand : Alike Expr.bare operand operand) :
    ∀ n, Alike Expr.bareAll (chained between operand n) (chained between operand n)
  | 0 => alike_refuse
  | n + 1 => by
    unfold chained
    refine hoperand.bind fun e e' he => alike_accept_bind _ hbetween ?_ ?_
    · exact (alike_chained between hbetween hoperand n).bind fun _ _ hrest =>
        .pure (congrArg₂ List.cons he hrest)
    · exact .pure (congrArg (fun e => [e]) he)

theorem alike_junction (op : BoolOp) (between : TokenKind) (hbetween : between.isMark = false)
    (hoperand : Alike Expr.bare operand operand) (n : Nat) :
    Alike Expr.bare (junction op between operand n) (junction op between operand n) := by
  unfold junction
  refine alike_peek_bind fun kind depth line line' last last' => ?_
  refine (alike_chained between hbetween hoperand n).bind fun es es' hes => ?_
  split
  · obtain ⟨e', rfl, he⟩ := Expr.single_of_bareAll hes.symm
    exact .pure he.symm
  · rename_i hmany
    split
    · obtain ⟨e, rfl, _⟩ := Expr.single_of_bareAll hes
      exact (hmany e rfl).elim
    · exact .pure (congrArg (Expr.boolean 0 op) hes)

theorem alike_arithmetic (hinner : Alike Expr.bare inner inner) (n : Nat) :
    Alike Expr.bare (arithmetic inner n) (arithmetic inner n) :=
  alike_sum hinner (alike_sum hinner hinner n) n

theorem alike_disjunction (hinner : Alike Expr.bare inner inner) (n : Nat) :
    Alike Expr.bare (disjunction inner n) (disjunction inner n) :=
  alike_junction _ _ rfl
    (alike_junction _ _ rfl (alike_inversion (alike_arithmetic hinner n) n) n) n

theorem alike_conditional (hinner : Alike Expr.bare inner inner) (n : Nat) :
    ∀ m, Alike Expr.bare (conditional inner n m) (conditional inner n m)
  | 0 => alike_refuse
  | m + 1 => by
    have ih := alike_conditional hinner n m
    have hvalue := alike_disjunction hinner n
    unfold conditional
    refine alike_peek_bind fun kind depth line line' last last' => ?_
    refine hvalue.bind fun body body' hbody => alike_accept_bind _ rfl ?_ ?_
    · refine hvalue.bind fun test test' htest => alike_accept_bind _ rfl ?_ ?_
      · refine ih.bind fun orelse orelse' horelse => .pure ?_
        show Expr.conditional 0 test.bare body.bare orelse.bare =
          Expr.conditional 0 test'.bare body'.bare orelse'.bare
        rw [htest, hbody, horelse]
      · exact (alike_sees _).andThen fun _ => .ite alike_refuse alike_report
    · exact (alike_checkEnd ih _ _ hbody).andThen fun _ => .pure hbody

/-- **Expressions are read without lines.** -/
theorem alike_expression (n : Nat) :
    ∀ depth, Alike Expr.bare (expression n depth) (expression n depth)
  | 0 => alike_refuse
  | depth + 1 => alike_conditional (alike_expression n depth) n (n + 1)

end Stencil.Code.Parser
