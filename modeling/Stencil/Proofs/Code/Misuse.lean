import Stencil.Proofs.Code.Lines

/-!
# Misplaced code on other lines

What is wrong with code does not depend on the lines that it stands on: renumbering the code
renumbers the lines on which faults are found, and nothing else. And what is misplaced in a script
is misplaced in one of the parts that the script is put together from.

* `moduleMisuse?_mapLinesAll`: the faults of renumbered code.
* `exists_moduleMisuse?_of_flatten`: the faults of code put together.
-/

namespace Stencil.Code

/-- Renumbers the line that something misplaced is found on. -/
def Misuse.mapLines (f : Nat → Nat) : Misuse → Misuse
  | .constantName name => .constantName name
  | .misplaced message line => .misplaced message (f line)

theorem map_misplaced (f : Nat → Nat) (message : Text) (line? : Option Nat) :
    (line?.map f).map (Misuse.misplaced message) =
      (line?.map (Misuse.misplaced message)).map (Misuse.mapLines f) := by
  cases line? <;> rfl

/-! ## Names -/

theorem firstRepeated?_map (f : Nat → Nat) (ts : List (Text × Nat)) :
    firstRepeated? (ts.map (Prod.map id f)) = (firstRepeated? ts).map (Prod.map id f) := by
  induction ts with
  | nil => rfl
  | cons t ts ih =>
    have hfind : (ts.map (Prod.map id f)).find? (·.1 == t.1) =
        (ts.find? (·.1 == t.1)).map (Prod.map id f) := List.find?_map
    rw [List.map_cons]
    show ((ts.map (Prod.map id f)).find? (·.1 == t.1)).or _ = _
    rw [hfind, ih, ← Option.map_or]
    rfl

theorem reservedAmong?_map (f : Nat → Nat) (line : Nat) (names : List Text) :
    reservedAmong? (f line) names = (reservedAmong? line names).map (Misuse.mapLines f) := by
  rw [reservedAmong?, reservedAmong?]
  split <;> rfl

/-! ## Expressions -/

theorem Expr.line_mapLines (f : Nat → Nat) (e : Expr) : (e.mapLines f).line = f e.line := by
  cases e <;> rfl

theorem Expr.constantName?_mapLines (f : Nat → Nat) (e : Expr) :
    (e.mapLines f).constantName? = e.constantName? := by
  cases e <;> rfl

theorem Expr.findSome?_constantName?_mapLinesAll (f : Nat → Nat) (es : List Expr) :
    (Expr.mapLinesAll f es).findSome? Expr.constantName? = es.findSome? Expr.constantName? := by
  rw [Expr.mapLinesAll_eq_map, List.findSome?_map]
  congr 1
  funext e
  exact Expr.constantName?_mapLines f e

theorem Expr.misuse?_mapLines (f : Nat → Nat) (inFunction : Bool) (e : Expr) :
    (e.mapLines f).misuse? inFunction = (e.misuse? inFunction).map (Misuse.mapLines f) := by
  cases e with
  | yield line value => cases inFunction <;> rfl
  | call line function args keywords keywordArgs =>
    have hlines : (Expr.mapLinesAll f keywordArgs).map Expr.line =
        (keywordArgs.map Expr.line).map f := by
      rw [Expr.mapLinesAll_eq_map, List.map_map, List.map_map]
      exact List.map_congr_left fun e _ => Expr.line_mapLines f e
    rw [Expr.mapLines, Expr.misuse?, Expr.misuse?, hlines, List.zip_map_right, firstRepeated?_map]
    split
    · rfl
    · rw [Option.map_map, Option.map_map]
      rfl
  | _ => rfl

theorem Expr.misuseIn?_mapLinesAll (f : Nat → Nat) (inFunction : Bool) (es : List Expr) :
    Expr.misuseIn? inFunction (Expr.mapLinesAll f es) =
      (Expr.misuseIn? inFunction es).map (Misuse.mapLines f) := by
  rw [Expr.misuseIn?, Expr.misuseIn?, Expr.partsAll_mapLinesAll, Expr.mapLinesAll_eq_map,
    List.findSome?_map, List.map_findSome?]
  congr 1
  funext e
  exact Expr.misuse?_mapLines f inFunction e

mutual

theorem Expr.reservedLine?_mapLines (f : Nat → Nat) (attributes : Bool) :
    (e : Expr) → (e.mapLines f).reservedLine? attributes = (e.reservedLine? attributes).map f
  | .tuple _ items | .list _ items => Expr.reservedLineIn?_mapLinesAll f attributes items
  | .name _ _ | .attribute _ _ _ _ => by
    rw [Expr.mapLines, Expr.reservedLine?, Expr.reservedLine?]
    split <;> rfl
  | .constant _ _ | .joined _ _ | .field _ _ _ _ | .dict _ _ _ | .subscript _ _ _ | .slice _ _ _ _
  | .call _ _ _ _ _ | .unary _ _ _ | .binary _ _ _ _ | .boolean _ _ _ | .compare _ _ _ _
  | .conditional _ _ _ _ | .yield _ _ => rfl

theorem Expr.reservedLineIn?_mapLinesAll (f : Nat → Nat) (attributes : Bool) :
    (es : List Expr) → Expr.reservedLineIn? attributes (Expr.mapLinesAll f es) =
      (Expr.reservedLineIn? attributes es).map f
  | [] => rfl
  | e :: es => by
    rw [Expr.mapLinesAll, Expr.reservedLineIn?, Expr.reservedLineIn?, Option.map_or,
      Expr.reservedLine?_mapLines f attributes e, Expr.reservedLineIn?_mapLinesAll f attributes es]

end

/-! ## Statements -/

theorem Stmt.findSome?_expressions_mapLines (f : Nat → Nat) (s : Stmt) :
    (Expr.partsAll (s.mapLines f).expressions).findSome? Expr.constantName? =
      (Expr.partsAll s.expressions).findSome? Expr.constantName? := by
  rw [Stmt.expressions_mapLines, Expr.partsAll_mapLinesAll,
    Expr.findSome?_constantName?_mapLinesAll]

theorem Stmt.reserved?_mapLines (f : Nat → Nat) (s : Stmt) :
    (s.mapLines f).reserved? = s.reserved?.map (Misuse.mapLines f) := by
  cases s with
  | assign span targets value =>
    rw [Stmt.mapLines, Stmt.reserved?, Stmt.reserved?, Expr.reservedLineIn?_mapLinesAll]
    exact map_misplaced f _ _
  | augment span target op value =>
    rw [Stmt.mapLines, Stmt.reserved?, Stmt.reserved?, Expr.reservedLine?_mapLines]
    exact map_misplaced f _ _
  | delete span targets =>
    rw [Stmt.mapLines, Stmt.reserved?, Stmt.reserved?, Expr.reservedLineIn?_mapLinesAll]
    exact map_misplaced f _ _
  | importModules span modules => exact reservedAmong?_map f span.first _
  | _ => rfl

mutual

theorem Stmt.constantName?_mapLines (f : Nat → Nat) :
    (s : Stmt) → (s.mapLines f).constantName? = s.constantName?
  | .branch _ _ body orelse | .whileLoop _ _ body orelse => by
    simp only [Stmt.mapLines, Stmt.constantName?, Expr.parts_mapLines,
      Expr.findSome?_constantName?_mapLinesAll, Stmt.constantNameIn?_mapLinesAll f body,
      Stmt.constantNameIn?_mapLinesAll f orelse]
  | .forLoop _ _ _ body orelse => by
    simp only [Stmt.mapLines, Stmt.constantName?, Expr.parts_mapLines, ← Expr.mapLinesAll_append,
      Expr.findSome?_constantName?_mapLinesAll, Stmt.constantNameIn?_mapLinesAll f body,
      Stmt.constantNameIn?_mapLinesAll f orelse]
  | .function _ _ _ _ body | .classDef _ _ _ body => by
    simp only [Stmt.mapLines, Stmt.constantName?, Expr.partsAll_mapLinesAll,
      Expr.findSome?_constantName?_mapLinesAll, Stmt.constantNameIn?_mapLinesAll f body]
  | .expr span value => Stmt.findSome?_expressions_mapLines f (.expr span value)
  | .assign span targets value => Stmt.findSome?_expressions_mapLines f (.assign span targets value)
  | .augment span target op value => Stmt.findSome?_expressions_mapLines f (.augment span target op value)
  | .ret span value => Stmt.findSome?_expressions_mapLines f (.ret span value)
  | .raise span error cause => Stmt.findSome?_expressions_mapLines f (.raise span error cause)
  | .assert span test message => Stmt.findSome?_expressions_mapLines f (.assert span test message)
  | .delete span targets => Stmt.findSome?_expressions_mapLines f (.delete span targets)
  | .pass _ | .breakLoop _ | .continueLoop _ | .importModules _ _ => rfl

theorem Stmt.constantNameIn?_mapLinesAll (f : Nat → Nat) :
    (ss : List Stmt) → Stmt.constantNameIn? (Stmt.mapLinesAll f ss) = Stmt.constantNameIn? ss
  | [] => rfl
  | s :: ss => by
    rw [Stmt.mapLinesAll, Stmt.constantNameIn?, Stmt.constantNameIn?,
      Stmt.constantName?_mapLines f s, Stmt.constantNameIn?_mapLinesAll f ss]

end

mutual

theorem Stmt.repeatedParam?_mapLines (f : Nat → Nat) :
    (s : Stmt) → (s.mapLines f).repeatedParam? = s.repeatedParam?.map (Misuse.mapLines f)
  | .branch _ _ body orelse | .whileLoop _ _ body orelse | .forLoop _ _ _ body orelse => by
    simp only [Stmt.mapLines, Stmt.repeatedParam?, Option.map_or,
      Stmt.repeatedParamIn?_mapLinesAll f body, Stmt.repeatedParamIn?_mapLinesAll f orelse]
  | .function span _ params _ body => by
    have hparams : (params.map fun p => (p, f span.first)) =
        (params.map fun p => (p, span.first)).map (Prod.map id f) := by
      rw [List.map_map]
      rfl
    simp only [Stmt.mapLines, Stmt.repeatedParam?, Span.map, hparams, firstRepeated?_map,
      Option.map_or, Option.map_map, Stmt.repeatedParamIn?_mapLinesAll f body]
    rfl
  | .classDef _ _ _ body => Stmt.repeatedParamIn?_mapLinesAll f body
  | .expr _ _ | .assign _ _ _ | .augment _ _ _ _ | .ret _ _ | .raise _ _ _ | .assert _ _ _
  | .delete _ _ | .pass _ | .breakLoop _ | .continueLoop _ | .importModules _ _ => rfl

theorem Stmt.repeatedParamIn?_mapLinesAll (f : Nat → Nat) :
    (ss : List Stmt) → Stmt.repeatedParamIn? (Stmt.mapLinesAll f ss) =
      (Stmt.repeatedParamIn? ss).map (Misuse.mapLines f)
  | [] => rfl
  | s :: ss => by
    rw [Stmt.mapLinesAll, Stmt.repeatedParamIn?, Stmt.repeatedParamIn?, Option.map_or,
      Stmt.repeatedParam?_mapLines f s, Stmt.repeatedParamIn?_mapLinesAll f ss]

end

/-- The faults of a statement without statements inside. -/
theorem Stmt.misuseIn?_or_reserved?_mapLines (f : Nat → Nat) (inFunction : Bool) (s : Stmt) :
    (Expr.misuseIn? inFunction (s.mapLines f).expressions).or (s.mapLines f).reserved? =
      ((Expr.misuseIn? inFunction s.expressions).or s.reserved?).map (Misuse.mapLines f) := by
  rw [Stmt.expressions_mapLines, Expr.misuseIn?_mapLinesAll, Stmt.reserved?_mapLines,
    Option.map_or]

mutual

theorem Stmt.misuse?_mapLines (f : Nat → Nat) (inFunction inLoop : Bool) :
    (s : Stmt) → (s.mapLines f).misuse? inFunction inLoop =
      (s.misuse? inFunction inLoop).map (Misuse.mapLines f)
  | .branch _ test body orelse => by
    have htest := Expr.misuseIn?_mapLinesAll f inFunction [test]
    simp only [Stmt.mapLines, Stmt.misuse?, Option.map_or, ← htest, Expr.mapLinesAll,
      Stmt.misuseIn?_mapLinesAll f inFunction inLoop body,
      Stmt.misuseIn?_mapLinesAll f inFunction inLoop orelse]
  | .whileLoop _ test body orelse => by
    have htest := Expr.misuseIn?_mapLinesAll f inFunction [test]
    simp only [Stmt.mapLines, Stmt.misuse?, Option.map_or, ← htest, Expr.mapLinesAll,
      Stmt.misuseIn?_mapLinesAll f inFunction true body,
      Stmt.misuseIn?_mapLinesAll f inFunction inLoop orelse]
  | .forLoop _ target iterable body orelse => by
    have hhead := Expr.misuseIn?_mapLinesAll f inFunction [iterable, target]
    have htarget : ((target.mapLines f).reservedLine? true).map reservedMisuse =
        ((target.reservedLine? true).map reservedMisuse).map (Misuse.mapLines f) := by
      rw [Expr.reservedLine?_mapLines]
      exact map_misplaced f _ _
    simp only [Stmt.mapLines, Stmt.misuse?, Option.map_or, ← hhead, htarget, Expr.mapLinesAll,
      Stmt.misuseIn?_mapLinesAll f inFunction true body,
      Stmt.misuseIn?_mapLinesAll f inFunction inLoop orelse]
  | .function span name params defaults body => by
    simp only [Stmt.mapLines, Stmt.misuse?, Span.map, Option.map_or, reservedAmong?_map,
      Expr.misuseIn?_mapLinesAll, Stmt.misuseIn?_mapLinesAll f true false body]
  | .classDef span name bases body => by
    simp only [Stmt.mapLines, Stmt.misuse?, Span.map, Option.map_or, reservedAmong?_map,
      Expr.misuseIn?_mapLinesAll, Stmt.misuseIn?_mapLinesAll f false false body]
  | .ret span value => by
    have hvalue := Expr.misuseIn?_mapLinesAll f inFunction value.toList
    rw [Stmt.mapLines, Stmt.misuse?, Stmt.misuse?, Expr.toList_mapLinesOption, hvalue]
    split <;> rfl
  | .breakLoop _ | .continueLoop _ => by cases inLoop <;> rfl
  | .expr span value => Stmt.misuseIn?_or_reserved?_mapLines f inFunction (.expr span value)
  | .assign span targets value =>
    Stmt.misuseIn?_or_reserved?_mapLines f inFunction (.assign span targets value)
  | .augment span target op value =>
    Stmt.misuseIn?_or_reserved?_mapLines f inFunction (.augment span target op value)
  | .raise span error cause =>
    Stmt.misuseIn?_or_reserved?_mapLines f inFunction (.raise span error cause)
  | .assert span test message =>
    Stmt.misuseIn?_or_reserved?_mapLines f inFunction (.assert span test message)
  | .delete span targets =>
    Stmt.misuseIn?_or_reserved?_mapLines f inFunction (.delete span targets)
  | .pass span => Stmt.misuseIn?_or_reserved?_mapLines f inFunction (.pass span)
  | .importModules span modules =>
    Stmt.misuseIn?_or_reserved?_mapLines f inFunction (.importModules span modules)

theorem Stmt.misuseIn?_mapLinesAll (f : Nat → Nat) (inFunction inLoop : Bool) :
    (ss : List Stmt) → Stmt.misuseIn? inFunction inLoop (Stmt.mapLinesAll f ss) =
      (Stmt.misuseIn? inFunction inLoop ss).map (Misuse.mapLines f)
  | [] => rfl
  | s :: ss => by
    rw [Stmt.mapLinesAll, Stmt.misuseIn?, Stmt.misuseIn?, Option.map_or,
      Stmt.misuse?_mapLines f inFunction inLoop s,
      Stmt.misuseIn?_mapLinesAll f inFunction inLoop ss]

end

/-- **Faults move with the lines of the code.** -/
theorem moduleMisuse?_mapLinesAll (f : Nat → Nat) (ss : List Stmt) :
    moduleMisuse? (Stmt.mapLinesAll f ss) = (moduleMisuse? ss).map (Misuse.mapLines f) := by
  rw [moduleMisuse?, moduleMisuse?, Stmt.constantNameIn?_mapLinesAll,
    Stmt.repeatedParamIn?_mapLinesAll, Stmt.misuseIn?_mapLinesAll, Option.map_or, Option.map_or,
    Option.map_map]
  rfl

/-! ## Code put together -/

theorem Stmt.constantNameIn?_append (ss ts : List Stmt) :
    Stmt.constantNameIn? (ss ++ ts) = (Stmt.constantNameIn? ss).or (Stmt.constantNameIn? ts) := by
  induction ss with
  | nil => rfl
  | cons st ss ih =>
    rw [List.cons_append, Stmt.constantNameIn?, Stmt.constantNameIn?, ih, Option.or_assoc]

theorem Stmt.repeatedParamIn?_append (ss ts : List Stmt) :
    Stmt.repeatedParamIn? (ss ++ ts) =
      (Stmt.repeatedParamIn? ss).or (Stmt.repeatedParamIn? ts) := by
  induction ss with
  | nil => rfl
  | cons st ss ih =>
    rw [List.cons_append, Stmt.repeatedParamIn?, Stmt.repeatedParamIn?, ih, Option.or_assoc]

theorem Stmt.misuseIn?_append (inFunction inLoop : Bool) (ss ts : List Stmt) :
    Stmt.misuseIn? inFunction inLoop (ss ++ ts) =
      (Stmt.misuseIn? inFunction inLoop ss).or (Stmt.misuseIn? inFunction inLoop ts) := by
  induction ss with
  | nil => rfl
  | cons st ss ih =>
    rw [List.cons_append, Stmt.misuseIn?, Stmt.misuseIn?, ih, Option.or_assoc]

/-- What is misplaced in a script is misplaced in one of two parts. A name of a constant in either of
them would have been found before. -/
theorem moduleMisuse?_of_append {ss ts : List Stmt} {message : Text} {line : Nat}
    (h : moduleMisuse? (ss ++ ts) = some (.misplaced message line)) :
    moduleMisuse? ss = some (.misplaced message line) ∨
      moduleMisuse? ts = some (.misplaced message line) := by
  rw [moduleMisuse?, Stmt.constantNameIn?_append, Stmt.repeatedParamIn?_append,
    Stmt.misuseIn?_append] at h
  rw [moduleMisuse?, moduleMisuse?]
  cases hss : Stmt.constantNameIn? ss with
  | some name => simp [hss] at h
  | none =>
    cases hts : Stmt.constantNameIn? ts with
    | some name => simp [hss, hts] at h
    | none =>
      simp only [hss, hts, Option.or_none, Option.map_none, Option.none_or] at h ⊢
      cases hparam : Stmt.repeatedParamIn? ss with
      | some misuse => exact .inl (by simpa [hparam] using h)
      | none =>
        cases hparam' : Stmt.repeatedParamIn? ts with
        | some misuse => exact .inr (by simpa [hparam, hparam'] using h)
        | none =>
          simp only [hparam, hparam', Option.none_or] at h ⊢
          exact Option.or_eq_some_iff.mp h |>.imp_right And.right

theorem exists_moduleMisuse?_of_flatten {parts : List (List Stmt)} {message : Text} {line : Nat}
    (h : moduleMisuse? parts.flatten = some (.misplaced message line)) :
    ∃ part ∈ parts, moduleMisuse? part = some (.misplaced message line) := by
  induction parts with
  | nil => cases h
  | cons part parts ih =>
    rw [List.flatten_cons] at h
    rcases moduleMisuse?_of_append h with hpart | hparts
    · exact ⟨part, List.mem_cons_self, hpart⟩
    · obtain ⟨part', hmem, hpart'⟩ := ih hparts
      exact ⟨part', List.mem_cons_of_mem part hmem, hpart'⟩

end Stencil.Code
