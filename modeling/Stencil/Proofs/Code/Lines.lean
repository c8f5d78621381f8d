import Stencil.Code.Scope

/-!
# Renumbered code

What renumbering the lines of code does not change, and how renumberings follow one another. The
names that code binds and whether it hands out values are the same on any lines, its parts are
renumbered with it, and so are the statements inside it; two renumberings in a row are one, and
leaving the lines as they are is one that changes nothing.
-/

namespace Stencil.Code

/-! ## One renumbering after another -/

mutual

theorem Expr.mapLines_mapLines (g f : Nat → Nat) :
    (e : Expr) → (e.mapLines f).mapLines g = e.mapLines (g ∘ f)
  | .name _ _ | .constant _ _ => rfl
  | .joined _ parts => by
    simp only [Expr.mapLines, Expr.mapLinesAll_mapLinesAll g f parts, Function.comp]
  | .field _ value _ format => by
    simp only [Expr.mapLines, Expr.mapLines_mapLines g f value,
      Expr.mapLinesOption_mapLinesOption g f format, Function.comp]
  | .tuple _ items | .list _ items => by
    simp only [Expr.mapLines, Expr.mapLinesAll_mapLinesAll g f items, Function.comp]
  | .dict _ keys values => by
    simp only [Expr.mapLines, Expr.mapLinesAll_mapLinesAll g f keys,
      Expr.mapLinesAll_mapLinesAll g f values, Function.comp]
  | .attribute _ _ value _ => by
    simp only [Expr.mapLines, Expr.mapLines_mapLines g f value, Function.comp]
  | .subscript _ value index => by
    simp only [Expr.mapLines, Expr.mapLines_mapLines g f value, Expr.mapLines_mapLines g f index,
      Function.comp]
  | .slice _ lower upper step => by
    simp only [Expr.mapLines, Expr.mapLinesOption_mapLinesOption g f lower,
      Expr.mapLinesOption_mapLinesOption g f upper, Expr.mapLinesOption_mapLinesOption g f step,
      Function.comp]
  | .call _ function args _ keywordArgs => by
    simp only [Expr.mapLines, Expr.mapLines_mapLines g f function,
      Expr.mapLinesAll_mapLinesAll g f args, Expr.mapLinesAll_mapLinesAll g f keywordArgs,
      Function.comp]
  | .unary _ _ operand => by
    simp only [Expr.mapLines, Expr.mapLines_mapLines g f operand, Function.comp]
  | .binary _ _ left right => by
    simp only [Expr.mapLines, Expr.mapLines_mapLines g f left, Expr.mapLines_mapLines g f right,
      Function.comp]
  | .boolean _ _ operands => by
    simp only [Expr.mapLines, Expr.mapLinesAll_mapLinesAll g f operands, Function.comp]
  | .compare _ left _ operands => by
    simp only [Expr.mapLines, Expr.mapLines_mapLines g f left,
      Expr.mapLinesAll_mapLinesAll g f operands, Function.comp]
  | .conditional _ test body orelse => by
    simp only [Expr.mapLines, Expr.mapLines_mapLines g f test, Expr.mapLines_mapLines g f body,
      Expr.mapLines_mapLines g f orelse, Function.comp]
  | .yield _ value => by
    simp only [Expr.mapLines, Expr.mapLinesOption_mapLinesOption g f value, Function.comp]

theorem Expr.mapLinesAll_mapLinesAll (g f : Nat → Nat) :
    (es : List Expr) → Expr.mapLinesAll g (Expr.mapLinesAll f es) = Expr.mapLinesAll (g ∘ f) es
  | [] => rfl
  | e :: es => by
    rw [Expr.mapLinesAll, Expr.mapLinesAll, Expr.mapLines_mapLines g f e,
      Expr.mapLinesAll_mapLinesAll g f es, Expr.mapLinesAll]

theorem Expr.mapLinesOption_mapLinesOption (g f : Nat → Nat) :
    (e : Option Expr) →
      Expr.mapLinesOption g (Expr.mapLinesOption f e) = Expr.mapLinesOption (g ∘ f) e
  | none => rfl
  | some e => by
    rw [Expr.mapLinesOption, Expr.mapLinesOption, Expr.mapLines_mapLines g f e,
      Expr.mapLinesOption]

end

mutual

theorem Stmt.mapLines_mapLines (g f : Nat → Nat) :
    (s : Stmt) → (s.mapLines f).mapLines g = s.mapLines (g ∘ f)
  | .expr _ value => by
    simp only [Stmt.mapLines, Expr.mapLines_mapLines, Span.map, Function.comp]
  | .assign _ targets value => by
    simp only [Stmt.mapLines, Expr.mapLines_mapLines, Expr.mapLinesAll_mapLinesAll, Span.map,
      Function.comp]
  | .augment _ target _ value => by
    simp only [Stmt.mapLines, Expr.mapLines_mapLines, Span.map, Function.comp]
  | .branch _ test body orelse | .whileLoop _ test body orelse => by
    simp only [Stmt.mapLines, Expr.mapLines_mapLines, Stmt.mapLinesAll_mapLinesAll g f body,
      Stmt.mapLinesAll_mapLinesAll g f orelse, Span.map, Function.comp]
  | .forLoop _ target iterable body orelse => by
    simp only [Stmt.mapLines, Expr.mapLines_mapLines, Stmt.mapLinesAll_mapLinesAll g f body,
      Stmt.mapLinesAll_mapLinesAll g f orelse, Span.map, Function.comp]
  | .function _ _ _ defaults body => by
    simp only [Stmt.mapLines, Expr.mapLinesAll_mapLinesAll, Stmt.mapLinesAll_mapLinesAll g f body,
      Span.map, Function.comp]
  | .classDef _ _ bases body => by
    simp only [Stmt.mapLines, Expr.mapLinesAll_mapLinesAll, Stmt.mapLinesAll_mapLinesAll g f body,
      Span.map, Function.comp]
  | .ret _ value => by
    simp only [Stmt.mapLines, Expr.mapLinesOption_mapLinesOption, Span.map, Function.comp]
  | .raise _ error cause => by
    simp only [Stmt.mapLines, Expr.mapLinesOption_mapLinesOption, Span.map, Function.comp]
  | .assert _ test message => by
    simp only [Stmt.mapLines, Expr.mapLines_mapLines, Expr.mapLinesOption_mapLinesOption, Span.map,
      Function.comp]
  | .delete _ targets => by
    simp only [Stmt.mapLines, Expr.mapLinesAll_mapLinesAll, Span.map, Function.comp]
  | .pass _ | .breakLoop _ | .continueLoop _ | .importModules _ _ => rfl

theorem Stmt.mapLinesAll_mapLinesAll (g f : Nat → Nat) :
    (ss : List Stmt) → Stmt.mapLinesAll g (Stmt.mapLinesAll f ss) = Stmt.mapLinesAll (g ∘ f) ss
  | [] => rfl
  | s :: ss => by
    rw [Stmt.mapLinesAll, Stmt.mapLinesAll, Stmt.mapLines_mapLines g f s,
      Stmt.mapLinesAll_mapLinesAll g f ss, Stmt.mapLinesAll]

end

/-! ## Lines as they are -/

mutual

theorem Expr.mapLines_id : (e : Expr) → e.mapLines id = e
  | .name _ _ | .constant _ _ => rfl
  | .joined _ parts => by simp only [Expr.mapLines, Expr.mapLinesAll_id parts, id]
  | .field _ value _ format => by
    simp only [Expr.mapLines, Expr.mapLines_id value, Expr.mapLinesOption_id format, id]
  | .tuple _ items | .list _ items => by simp only [Expr.mapLines, Expr.mapLinesAll_id items, id]
  | .dict _ keys values => by
    simp only [Expr.mapLines, Expr.mapLinesAll_id keys, Expr.mapLinesAll_id values, id]
  | .attribute _ _ value _ => by simp only [Expr.mapLines, Expr.mapLines_id value, id]
  | .subscript _ value index => by
    simp only [Expr.mapLines, Expr.mapLines_id value, Expr.mapLines_id index, id]
  | .slice _ lower upper step => by
    simp only [Expr.mapLines, Expr.mapLinesOption_id lower, Expr.mapLinesOption_id upper,
      Expr.mapLinesOption_id step, id]
  | .call _ function args _ keywordArgs => by
    simp only [Expr.mapLines, Expr.mapLines_id function, Expr.mapLinesAll_id args,
      Expr.mapLinesAll_id keywordArgs, id]
  | .unary _ _ operand => by simp only [Expr.mapLines, Expr.mapLines_id operand, id]
  | .binary _ _ left right => by
    simp only [Expr.mapLines, Expr.mapLines_id left, Expr.mapLines_id right, id]
  | .boolean _ _ operands => by simp only [Expr.mapLines, Expr.mapLinesAll_id operands, id]
  | .compare _ left _ operands => by
    simp only [Expr.mapLines, Expr.mapLines_id left, Expr.mapLinesAll_id operands, id]
  | .conditional _ test body orelse => by
    simp only [Expr.mapLines, Expr.mapLines_id test, Expr.mapLines_id body,
      Expr.mapLines_id orelse, id]
  | .yield _ value => by simp only [Expr.mapLines, Expr.mapLinesOption_id value, id]

theorem Expr.mapLinesAll_id : (es : List Expr) → Expr.mapLinesAll id es = es
  | [] => rfl
  | e :: es => by rw [Expr.mapLinesAll, Expr.mapLines_id e, Expr.mapLinesAll_id es]

theorem Expr.mapLinesOption_id : (e : Option Expr) → Expr.mapLinesOption id e = e
  | none => rfl
  | some e => by rw [Expr.mapLinesOption, Expr.mapLines_id e]

end

mutual

theorem Stmt.mapLines_id : (s : Stmt) → s.mapLines id = s
  | .expr _ value => by simp only [Stmt.mapLines, Expr.mapLines_id, Span.map, id]
  | .assign _ targets value => by
    simp only [Stmt.mapLines, Expr.mapLines_id, Expr.mapLinesAll_id, Span.map, id]
  | .augment _ target _ value => by simp only [Stmt.mapLines, Expr.mapLines_id, Span.map, id]
  | .branch _ test body orelse | .whileLoop _ test body orelse => by
    simp only [Stmt.mapLines, Expr.mapLines_id, Stmt.mapLinesAll_id body,
      Stmt.mapLinesAll_id orelse, Span.map, id]
  | .forLoop _ target iterable body orelse => by
    simp only [Stmt.mapLines, Expr.mapLines_id, Stmt.mapLinesAll_id body,
      Stmt.mapLinesAll_id orelse, Span.map, id]
  | .function _ _ _ defaults body => by
    simp only [Stmt.mapLines, Expr.mapLinesAll_id, Stmt.mapLinesAll_id body, Span.map, id]
  | .classDef _ _ bases body => by
    simp only [Stmt.mapLines, Expr.mapLinesAll_id, Stmt.mapLinesAll_id body, Span.map, id]
  | .ret _ value => by simp only [Stmt.mapLines, Expr.mapLinesOption_id, Span.map, id]
  | .raise _ error cause => by simp only [Stmt.mapLines, Expr.mapLinesOption_id, Span.map, id]
  | .assert _ test message => by
    simp only [Stmt.mapLines, Expr.mapLines_id, Expr.mapLinesOption_id, Span.map, id]
  | .delete _ targets => by simp only [Stmt.mapLines, Expr.mapLinesAll_id, Span.map, id]
  | .pass _ | .breakLoop _ | .continueLoop _ | .importModules _ _ => rfl

theorem Stmt.mapLinesAll_id : (ss : List Stmt) → Stmt.mapLinesAll id ss = ss
  | [] => rfl
  | s :: ss => by rw [Stmt.mapLinesAll, Stmt.mapLines_id s, Stmt.mapLinesAll_id ss]

end

/-! ## Lists -/

theorem Expr.mapLinesAll_eq_map (f : Nat → Nat) (es : List Expr) :
    Expr.mapLinesAll f es = es.map (Expr.mapLines f) := by
  induction es with
  | nil => rfl
  | cons e es ih => rw [Expr.mapLinesAll, ih, List.map_cons]

theorem Expr.length_mapLinesAll (f : Nat → Nat) (es : List Expr) :
    (Expr.mapLinesAll f es).length = es.length := by
  rw [Expr.mapLinesAll_eq_map, List.length_map]

theorem Expr.toList_mapLinesOption (f : Nat → Nat) (e : Option Expr) :
    (Expr.mapLinesOption f e).toList = Expr.mapLinesAll f e.toList := by
  cases e <;> rfl

theorem Stmt.mapLinesAll_append (f : Nat → Nat) (ss ts : List Stmt) :
    Stmt.mapLinesAll f (ss ++ ts) = Stmt.mapLinesAll f ss ++ Stmt.mapLinesAll f ts := by
  rw [Stmt.mapLinesAll_eq_map, Stmt.mapLinesAll_eq_map, Stmt.mapLinesAll_eq_map, List.map_append]

/-! ## Bound names -/

mutual

theorem Expr.bound_mapLines (f : Nat → Nat) : (e : Expr) → (e.mapLines f).bound = e.bound
  | .tuple _ items | .list _ items => Expr.boundAll_mapLinesAll f items
  | .name _ _ | .constant _ _ | .joined _ _ | .field _ _ _ _ | .dict _ _ _ | .attribute _ _ _ _
  | .subscript _ _ _ | .slice _ _ _ _ | .call _ _ _ _ _ | .unary _ _ _ | .binary _ _ _ _
  | .boolean _ _ _ | .compare _ _ _ _ | .conditional _ _ _ _ | .yield _ _ => rfl

theorem Expr.boundAll_mapLinesAll (f : Nat → Nat) :
    (es : List Expr) → Expr.boundAll (Expr.mapLinesAll f es) = Expr.boundAll es
  | [] => rfl
  | e :: es => by
    rw [Expr.mapLinesAll, Expr.boundAll, Expr.boundAll, Expr.bound_mapLines f e,
      Expr.boundAll_mapLinesAll f es]

end

mutual

theorem Stmt.bound_mapLines (f : Nat → Nat) : (s : Stmt) → (s.mapLines f).bound = s.bound
  | .assign _ targets _ | .delete _ targets => Expr.boundAll_mapLinesAll f targets
  | .augment _ target _ _ => Expr.bound_mapLines f target
  | .branch _ _ body orelse | .whileLoop _ _ body orelse => by
    simp only [Stmt.mapLines, Stmt.bound, Stmt.boundAll_mapLinesAll f body,
      Stmt.boundAll_mapLinesAll f orelse]
  | .forLoop _ target _ body orelse => by
    simp only [Stmt.mapLines, Stmt.bound, Expr.bound_mapLines, Stmt.boundAll_mapLinesAll f body,
      Stmt.boundAll_mapLinesAll f orelse]
  | .expr _ _ | .function _ _ _ _ _ | .classDef _ _ _ _ | .ret _ _ | .raise _ _ _ | .assert _ _ _
  | .pass _ | .breakLoop _ | .continueLoop _ | .importModules _ _ => rfl

theorem Stmt.boundAll_mapLinesAll (f : Nat → Nat) :
    (ss : List Stmt) → Stmt.boundAll (Stmt.mapLinesAll f ss) = Stmt.boundAll ss
  | [] => rfl
  | s :: ss => by
    rw [Stmt.mapLinesAll, Stmt.boundAll, Stmt.boundAll, Stmt.bound_mapLines f s,
      Stmt.boundAll_mapLinesAll f ss]

end

/-! ## Expressions inside expressions -/

theorem Expr.mapLinesAll_append (f : Nat → Nat) (es ds : List Expr) :
    Expr.mapLinesAll f (es ++ ds) = Expr.mapLinesAll f es ++ Expr.mapLinesAll f ds := by
  rw [Expr.mapLinesAll_eq_map, Expr.mapLinesAll_eq_map, Expr.mapLinesAll_eq_map, List.map_append]

mutual

theorem Expr.parts_mapLines (f : Nat → Nat) :
    (e : Expr) → (e.mapLines f).parts = Expr.mapLinesAll f e.parts
  | .name _ _ | .constant _ _ => rfl
  | .joined _ parts => by
    simp only [Expr.mapLines, Expr.parts, Expr.mapLinesAll, Expr.partsAll_mapLinesAll f parts]
  | .field _ value _ format => by
    simp only [Expr.mapLines, Expr.parts, Expr.mapLinesAll, Expr.mapLinesAll_append,
      Expr.parts_mapLines f value, Expr.partsOption_mapLinesOption f format]
  | .tuple _ items | .list _ items => by
    simp only [Expr.mapLines, Expr.parts, Expr.mapLinesAll, Expr.partsAll_mapLinesAll f items]
  | .dict _ keys values => by
    simp only [Expr.mapLines, Expr.parts, Expr.mapLinesAll, Expr.mapLinesAll_append,
      Expr.partsAll_mapLinesAll f keys, Expr.partsAll_mapLinesAll f values]
  | .attribute _ _ value _ => by
    simp only [Expr.mapLines, Expr.parts, Expr.mapLinesAll, Expr.parts_mapLines f value]
  | .subscript _ value index => by
    simp only [Expr.mapLines, Expr.parts, Expr.mapLinesAll, Expr.mapLinesAll_append,
      Expr.parts_mapLines f value, Expr.parts_mapLines f index]
  | .slice _ lower upper step => by
    simp only [Expr.mapLines, Expr.parts, Expr.mapLinesAll, Expr.mapLinesAll_append,
      Expr.partsOption_mapLinesOption f lower, Expr.partsOption_mapLinesOption f upper,
      Expr.partsOption_mapLinesOption f step]
  | .call _ function args _ keywordArgs => by
    simp only [Expr.mapLines, Expr.parts, Expr.mapLinesAll, Expr.mapLinesAll_append,
      Expr.parts_mapLines f function, Expr.partsAll_mapLinesAll f args,
      Expr.partsAll_mapLinesAll f keywordArgs]
  | .unary _ _ operand => by
    simp only [Expr.mapLines, Expr.parts, Expr.mapLinesAll, Expr.parts_mapLines f operand]
  | .binary _ _ left right => by
    simp only [Expr.mapLines, Expr.parts, Expr.mapLinesAll, Expr.mapLinesAll_append,
      Expr.parts_mapLines f left, Expr.parts_mapLines f right]
  | .boolean _ _ operands => by
    simp only [Expr.mapLines, Expr.parts, Expr.mapLinesAll, Expr.partsAll_mapLinesAll f operands]
  | .compare _ left _ operands => by
    simp only [Expr.mapLines, Expr.parts, Expr.mapLinesAll, Expr.mapLinesAll_append,
      Expr.parts_mapLines f left, Expr.partsAll_mapLinesAll f operands]
  | .conditional _ test body orelse => by
    simp only [Expr.mapLines, Expr.parts, Expr.mapLinesAll, Expr.mapLinesAll_append,
      Expr.parts_mapLines f test, Expr.parts_mapLines f body, Expr.parts_mapLines f orelse]
  | .yield _ value => by
    simp only [Expr.mapLines, Expr.parts, Expr.mapLinesAll, Expr.partsOption_mapLinesOption f value]

theorem Expr.partsAll_mapLinesAll (f : Nat → Nat) :
    (es : List Expr) →
      Expr.partsAll (Expr.mapLinesAll f es) = Expr.mapLinesAll f (Expr.partsAll es)
  | [] => rfl
  | e :: es => by
    rw [Expr.mapLinesAll, Expr.partsAll, Expr.partsAll, Expr.mapLinesAll_append,
      Expr.parts_mapLines f e, Expr.partsAll_mapLinesAll f es]

theorem Expr.partsOption_mapLinesOption (f : Nat → Nat) :
    (e : Option Expr) →
      Expr.partsOption (Expr.mapLinesOption f e) = Expr.mapLinesAll f (Expr.partsOption e)
  | none => rfl
  | some e => Expr.parts_mapLines f e

end

/-! ## Handing out values -/

theorem Expr.any_mapLinesAll (f : Nat → Nat) (es : List Expr) :
    (Expr.mapLinesAll f es).any Expr.isYield = es.any Expr.isYield := by
  have hyield (e : Expr) : (e.mapLines f).isYield = e.isYield := by cases e <;> rfl
  rw [Expr.mapLinesAll_eq_map, List.any_map]
  simp only [Function.comp_def, hyield]

theorem Stmt.expressions_mapLines (f : Nat → Nat) (s : Stmt) :
    (s.mapLines f).expressions = Expr.mapLinesAll f s.expressions := by
  cases s with
  | ret span value => exact Expr.toList_mapLinesOption f value
  | raise span error cause =>
    simp only [Stmt.mapLines, Stmt.expressions, Expr.toList_mapLinesOption,
      Expr.mapLinesAll_eq_map, List.map_append]
  | assert span test message =>
    simp only [Stmt.mapLines, Stmt.expressions, Expr.toList_mapLinesOption, Expr.mapLinesAll]
  | _ => rfl

theorem Stmt.any_expressions_mapLines (f : Nat → Nat) (s : Stmt) :
    (Expr.partsAll (s.mapLines f).expressions).any Expr.isYield =
      (Expr.partsAll s.expressions).any Expr.isYield := by
  rw [Stmt.expressions_mapLines, Expr.partsAll_mapLinesAll, Expr.any_mapLinesAll]

mutual

theorem Stmt.yields_mapLines (f : Nat → Nat) : (s : Stmt) → (s.mapLines f).yields = s.yields
  | .branch _ test body orelse | .whileLoop _ test body orelse => by
    simp only [Stmt.mapLines, Stmt.yields, Expr.parts_mapLines, Expr.any_mapLinesAll,
      Stmt.yieldsAny_mapLinesAll f body, Stmt.yieldsAny_mapLinesAll f orelse]
  | .forLoop _ target iterable body orelse => by
    simp only [Stmt.mapLines, Stmt.yields, Expr.parts_mapLines, Expr.any_mapLinesAll,
      Stmt.yieldsAny_mapLinesAll f body, Stmt.yieldsAny_mapLinesAll f orelse]
  | .expr span value => Stmt.any_expressions_mapLines f (.expr span value)
  | .assign span targets value => Stmt.any_expressions_mapLines f (.assign span targets value)
  | .augment span target op value =>
    Stmt.any_expressions_mapLines f (.augment span target op value)
  | .function span name params defaults body =>
    Stmt.any_expressions_mapLines f (.function span name params defaults body)
  | .classDef span name bases body =>
    Stmt.any_expressions_mapLines f (.classDef span name bases body)
  | .ret span value => Stmt.any_expressions_mapLines f (.ret span value)
  | .raise span error cause => Stmt.any_expressions_mapLines f (.raise span error cause)
  | .assert span test message => Stmt.any_expressions_mapLines f (.assert span test message)
  | .delete span targets => Stmt.any_expressions_mapLines f (.delete span targets)
  | .pass _ | .breakLoop _ | .continueLoop _ | .importModules _ _ => rfl

theorem Stmt.yieldsAny_mapLinesAll (f : Nat → Nat) :
    (ss : List Stmt) → Stmt.yieldsAny (Stmt.mapLinesAll f ss) = Stmt.yieldsAny ss
  | [] => rfl
  | s :: ss => by
    rw [Stmt.mapLinesAll, Stmt.yieldsAny, Stmt.yieldsAny, Stmt.yields_mapLines f s,
      Stmt.yieldsAny_mapLinesAll f ss]

end

/-! ## Statements inside statements -/

mutual

/-- A statement and all the statements inside it, outer ones first. -/
def Stmt.nested : Stmt → List Stmt
  | .branch span test body orelse =>
    .branch span test body orelse :: (Stmt.nestedAll body ++ Stmt.nestedAll orelse)
  | .whileLoop span test body orelse =>
    .whileLoop span test body orelse :: (Stmt.nestedAll body ++ Stmt.nestedAll orelse)
  | .forLoop span target iterable body orelse =>
    .forLoop span target iterable body orelse :: (Stmt.nestedAll body ++ Stmt.nestedAll orelse)
  | .function span name params defaults body =>
    .function span name params defaults body :: Stmt.nestedAll body
  | .classDef span name bases body => .classDef span name bases body :: Stmt.nestedAll body
  | s => [s]

/-- Several statements and all the statements inside them. -/
def Stmt.nestedAll : List Stmt → List Stmt
  | [] => []
  | s :: ss => s.nested ++ Stmt.nestedAll ss

end

mutual

theorem Stmt.nested_mapLines (f : Nat → Nat) :
    (s : Stmt) → (s.mapLines f).nested = Stmt.mapLinesAll f s.nested
  | .branch _ _ body orelse | .whileLoop _ _ body orelse | .forLoop _ _ _ body orelse => by
    simp only [Stmt.mapLines, Stmt.nested, Stmt.mapLinesAll, Stmt.mapLinesAll_append,
      Stmt.nestedAll_mapLinesAll f body, Stmt.nestedAll_mapLinesAll f orelse]
  | .function _ _ _ _ body | .classDef _ _ _ body => by
    simp only [Stmt.mapLines, Stmt.nested, Stmt.mapLinesAll, Stmt.nestedAll_mapLinesAll f body]
  | .expr _ _ | .assign _ _ _ | .augment _ _ _ _ | .ret _ _ | .raise _ _ _ | .assert _ _ _
  | .delete _ _ | .pass _ | .breakLoop _ | .continueLoop _ | .importModules _ _ => rfl

theorem Stmt.nestedAll_mapLinesAll (f : Nat → Nat) :
    (ss : List Stmt) →
      Stmt.nestedAll (Stmt.mapLinesAll f ss) = Stmt.mapLinesAll f (Stmt.nestedAll ss)
  | [] => rfl
  | s :: ss => by
    rw [Stmt.mapLinesAll, Stmt.nestedAll, Stmt.nestedAll, Stmt.mapLinesAll_append,
      Stmt.nested_mapLines f s, Stmt.nestedAll_mapLinesAll f ss]

end

end Stencil.Code
