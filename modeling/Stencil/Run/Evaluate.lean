import Stencil.Code.Scope
import Stencil.Run.Call

/-!
# Running code

What expressions and statements do to the machine. Expressions and statements are gone through by
recursion on their trees; only calls of functions that code has defined and rounds of loops can go
on without end, and both are bounded: calls by the depth to which they nest, rounds by a number in
the setting.

An error is raised on the line of the expression or statement that failed. A call of a function that
code has defined leaves the lines inside it to that function.
-/

namespace Stencil

open Code (Expr Stmt)

/-! ## Variables -/

/-- Where names are looked up and bound: at the top level, in the frame of a class, or in the frame
of a function, whose own names are known beforehand. -/
structure Scope where
  /-- The frame; there is none at the top level. -/
  frame : Option Nat
  /-- The names that a function binds. -/
  ownNames : Option (List Text)
  /-- The functions around, innermost first, with the names that they bind and their frames. -/
  outer : List (List Text × Nat)
  /-- What stands in front of the names of functions and classes defined here. -/
  qualifier : Text

/-- The scope of the top level. -/
def Scope.top : Scope := ⟨none, none, [], []⟩

/-- The functions around something that is defined in a scope. -/
def Scope.enclosing (sc : Scope) : List (List Text × Nat) :=
  match sc.frame, sc.ownNames with
  | some r, some names => (names, r) :: sc.outer
  | _, _ => sc.outer

/-- What is said of a name that is not bound. A long name is not shown in full. -/
def notDefined (name : Text) : Thrown :=
  .ofMessage "NameError" ("name '".toList ++ Codec.clip 200 name ++ "' is not defined".toList)

/-- What is said of a variable of a function that is not bound yet. -/
def notAssigned (name : Text) : Thrown :=
  .ofMessage "UnboundLocalError" ("cannot access local variable '".toList ++ name ++
    "' where it is not associated with a value".toList)

/-- What is said of a variable of a function around that is not bound yet. -/
def notAssignedOutside (name : Text) : Thrown :=
  .ofMessage "NameError" ("cannot access free variable '".toList ++ name ++
    "' where it is not associated with a value in enclosing scope".toList)

/-- The value of a name at the top level. -/
def Machine.global (m : Machine) (name : Text) : Attempt Value :=
  match (m.globals.lookup name).or (builtin? name) with
  | some v => .ok v
  | none => .error (notDefined name)

/-- The value of a name in the functions around, or at the top level. -/
def Scope.lookupOutside (sc : Scope) (m : Machine) (name : Text) : Attempt Value :=
  match sc.outer.find? (·.1.contains name) with
  | some (_, r) =>
    match (m.heap.names r).lookup name with
    | some v => .ok v
    | none => .error (notAssignedOutside name)
  | none => m.global name

/-- The value of a name. -/
def Scope.lookup (sc : Scope) (m : Machine) (name : Text) : Attempt Value :=
  if name = Code.reservedName then .ok (.bool true)
  else
    match sc.frame, sc.ownNames with
    | none, _ => m.global name
    | some r, some names =>
      if names.contains name then
        match (m.heap.names r).lookup name with
        | some v => .ok v
        | none => .error (notAssigned name)
      else sc.lookupOutside m name
    | some r, none =>
      match (m.heap.names r).lookup name with
      | some v => .ok v
      | none => sc.lookupOutside m name

/-- Binds a name in a scope. -/
def Scope.bind (sc : Scope) (name : Text) (v : Value) : Action Unit := fun m =>
  match sc.frame with
  | none => .done () { m with globals := bindName name v m.globals }
  | some r =>
    let names := bindName name v (m.heap.names r)
    .done () { m with heap := m.heap.setIfInBounds r (.frame names) }

/-- Takes away the binding of a name in a scope. -/
def Scope.unbind (sc : Scope) (line : Nat) (name : Text) : Action Unit := fun m =>
  match sc.frame with
  | none =>
    if (m.globals.lookup name).isSome then
      .done () { m with globals := unbindName name m.globals }
    else .raised (notDefined name) line m
  | some r =>
    let names := m.heap.names r
    if (names.lookup name).isSome then
      .done () { m with heap := m.heap.setIfInBounds r (.frame (unbindName name names)) }
    else .raised (if sc.ownNames.isSome then notAssigned name else notDefined name) line m

/-! ## Attributes -/

/-- What is said of a value that lacks an attribute. -/
def Heap.lacksAttribute (heap : Heap) (v : Value) (name : Text) : Thrown :=
  let what : Text :=
    match v with
    | .cls c => "type object '".toList ++ heap.className c ++ ['\x27']
    | .builtin (.module path) => "module '".toList ++ path ++ ['\x27']
    | v => '\x27' :: heap.typeName v ++ "' object".toList
  .noAttribute (what ++ " has no attribute '".toList ++ name ++ ['\x27'])

/-- What a value has under a name. -/
def Heap.attribute (heap : Heap) (v : Value) (name : Text) : Attempt Value :=
  let lacks : Attempt Value := .error (heap.lacksAttribute v name)
  match v with
  | .text _ =>
    if name = "upper".toList then .ok (.method v .upper)
    else if name = "join".toList then .ok (.method v .join)
    else lacks
  | .list _ => if name = "append".toList then .ok (.method v .append) else lacks
  | .object c args _ =>
    match heap.classAttribute? c name with
    | some (.function f) => .ok (.bound v f)
    | some w => .ok w
    | none =>
      if name = "args".toList && heap.isKind c "BaseException" then .ok (.tuple args) else lacks
  | .cls c =>
    match heap.classAttribute? c name with
    | some w => .ok w
    | none => if name = "__name__".toList then .ok (.text (heap.className c)) else lacks
  | _ => lacks

/-- Gives a value something under a name. -/
def Heap.setAttribute (heap : Heap) (v : Value) (name : Text) (w : Value) : Attempt Heap :=
  match v with
  | .cls (.defined r) =>
    match heap.class? r with
    | some c =>
      .ok (heap.setIfInBounds r (.cls { c with attributes := bindName name w c.attributes }))
    | none => .error (heap.lacksAttribute v name)
  | v => .error (heap.lacksAttribute v name)

/-! ## Operators on actions -/

/-- Several actions one after the other, with the list of what they give. -/
def inOrder {α : Type} : List (Action α) → Action (List α)
  | [] => pure []
  | x :: xs => do return (← x) :: (← inOrder xs)

/-- Operands joined by `and` or `or`: the first that decides, or the last. -/
def firstDeciding (op : Code.BoolOp) : List (Action Value) → Action Value
  | [] => pure .none
  | [x] => x
  | x :: xs => do
    let v ← x
    if (← Action.heap).truth v == (op == .or) then return v else firstDeciding op xs

/-- A chain of comparisons, given the value on its left. It is cut short where one fails. -/
def comparisonChain (line : Nat) (v : Value) : List (Code.CompareOp × Action Value) →
    Action Value
  | [] => pure (.bool true)
  | (op, x) :: rest => do
    let w ← x
    let holds ← Action.attempt line ((← Action.heap).compareValues op v w)
    match rest with
    | [] => return .bool holds
    | rest => if holds then comparisonChain line w rest else return .bool false

/-- The keys and values of a dictionary put into it one after the other. -/
def fillDict (line ref : Nat) : List (Action Value × Action Value) → Action Unit
  | [] => pure ()
  | (x, y) :: rest => do
    let k ← x
    let v ← y
    let heap ← Action.attempt line ((← Action.heap).setItem (.dict ref) k v)
    Action.setHeap heap
    fillDict line ref rest

/-- The text of a field of a formatted string. -/
def fieldText (call : Caller) (line : Nat) (conversion : Option Char) (v : Value) :
    Action Text := do
  let heap ← Action.heap
  match conversion with
  | some 'r' => return heap.written v
  | some 'a' =>
    return (heap.written v).flatMap fun c =>
      if c.toNat < 128 then [c] else Text.numericEscape c.toNat
  | _ => textOf call line heap v

/-- An operator that changes the list on its left. -/
def operateInPlace (line : Nat) (op : Code.BinaryOp) (v w : Value) : Action Value := do
  let heap ← Action.heap
  match op, v with
  | .add, .list r => do
    let more ← Action.attempt line (heap.elements w)
    Action.store r (.list (heap.items r ++ more))
    return v
  | .mul, .list r =>
    match w.whole? with
    | some n =>
      Action.store r (.list (repeated (heap.items r) n))
      return v
    | none => Action.raise line (heap.badCount w)
  | op, v => Action.onHeap line fun heap => heap.operate op (op.symbol ++ ['=']) v w

/-! ## Expressions -/

/-- The line on which the call of a function is made: that of its last name, if it is an
attribute. -/
def callLine (line : Nat) : Expr → Nat
  | .attribute _ nameLine _ _ => nameLine
  | _ => line

mutual

/-- The value of an expression. -/
def evaluate (s : Setting) (call : Caller) (sc : Scope) : Expr → Action Value
  | .name line id => do Action.attempt line (sc.lookup (← Action.state) id)
  | .constant _ value =>
    pure <|
      match value with
      | .none => .none
      | .ellipsis => .ellipsis
      | .bool b => .bool b
      | .int n => .int n
      | .float x => .float x
      | .text t => .text t
      | .bytes bs => .bytes false bs
  | .joined line parts => do
    let values ← inOrder (evaluateEach s call sc parts)
    let texts ← values.mapM (currentText call line)
    return .text texts.flatten
  | .field line value conversion _ => do
    let v ← evaluate s call sc value
    return .text (← fieldText call line conversion v)
  | .tuple _ items => do return .tuple (← inOrder (evaluateEach s call sc items))
  | .list _ items => do
    let vs ← inOrder (evaluateEach s call sc items)
    return .list (← Action.alloc (.list vs))
  | .dict line keys values => do
    let ref ← Action.alloc (.dict [])
    fillDict line ref ((evaluateEach s call sc keys).zip (evaluateEach s call sc values))
    return .dict ref
  | .attribute _ nameLine value id => do
    let v ← evaluate s call sc value
    Action.attempt nameLine ((← Action.heap).attribute v id)
  | .subscript line value index => do
    let v ← evaluate s call sc value
    let i ← evaluate s call sc index
    Action.onHeap line fun heap => heap.subscript v i
  | .slice _ lower upper step => do
    let a ← evaluateOption s call sc lower
    let b ← evaluateOption s call sc upper
    let c ← evaluateOption s call sc step
    return .slice a b c
  | .call line function args keywords keywordArgs => do
    let f ← evaluate s call sc function
    let vs ← inOrder (evaluateEach s call sc args)
    let ws ← inOrder (evaluateEach s call sc keywordArgs)
    applyValue s call (callLine line function) f vs (keywords.zip ws)
  | .unary line op operand => do
    let v ← evaluate s call sc operand
    Action.attempt line ((← Action.heap).operateUnary op v)
  | .binary line op left right => do
    let v ← evaluate s call sc left
    let w ← evaluate s call sc right
    let spelling : Text := if op = .pow then "** or pow()".toList else op.symbol
    Action.onHeap line fun heap => heap.operate op spelling v w
  | .boolean _ op operands => firstDeciding op (evaluateEach s call sc operands)
  | .compare line left ops operands => do
    let v ← evaluate s call sc left
    comparisonChain line v (ops.zip (evaluateEach s call sc operands))
  | .conditional _ test body orelse => do
    let v ← evaluate s call sc test
    if (← Action.heap).truth v then evaluate s call sc body else evaluate s call sc orelse
  | .yield _ _ => pure .none

/-- The values of several expressions, each as an action of its own. -/
def evaluateEach (s : Setting) (call : Caller) (sc : Scope) : List Expr → List (Action Value)
  | [] => []
  | e :: es => evaluate s call sc e :: evaluateEach s call sc es

/-- The value of an expression that may be missing. -/
def evaluateOption (s : Setting) (call : Caller) (sc : Scope) : Option Expr → Action Value
  | none => pure .none
  | some e => evaluate s call sc e

end

/-- Does the value of an expression count as true? -/
def holds (s : Setting) (call : Caller) (sc : Scope) (e : Expr) : Action Bool := do
  let v ← evaluate s call sc e
  return (← Action.heap).truth v

/-! ## Targets -/

mutual

/-- Assigns a value to a target. -/
def assign (s : Setting) (call : Caller) (sc : Scope) : Expr → Value → Action Unit
  | .name _ id, v => sc.bind id v
  | .attribute _ nameLine value id, v => do
    let w ← evaluate s call sc value
    Action.setHeap (← Action.attempt nameLine ((← Action.heap).setAttribute w id v))
  | .subscript line value index, v => do
    let w ← evaluate s call sc value
    let i ← evaluate s call sc index
    Action.setHeap (← Action.attempt line ((← Action.heap).setItem w i v))
  | .tuple line items, v | .list line items, v => do
    let vs ← Action.attempt line ((← Action.heap).unpack items.length v)
    let _ ← inOrder (((assignEach s call sc items).zip vs).map fun pair => pair.1 pair.2)
    return ()
  | _, _ => pure ()

/-- Assigning to several targets, each by itself. -/
def assignEach (s : Setting) (call : Caller) (sc : Scope) :
    List Expr → List (Value → Action Unit)
  | [] => []
  | e :: es => assign s call sc e :: assignEach s call sc es

end

mutual

/-- Deletes a target. -/
def deleteTarget (s : Setting) (call : Caller) (sc : Scope) : Expr → Action Unit
  | .name line id => sc.unbind line id
  | .attribute _ nameLine value id => do
    let w ← evaluate s call sc value
    Action.raise nameLine ((← Action.heap).lacksAttribute w id)
  | .subscript line value index => do
    let w ← evaluate s call sc value
    let i ← evaluate s call sc index
    Action.setHeap (← Action.attempt line ((← Action.heap).deleteItem w i))
  | .tuple _ items | .list _ items => do
    let _ ← inOrder (deleteEach s call sc items)
    return ()
  | _ => pure ()

/-- Deleting several targets, each by itself. -/
def deleteEach (s : Setting) (call : Caller) (sc : Scope) : List Expr → List (Action Unit)
  | [] => []
  | e :: es => deleteTarget s call sc e :: deleteEach s call sc es

end

/-- Changes a target in place. The statement is on line `line`. -/
def augment (s : Setting) (call : Caller) (sc : Scope) (line : Nat) (target : Expr)
    (op : Code.BinaryOp) (value : Action Value) : Action Unit := do
  match target with
  | .name nameLine id =>
    let v ← Action.attempt nameLine (sc.lookup (← Action.state) id)
    sc.bind id (← operateInPlace line op v (← value))
  | .attribute _ nameLine e id =>
    let w ← evaluate s call sc e
    let v ← Action.attempt nameLine ((← Action.heap).attribute w id)
    let result ← operateInPlace line op v (← value)
    Action.setHeap (← Action.attempt nameLine ((← Action.heap).setAttribute w id result))
  | .subscript itemLine e index =>
    let w ← evaluate s call sc e
    let i ← evaluate s call sc index
    let v ← Action.onHeap itemLine fun heap => heap.subscript w i
    let result ← operateInPlace line op v (← value)
    Action.setHeap (← Action.attempt itemLine ((← Action.heap).setItem w i result))
  | _ => pure ()

/-! ## Definitions -/

/-- Defines a function. -/
def defineFunction (sc : Scope) (name : Text) (params : List Text) (defaults : List Value)
    (body : List Stmt) : Action Unit := do
  let ref ← Action.alloc (.function
    { name, params, defaults, body
      qualifiedName := sc.qualifier ++ name
      localNames := params ++ Stmt.boundAll body
      outer := sc.enclosing })
  sc.bind name (.function ref)

/-- The classes that the bases of a class are. -/
def baseClasses (heap : Heap) (bases : List Value) : Attempt (List ClassId) :=
  bases.mapM fun v =>
    match v with
    | .cls c => .ok c
    | v =>
      .error (.type ("a class cannot be a special case of '".toList ++ heap.typeName v ++
        "' object".toList))

/-- Defines a class whose body `body` is run in a frame of its own. -/
def defineClass (sc : Scope) (line : Nat) (name : Text) (bases : List Value)
    (body : Scope → Action Flow) : Action Flow := do
  let parents ← Action.attempt line (baseClasses (← Action.heap) bases)
  let frame ← Action.alloc (.frame [])
  let qualified := sc.qualifier ++ name
  let flow ← body
    { frame := some frame, ownNames := none, outer := sc.enclosing
      qualifier := qualified ++ ['.'] }
  let m ← Action.state
  let modulePart : Text :=
    match m.globals.lookup "__name__".toList with
    | some (.text t) => t ++ ['.']
    | _ => []
  let ref ← Action.alloc (.cls
    { name, fullName := modulePart ++ qualified, bases := parents
      attributes := m.heap.names frame })
  sc.bind name (.cls (.defined ref))
  match flow with
  | .leave v => return .leave v
  | _ => return .next

/-! ## Errors -/

/-- The error that a value raises: itself, or a new error of a class. -/
def errorOf (heap : Heap) (v : Value) : Attempt Value :=
  let refuse : Attempt Value := .error (.type "exceptions must derive from BaseException".toList)
  match v with
  | .object c _ _ => if heap.isKind c "BaseException" then .ok v else refuse
  | .cls c => if heap.isKind c "BaseException" then construct heap c [] [] else refuse
  | _ => refuse

/-- Raises an error, perhaps with a cause. -/
def raiseValue (line : Nat) (error : Option Value) (cause : Option Value) : Action Flow := do
  let heap ← Action.heap
  match error with
  | none =>
    Action.raise line (.ofMessage "RuntimeError" "No active exception to reraise".toList)
  | some v =>
    let e ← Action.attempt line (errorOf heap v)
    match cause with
    | none | some .none => Action.raise line (.error e)
    | some c =>
      match errorOf heap c with
      | .ok _ => Action.raise line (.error e)
      | .error _ =>
        Action.raise line (.type "exception causes must derive from BaseException".toList)

/-- The modules that code may import. -/
def knownModules : List Text := ["math".toList]

/-- Imports a module. -/
def importModule (sc : Scope) (line : Nat) (entry : Text × Option Text) : Action Unit :=
  if knownModules.contains entry.1 then
    sc.bind (entry.2.getD entry.1) (.builtin (.module entry.1))
  else
    Action.raise line (.ofMessage "ModuleNotFoundError"
      ("No module named '".toList ++ entry.1 ++ ['\x27']))

/-! ## Statements -/

mutual

/-- Runs a statement. -/
def execute (s : Setting) (call : Caller) (sc : Scope) : Stmt → Action Flow
  | .expr _ value => do
    let _ ← evaluate s call sc value
    return .next
  | .assign _ targets value => do
    let v ← evaluate s call sc value
    let _ ← inOrder ((assignEach s call sc targets).map fun x => x v)
    return .next
  | .augment span target op value => do
    augment s call sc span.first target op (evaluate s call sc value)
    return .next
  | .branch _ test body orelse => do
    if ← holds s call sc test then executeAll s call sc body else executeAll s call sc orelse
  | .whileLoop _ test body orelse => do
    let flow ← Action.whileTrue (holds s call sc test) (executeAll s call sc body) s.rounds
    Action.afterLoop (executeAll s call sc orelse) flow
  | .forLoop span target iterable body orelse => do
    let v ← evaluate s call sc iterable
    let iter ← Action.attempt span.first ((← Action.heap).iterate v)
    let round (v : Value) : Action Flow := do
      assign s call sc target v
      executeAll s call sc body
    let flow ← Action.forEach span.first round s.rounds iter
    Action.afterLoop (executeAll s call sc orelse) flow
  | .function _ name params defaults body => do
    let vs ← inOrder (evaluateEach s call sc defaults)
    defineFunction sc name params vs body
    return .next
  | .classDef span name bases body => do
    let vs ← inOrder (evaluateEach s call sc bases)
    defineClass sc span.first name vs fun inner => executeAll s call inner body
  | .ret _ value => do return .leave (← evaluateOption s call sc value)
  | .raise span error cause => do
    let e ← inOrder (evaluateEach s call sc error.toList)
    let c ← inOrder (evaluateEach s call sc cause.toList)
    raiseValue span.first e.head? c.head?
  | .assert span test message => do
    if ← holds s call sc test then return .next
    let args ← inOrder (evaluateEach s call sc message.toList)
    Action.raise span.first (.error (.object (.known "AssertionError".toList) args none))
  | .delete _ targets => do
    let _ ← inOrder (deleteEach s call sc targets)
    return .next
  | .pass _ => pure .next
  | .breakLoop _ => pure .break
  | .continueLoop _ => pure .continue
  | .importModules span modules => do
    modules.forM (importModule sc span.first)
    return .next

/-- Runs statements one after the other, until one of them does not lead to the next. -/
def executeAll (s : Setting) (call : Caller) (sc : Scope) : List Stmt → Action Flow
  | [] => pure .next
  | st :: rest => do
    match ← execute s call sc st with
    | .next => executeAll s call sc rest
    | flow => return flow

end

/-! ## Calls of functions -/

/-- Names with commas and an `and` between them. -/
def nameList : List Text → Text
  | [] => []
  | [a] => a
  | [a, b] => a ++ " and ".toList ++ b
  | names => Text.join ", ".toList names.dropLast ++ ", and ".toList ++ names.getLastD []

/-- What is said of too many arguments. -/
def tooManyArguments (f : FunctionCell) (given : Nat) : Thrown :=
  let most := f.params.length
  let least := most - f.defaults.length
  let wanted :=
    if f.defaults.isEmpty then Text.ofNat most
    else "from ".toList ++ Text.ofNat least ++ " to ".toList ++ Text.ofNat most
  let plural := if f.defaults.isEmpty && most == 1 then "" else "s"
  .type (f.qualifiedName ++ "() takes ".toList ++ wanted ++ " positional argument".toList ++
    plural.toList ++ " but ".toList ++ Text.ofNat given ++
    (if given = 1 then " was given" else " were given").toList)

/-- What is said of missing arguments. -/
def missingArguments (f : FunctionCell) (names : List Text) : Thrown :=
  .type (f.qualifiedName ++ "() missing ".toList ++ Text.ofNat names.length ++
    " required positional argument".toList ++ (if names.length = 1 then ": " else "s: ").toList ++
    nameList (names.map fun name => '\x27' :: name ++ ['\x27']))

/-- Gives named arguments to parameters. -/
def bindNamed (f : FunctionCell) :
    List (Text × Value) → List (Text × Value) → Attempt (List (Text × Value))
  | bound, [] => .ok bound
  | bound, (k, v) :: rest =>
    if ! f.params.contains k then
      .error (.type (f.qualifiedName ++ "() got an unexpected keyword argument '".toList ++ k ++
        ['\x27']))
    else if (bound.lookup k).isSome then
      .error (.type (f.qualifiedName ++ "() got multiple values for argument '".toList ++ k ++
        ['\x27']))
    else bindNamed f ((k, v) :: bound) rest

/-- The variables that a function starts with. -/
def bindParameters (f : FunctionCell) (args : List Value) (named : List (Text × Value)) :
    Attempt (List (Text × Value)) := do
  let bound ← bindNamed f (f.params.zip args) named
  if f.params.length < args.length then throw (tooManyArguments f args.length)
  let bare := f.params.length - f.defaults.length
  let missing := (f.params.take bare).filter fun name => (bound.lookup name).isNone
  if ! missing.isEmpty then throw (missingArguments f missing)
  let given := (f.params.drop bare).zip f.defaults
  return bound ++ given.filter fun entry => (bound.lookup entry.1).isNone

/-- Calls a function that code has defined; `depth` bounds how deep calls may nest from here. -/
def callFunction (s : Setting) : (depth : Nat) → Caller
  | 0, line, _, _, _ =>
    Action.raise line (.ofMessage "RecursionError" "maximum recursion depth exceeded".toList)
  | depth + 1, line, ref, args, named => do
    match (← Action.heap).function? ref with
    | none => return .none
    | some f =>
      let names ← Action.attempt line (bindParameters f args named)
      if Stmt.yieldsAny f.body then return .builtin .generator
      let frame ← Action.alloc (.frame names)
      let sc : Scope :=
        { frame := some frame, ownNames := some f.localNames, outer := f.outer
          qualifier := f.qualifiedName ++ ".<locals>.".toList }
      match ← executeAll s (callFunction s depth) sc f.body with
      | .leave v => return v
      | _ => return .none

/-- How deep calls may nest. -/
def callDepth : Nat := 990

/-- Calls a function from the top level. -/
def callTop (s : Setting) : Caller := callFunction s callDepth

/-- Runs the statements of a script. -/
def runScript (s : Setting) (body : List Stmt) : Action Flow :=
  executeAll s (callTop s) .top body

end Stencil
