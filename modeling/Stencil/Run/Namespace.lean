import Stencil.Run.Config
import Stencil.Run.Evaluate

/-!
# What code finds when it starts

The names that a run begins with: the name of its module, the variables of the caller, and the
helpers through which code writes and escapes. The helpers are bound last, so that no variable of
the caller takes the place of one.

An *executor* is what runs the statements of a script. The standard one binds the helpers of the
output and then runs them one after the other.
-/

namespace Stencil

/-- Names bound one after the other; of two under one name the later one counts. -/
def bindAll (names more : List (Text × Value)) : List (Text × Value) :=
  more.foldl (fun names entry => bindName entry.1 entry.2 names) names

/-- The names that every run has before those of the caller. -/
def ownNames (moduleName : Text) : List (Text × Value) :=
  [("__name__".toList, .text moduleName),
   ("__builtins__".toList,
    .foreign "module".toList (.ok "<module 'builtins' (built-in)>".toList))]

/-- The names of a run with the variables of the caller. -/
def newNamespace (moduleName : Text) (context : List (Text × Value)) : List (Text × Value) :=
  bindName "_escape".toList (.builtin .escape) (bindAll (ownNames moduleName) context)

/-- The helpers through which code writes. -/
def outputHelpers : List (Text × Value) :=
  [("_write".toList, .builtin .write), ("write".toList, .builtin .write),
   ("echo".toList, .builtin .echo), ("print".toList, .builtin .print)]

/-- Binds the helpers through which code writes. -/
def Action.bindOutput : Action Unit := fun m =>
  .done () { m with globals := bindAll m.globals outputHelpers }

/-- What runs a script. -/
abbrev Executor := Setting → Script → Action Unit

/-- Runs the statements of a script, with the helpers bound. -/
def Executor.standard : Executor := fun s script => do
  Action.bindOutput
  let _ ← runScript s script.body
  return ()

end Stencil
