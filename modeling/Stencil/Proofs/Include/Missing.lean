import Mathlib
import Stencil.Proofs.Files.RealPath
import Stencil.Proofs.Include.Fate
import Stencil.Proofs.Scan.Spelling

/-!
# Directives whose files are missing

A loader that searches directories looks for a file in one place after the other. If no place has
it, the directive is left out, and all else goes on as if the directive had not been there. There
is one exception: a name that is too long for the file system is an error when it is looked up, and
ends the resolution, although no file can have such a name.

* `missing_includes_are_left_out`: what becomes of a directive that names no file.
* `not_missing_includes_are_left_out_of_long_name`: a name that is too long ends the resolution.
-/

namespace Stencil

/-! ## Looking for files -/

namespace FileTree

variable {tree : FileTree} {path : Text}

/-- A path leads to a file. -/
def LeadsToFile (tree : FileTree) (path : Text) : Prop :=
  '\x00' ∉ path ∧ ∃ l bytes, tree.follow false path = .ok (.found l (.file bytes))

/-- A path is too long to be followed, or meets a name on the way that is too long. -/
def TooLong (tree : FileTree) (path : Text) : Prop :=
  '\x00' ∉ path ∧ tree.follow false path = .error .nameTooLong

theorem isFile_of_tooLong (h : tree.TooLong path) :
    tree.isFile path = .error (.path .nameTooLong path) := by
  obtain ⟨hnul, hfollow⟩ := h
  unfold isFile
  simp [hnul, hfollow]

/-- Whatever else is met on the way, there is just no file. -/
theorem isFile_of_not (hfile : ¬ tree.LeadsToFile path) (hlong : ¬ tree.TooLong path) :
    tree.isFile path = .ok false := by
  unfold isFile
  by_cases hnul : '\x00' ∈ path
  · simp [hnul]
  · rw [if_neg (by simpa using hnul)]
    cases hfollow : tree.follow false path with
    | error fault =>
      cases fault with
      | nameTooLong => exact absurd ⟨hnul, hfollow⟩ hlong
      | missing | notDirectory | isDirectory | tooManyLinks => rfl
    | ok destination =>
      cases destination with
      | vacant place => rfl
      | found place node =>
        cases node with
        | file bytes => exact absurd ⟨hnul, place, bytes, hfollow⟩ hfile
        | directory | link target => rfl

/-- **A file is found exactly where the path leads to one.** -/
theorem isFile_eq_true_iff : tree.isFile path = .ok true ↔ tree.LeadsToFile path := by
  constructor
  · intro h
    by_contra hfile
    by_cases hlong : tree.TooLong path
    · cases (isFile_of_tooLong hlong).symm.trans h
    · cases (isFile_of_not hfile hlong).symm.trans h
  · rintro ⟨hnul, l, bytes, hfollow⟩
    unfold isFile
    simp [hnul, hfollow]

/-! ## Names of permitted length -/

/-- No name is too long. -/
def ShortNames (names : List Text) : Prop :=
  ∀ name ∈ names, (Codec.utf8Bytes name).length ≤ nameLimit

/-- The links of the tree lead through names of permitted length. -/
def ShortLinks (tree : FileTree) : Prop :=
  ∀ l target, tree.get? l = some (.link target) → ShortNames (Text.split '/' target)

theorem walk_ne_nameTooLong (hlinks : tree.ShortLinks) {creating : Bool} {links : Nat}
    {l : Location} {names : List Text} (hnames : ShortNames names) :
    tree.walk creating links l names ≠ .error .nameTooLong := by
  fun_induction walk tree creating links l names with
  | case4 links l name rest _ _ ih | case5 links l rest _ _ ih =>
    exact ih fun name hname => hnames name (List.mem_cons_of_mem _ hname)
  | case7 links l name rest _ _ _ _ hlong =>
    have hshort := hnames name List.mem_cons_self
    omega
  | case11 l name rest _ _ _ _ _ target hlink links ih =>
    apply ih
    intro name' hname'
    rcases List.mem_append.mp hname' with htarget | hrest
    · exact hlinks _ target hlink name' htarget
    · exact hnames name' (List.mem_cons_of_mem _ hrest)
  | case12 links l name rest _ _ _ _ _ node _ _ ih =>
    exact ih fun name hname => hnames name (List.mem_cons_of_mem _ hname)
  | _ =>
    intro h
    cases h

/-- A path of permitted length, through names of permitted length, is not too long. -/
theorem not_tooLong (hlinks : tree.ShortLinks)
    (hlength : (Codec.utf8Bytes path).length ≤ pathLimit)
    (hnames : ShortNames (Text.split '/' path)) : ¬ tree.TooLong path := by
  rintro ⟨-, hfollow⟩
  unfold follow at hfollow
  split at hfollow
  · cases hfollow
  · rw [if_neg (by omega)] at hfollow
    exact walk_ne_nameTooLong hlinks hnames hfollow

end FileTree

/-! ## Searching directories -/

namespace SearchPath

variable {search : SearchPath} {tree : FileTree} {name : Text}

/-- There is no file under a name: the name is empty, or no place where it is looked for has one. -/
def NamesNoFile (search : SearchPath) (tree : FileTree) (name : Text) : Prop :=
  name = [] ∨ ∀ p ∈ search.candidates name, ¬ tree.LeadsToFile p.text

/-- A name can be looked up: it is empty, or it is not too long for any place where it is looked
for. -/
def LooksUp (search : SearchPath) (tree : FileTree) (name : Text) : Prop :=
  name = [] ∨ ∀ p ∈ search.candidates name, ¬ tree.TooLong p.text

theorem firstFile?_of_not {ps : List Path} (hfile : ∀ p ∈ ps, ¬ tree.LeadsToFile p.text)
    (hlong : ∀ p ∈ ps, ¬ tree.TooLong p.text) : firstFile? tree ps = .ok none := by
  induction ps with
  | nil => rfl
  | cons p ps ih =>
    have hp : tree.isFile p.text = .ok false :=
      FileTree.isFile_of_not (hfile p List.mem_cons_self) (hlong p List.mem_cons_self)
    have hps : firstFile? tree ps = .ok none := by
      apply ih
      · intro q hq
        exact hfile q (List.mem_cons_of_mem p hq)
      · intro q hq
        exact hlong q (List.mem_cons_of_mem p hq)
    unfold firstFile?
    rw [hp]
    exact hps

/-- The first place that a name is too long for ends the search. -/
theorem exists_firstFile?_of_tooLong {ps : List Path}
    (hfile : ∀ p ∈ ps, ¬ tree.LeadsToFile p.text) (hlong : ∃ p ∈ ps, tree.TooLong p.text) :
    ∃ p ∈ ps, tree.TooLong p.text ∧
      firstFile? tree ps = .error (.path .nameTooLong p.text) := by
  induction ps with
  | nil =>
    obtain ⟨p, hp, -⟩ := hlong
    cases hp
  | cons p ps ih =>
    by_cases hfirst : tree.TooLong p.text
    · refine ⟨p, List.mem_cons_self, hfirst, ?_⟩
      unfold firstFile?
      rw [FileTree.isFile_of_tooLong hfirst]
      rfl
    · have hp : tree.isFile p.text = .ok false :=
        FileTree.isFile_of_not (hfile p List.mem_cons_self) hfirst
      have hrest : ∃ q ∈ ps, tree.TooLong q.text := by
        obtain ⟨q, hq, hlong⟩ := hlong
        rcases List.mem_cons.mp hq with rfl | hq
        · exact absurd hlong hfirst
        · exact ⟨q, hq, hlong⟩
      obtain ⟨q, hq, hlong, hfound⟩ := ih (fun r hr => hfile r (List.mem_cons_of_mem p hr)) hrest
      refine ⟨q, List.mem_cons_of_mem p hq, hlong, ?_⟩
      unfold firstFile?
      rw [hp]
      exact hfound

/-- **A name without a file that can be looked up is not found**, and that is what is said of it. -/
theorem load_of_namesNoFile (h : search.NamesNoFile tree name) (hlook : search.LooksUp tree name) :
    search.load tree name = .error (.notFound (search.notFoundMessage name)) := by
  unfold load
  by_cases hname : name = []
  · simp [hname, pure, Except.pure, bind, Except.bind, throw, throwThe, MonadExceptOf.throw]
  · have hfile := h.resolve_left hname
    have hlong := hlook.resolve_left hname
    have hfind : search.find? tree name = .ok none := firstFile?_of_not hfile hlong
    rw [if_neg (by simpa using hname), hfind]
    rfl

/-- **A name without a file that cannot be looked up is an error**, which names a place. -/
theorem exists_load_of_not_looksUp (h : search.NamesNoFile tree name)
    (hlook : ¬ search.LooksUp tree name) :
    ∃ p ∈ search.candidates name, tree.TooLong p.text ∧
      search.load tree name = .error (.file (.path .nameTooLong p.text)) := by
  have hname : name ≠ [] := by
    intro hname
    exact hlook (.inl hname)
  have hlong : ∃ p ∈ search.candidates name, tree.TooLong p.text := by
    by_contra hnone
    exact hlook (.inr fun p hp hlong => hnone ⟨p, hp, hlong⟩)
  obtain ⟨p, hp, hlong, hfound⟩ := exists_firstFile?_of_tooLong (h.resolve_left hname) hlong
  have hfind : search.find? tree name = .error (.path .nameTooLong p.text) := hfound
  refine ⟨p, hp, hlong, ?_⟩
  unfold load
  rw [if_neg (by simpa using hname), hfind]
  rfl

/-- Names of permitted length can be looked up. -/
theorem looksUp_of_short (hlinks : tree.ShortLinks)
    (hshort : ∀ p ∈ search.candidates name, (Codec.utf8Bytes p.text).length ≤ FileTree.pathLimit ∧
      FileTree.ShortNames (Text.split '/' p.text)) : search.LooksUp tree name := by
  refine .inr fun p hp => ?_
  obtain ⟨hlength, hnames⟩ := hshort p hp
  exact FileTree.not_tooLong hlinks hlength hnames

end SearchPath

/-! ## Segments one after the other -/

namespace Spliced

variable {a b c : Spliced}

theorem append_assoc (a b c : Spliced) : (a.append b).append c = a.append (b.append c) := by
  cases ha : a.fault with
  | some fault => simp [append, ha]
  | none =>
    cases hb : b.fault with
    | some fault => simp [append, ha, hb]
    | none => simp [append, ha, hb]

theorem concat_append (xs ys : List Spliced) :
    concat (xs ++ ys) = (concat xs).append (concat ys) := by
  induction xs with
  | nil => rfl
  | cons x xs ih =>
    have hcons (zs : List Spliced) : concat (x :: zs) = x.append (concat zs) := rfl
    rw [List.cons_append, hcons, hcons, ih, append_assoc]

end Spliced

theorem splice_append (tree : FileTree) (loader : Loader) (depth : Nat) (chain : List Location)
    (name : Text) (before after : List Segment) :
    splice tree loader (depth + 1) chain name (before ++ after) =
      (splice tree loader (depth + 1) chain name before).append
        (splice tree loader (depth + 1) chain name after) := by
  unfold splice
  rw [List.map_append, Spliced.concat_append]

/-- What is spliced for a segment stands between what is spliced for those before and after it. -/
theorem splice_append_cons (tree : FileTree) (loader : Loader) (depth : Nat)
    (chain : List Location) (name : Text) (before after : List Segment) (s : Segment) :
    splice tree loader (depth + 1) chain name (before ++ s :: after) =
      (splice tree loader (depth + 1) chain name before).append
        ((spliceSegment tree loader (splice tree loader depth) chain name s).append
          (splice tree loader (depth + 1) chain name after)) := by
  rw [splice_append, splice_cons]

/-- Segments without directives become what they are. -/
theorem splice_of_kept (tree : FileTree) (loader : Loader) (depth : Nat) (chain : List Location)
    (name : Text) {ss : List Segment} (h : ∀ s ∈ ss, s.path? = none) :
    splice tree loader (depth + 1) chain name ss = ⟨ss, [], [], none⟩ := by
  induction ss with
  | nil => rfl
  | cons s ss ih =>
    rw [splice_cons, spliceSegment_of_kept (h s List.mem_cons_self),
      ih fun s' hs' => h s' (List.mem_cons_of_mem s hs')]
    rfl

/-! ## Documents with a segment that is left out -/

section LeaveOut

variable {tree : FileTree} {loader : Loader} {d : Document} {origin : Option Text}
  {chain : List Location}

theorem result_of_originChain (hchain : originChain tree origin = .ok chain) :
    (resolve tree loader d origin).result =
      (splice tree loader (loader.size + 1) chain d.name d.segments).result d := by
  rw [resolve_eq_of_splice hchain rfl]

/-- How a document with a directive that is left out is resolved, when its segments before and after
the directive are spliced into `a` and `b`. -/
theorem Spliced.result_append_leaveOut (a b : Spliced) (d : Document) (name path : Text)
    (line : Int) (code : ErrorCode) :
    (∀ fault, (a.append ((leaveOut name line path code).append b)).result d = .error fault ↔
      (a.append b).result d = .error fault) ∧
    ∀ r, (a.append b).result d = .ok r →
      a.fault = none ∧ b.fault = none ∧
      r.document.segments = a.segments ++ b.segments ∧ r.warnings = a.warnings ++ b.warnings ∧
      (a.append ((leaveOut name line path code).append b)).result d = .ok
        { document := { d with segments := a.segments ++ ⟨.literal [], name, line⟩ :: b.segments }
          warnings := a.warnings ++ ⟨name, line, path, code⟩ :: b.warnings
          sources := r.sources } := by
  cases ha : a.fault with
  | some fault =>
    have hfirst (c : Spliced) : a.append c = a := by simp [append, ha]
    rw [hfirst, hfirst]
    refine ⟨fun fault' => Iff.rfl, fun r hr => ?_⟩
    have hnone := (result_eq_ok_iff.mp hr).1
    rw [ha] at hnone
    cases hnone
  | none =>
    have hfirst (c : Spliced) : a.append c =
        ⟨a.segments ++ c.segments, a.warnings ++ c.warnings, a.files ++ c.files, c.fault⟩ := by
      simp [append, ha]
    have hsecond : (leaveOut name line path code).append b =
        ⟨⟨.literal [], name, line⟩ :: b.segments, ⟨name, line, path, code⟩ :: b.warnings, b.files,
          b.fault⟩ := rfl
    rw [hsecond, hfirst, hfirst]
    refine ⟨fun fault => ?_, fun r hr => ?_⟩
    · rw [result_eq_error_iff, result_eq_error_iff]
    · obtain ⟨hfault, rfl⟩ := result_eq_ok_iff.mp hr
      exact ⟨rfl, hfault, rfl, rfl, result_eq_ok_iff.mpr ⟨hfault, rfl⟩⟩

/-- How a document is resolved when one of its directives is left out: as without it, but for empty
text and a warning in its place. -/
theorem resolve_of_leaveOut {s : Segment} {path : Text} {code : ErrorCode}
    (hleft : ∀ chain, spliceSegment tree loader (splice tree loader loader.size) chain d.name s =
      .leaveOut d.name s.line path code) (before after : List Segment) :
    let resolved (segments : List Segment) :=
      (resolve tree loader { d with segments } origin).result
    (∀ fault, resolved (before ++ s :: after) = .error fault ↔
      resolved (before ++ after) = .error fault) ∧
    ∀ r, resolved (before ++ after) = .ok r → ∃ first last,
      resolved before = .ok first ∧ resolved after = .ok last ∧
      r.document.segments = first.document.segments ++ last.document.segments ∧
      r.warnings = first.warnings ++ last.warnings ∧
      resolved (before ++ s :: after) = .ok
        { document := { d with
            segments := first.document.segments ++ ⟨.literal [], d.name, s.line⟩ ::
              last.document.segments }
          warnings := first.warnings ++ ⟨d.name, s.line, path, code⟩ :: last.warnings
          sources := r.sources } := by
  intro resolved
  cases hchain : originChain tree origin with
  | error e =>
    have hnul (segments : List Segment) : resolved segments = .error .nulInPath := by
      show (resolve tree loader { d with segments } origin).result = _
      rw [resolve_eq, hchain]
    refine ⟨fun fault => by rw [hnul, hnul], fun r hr => ?_⟩
    rw [hnul] at hr
    cases hr
  | ok chain =>
    have hresolved (segments : List Segment) : resolved segments =
        (splice tree loader (loader.size + 1) chain d.name segments).result { d with segments } :=
      result_of_originChain hchain
    have hpart (x : Spliced) (segments : List Segment) (hfault : x.fault = none) :
        x.result { d with segments } = .ok (x.resolved d) :=
      Spliced.result_eq_ok_iff.mpr ⟨hfault, rfl⟩
    let a := splice tree loader (loader.size + 1) chain d.name before
    let b := splice tree loader (loader.size + 1) chain d.name after
    have hwith : resolved (before ++ s :: after) =
        (a.append ((Spliced.leaveOut d.name s.line path code).append b)).result d := by
      rw [hresolved, splice_append_cons, hleft]
      rfl
    have hwithout : resolved (before ++ after) = (a.append b).result d := by
      rw [hresolved, splice_append]
      rfl
    obtain ⟨herror, hok⟩ := Spliced.result_append_leaveOut a b d d.name path s.line code
    rw [hwith, hwithout]
    refine ⟨herror, fun r hr => ?_⟩
    obtain ⟨hfirst, hlast, hsegments, hwarnings, hboth⟩ := hok r hr
    refine ⟨a.resolved d, b.resolved d, ?_, ?_, hsegments, hwarnings, hboth⟩
    · rw [hresolved, hpart _ _ hfirst]
    · rw [hresolved, hpart _ _ hlast]

end LeaveOut

/-! ## Missing files -/

/-- **A directive whose file is missing is left out.** If no place has a file under the path of a
directive, and the path can be looked up, empty text stands in place of the directive, one warning
says so, and the segments before and after it become what they become without it, in a document as
in every file that is included. What ends the resolution ends it without the directive, too. A path
that cannot be looked up, being too long for the file system, ends the resolution; no path does that
whose names have the permitted length. -/
theorem missing_includes_are_left_out {tree : FileTree} {search : SearchPath} {s : Segment}
    {path : Text} (hs : s.path? = some path) (hmissing : search.NamesNoFile tree path) :
    let loader := search.loader tree
    let placeholder (name : Text) : Segment := ⟨.literal [], name, s.line⟩
    let warning (name : Text) : IncludeWarning := ⟨name, s.line, path, .includeNotFound⟩
    (search.LooksUp tree path →
      (∀ depth chain name before after,
        splice tree loader (depth + 1) chain name (before ++ s :: after) =
          (splice tree loader (depth + 1) chain name before).append
            ((⟨[placeholder name], [warning name], [], none⟩ : Spliced).append
              (splice tree loader (depth + 1) chain name after))) ∧
      ∀ (d : Document) (origin : Option Text) (before after : List Segment),
        d.segments = before ++ s :: after →
        let resolved (segments : List Segment) :=
          (resolve tree loader { d with segments } origin).result
        (∀ fault, resolved d.segments = .error fault ↔ resolved (before ++ after) = .error fault) ∧
        ∀ r, resolved (before ++ after) = .ok r → ∃ first last,
          resolved before = .ok first ∧ resolved after = .ok last ∧
          r.document.segments = first.document.segments ++ last.document.segments ∧
          r.warnings = first.warnings ++ last.warnings ∧
          resolved d.segments = .ok
            { document := { d with
                segments := first.document.segments ++ placeholder d.name ::
                  last.document.segments }
              warnings := first.warnings ++ warning d.name :: last.warnings
              sources := r.sources }) ∧
    (¬ search.LooksUp tree path → ∃ p ∈ search.candidates path, tree.TooLong p.text ∧
      ∀ depth chain name before after,
        splice tree loader (depth + 1) chain name (before ++ s :: after) =
          (splice tree loader (depth + 1) chain name before).append
            (.stop (.load (.file (.path .nameTooLong p.text))))) ∧
    (tree.ShortLinks →
      (∀ p ∈ search.candidates path, (Codec.utf8Bytes p.text).length ≤ FileTree.pathLimit ∧
        FileTree.ShortNames (Text.split '/' p.text)) →
      search.LooksUp tree path) := by
  intro loader placeholder warning
  refine ⟨fun hlook => ?_, fun hlook => ?_, SearchPath.looksUp_of_short⟩
  · have hload : loader.load path = .error (.notFound (search.notFoundMessage path)) :=
      SearchPath.load_of_namesNoFile hmissing hlook
    have hleft (inner : Splicer) (chain : List Location)
        (name : Text) : spliceSegment tree loader inner chain name s =
          .leaveOut name s.line path .includeNotFound := spliceSegment_of_missing hs hload
    refine ⟨fun depth chain name before after => ?_, fun d origin before after hd => ?_⟩
    · rw [splice_append_cons, hleft]
      rfl
    · rw [hd]
      exact resolve_of_leaveOut (fun chain => hleft _ chain d.name) before after
  · obtain ⟨p, hp, hlong, hload⟩ := SearchPath.exists_load_of_not_looksUp hmissing hlook
    refine ⟨p, hp, hlong, fun depth chain name before after => ?_⟩
    have hstop : spliceSegment tree loader (splice tree loader depth) chain name s =
        .stop (.load (.file (.path .nameTooLong p.text))) :=
      spliceSegment_of_unloaded hs hload fun message h => by cases h
    rw [splice_append_cons, hstop]
    rfl

/-- A directory with a link that leads nowhere. -/
def danglingTree : FileTree where
  nodes := [(["w".toList], .directory), (["w".toList, "l".toList], .link "gone".toList)]
  current := ["w".toList]

/-- The link is left out, and the text behind it follows. -/
theorem missing_includes_are_left_out_of_dangling_link :
    let search := SearchPath.new [] "utf-8".toList true
    let t : Text := "t".toList
    ∃ d r, scanTemplate "a<?include l?>b".toList t = .ok d ∧
      search.NamesNoFile danglingTree "l".toList ∧ search.LooksUp danglingTree "l".toList ∧
      (resolve danglingTree (search.loader danglingTree) d none).result = .ok r ∧
      r.document.segments =
        [⟨.literal "a".toList, t, 1⟩, ⟨.literal [], t, 1⟩, ⟨.literal "b".toList, t, 1⟩] ∧
      r.warnings = [⟨t, 1, "l".toList, .includeNotFound⟩] := by
  intro search t
  let loader := search.loader danglingTree
  let a : Segment := ⟨.literal "a".toList, t, 1⟩
  let s : Segment := ⟨.directive "l".toList, t, 1⟩
  let b : Segment := ⟨.literal "b".toList, t, 1⟩
  let d : Document := ⟨t, [a, s, b], "a<?include l?>b".toList⟩
  have hscan : scanTemplate d.source t = .ok d := eq_ok_of_toOption (by decide +kernel)
  have hcandidates : search.candidates "l".toList = [⟨.relative, ["l".toList]⟩] := by decide
  have hfollow : danglingTree.follow false "l".toList =
      .ok (.vacant ["w".toList, "gone".toList]) := by
    cbv
  have hmissing : search.NamesNoFile danglingTree "l".toList := by
    refine .inr fun p hp => ?_
    rw [hcandidates] at hp
    obtain rfl := List.mem_singleton.mp hp
    rintro ⟨-, l, bytes, hfile⟩
    cases hfollow.symm.trans hfile
  have hlook : search.LooksUp danglingTree "l".toList := by
    refine .inr fun p hp => ?_
    rw [hcandidates] at hp
    obtain rfl := List.mem_singleton.mp hp
    rintro ⟨-, hlong⟩
    cases hfollow.symm.trans hlong
  obtain ⟨-, hdocuments⟩ := (missing_includes_are_left_out (s := s) rfl hmissing).1 hlook
  obtain ⟨-, hleft⟩ := hdocuments d none [a] [b] rfl
  have hresolved (segments : List Segment) (h : ∀ x ∈ segments, x.path? = none) :
      (resolve danglingTree loader { d with segments } none).result =
        .ok ⟨{ d with segments }, [], [(t, d.source)]⟩ := by
    rw [resolve_eq_of_splice rfl (splice_of_kept danglingTree loader loader.size [] t h)]
    rfl
  obtain ⟨first, last, hfirst, hlast, -, -, hresult⟩ := hleft _ (hresolved ([a] ++ [b]) (by decide))
  cases hfirst.symm.trans (hresolved [a] (by decide))
  cases hlast.symm.trans (hresolved [b] (by decide))
  exact ⟨d, _, hscan, hmissing, hlook, hresult, rfl, rfl⟩

/-- A name of more bytes than a name may have. -/
def longName : Text := List.replicate 256 'x'

/-- No file has a name that is too long, but a directive with such a name is not left out: it ends
the resolution. -/
theorem not_missing_includes_are_left_out_of_long_name :
    let tree : FileTree := ⟨[], []⟩
    let search := SearchPath.new [] "utf-8".toList true
    let t : Text := "<template>".toList
    ∃ d, scanTemplate ("a<?include ".toList ++ longName ++ "?>b".toList) t = .ok d ∧
      d.segments = [⟨.literal "a".toList, t, 1⟩, ⟨.directive longName, t, 1⟩,
        ⟨.literal "b".toList, t, 1⟩] ∧
      search.NamesNoFile tree longName ∧
      (resolve tree (search.loader tree) d none).result =
        .error (.load (.file (.path .nameTooLong longName))) := by
  intro tree search t
  let d : Document := ⟨t, [⟨.literal "a".toList, t, 1⟩, ⟨.directive longName, t, 1⟩,
    ⟨.literal "b".toList, t, 1⟩], "a<?include ".toList ++ longName ++ "?>b".toList⟩
  have hscan : scanTemplate d.source t = .ok d := eq_ok_of_toOption (by decide +kernel)
  have hcandidates : search.candidates longName = [⟨.relative, [longName]⟩] := by decide +kernel
  have htext : (⟨.relative, [longName]⟩ : Path).text = longName := by decide +kernel
  have hlong : tree.TooLong longName := by
    refine ⟨by decide +kernel, ?_⟩
    have hsplit : Text.split '/' longName = [longName] := by decide +kernel
    have hempty : longName.isEmpty = false := by decide +kernel
    have hlength : (Codec.utf8Bytes longName).length = 256 := by decide +kernel
    have hkept : Path.isKept longName = true := by decide +kernel
    have hup : longName ≠ ['.', '.'] := by decide +kernel
    have hroot : tree.isDirectory (tree.start longName) = true := by decide +kernel
    unfold FileTree.follow
    rw [hsplit, hempty, hlength, FileTree.walk]
    simp [FileTree.pathLimit, FileTree.nameLimit, hkept, hup, hlength, hroot]
  have hmissing : search.NamesNoFile tree longName := by
    refine .inr fun p hp => ?_
    rw [hcandidates] at hp
    obtain rfl := List.mem_singleton.mp hp
    rintro ⟨-, l, bytes, hfile⟩
    rw [htext, hlong.2] at hfile
    cases hfile
  have hlook : ¬ search.LooksUp tree longName := by
    rintro (hnil | hshort)
    · cases hnil
    · refine hshort _ (hcandidates ▸ List.mem_singleton_self _) ?_
      rw [htext]
      exact hlong
  obtain ⟨p, hp, -, hload⟩ := SearchPath.exists_load_of_not_looksUp hmissing hlook
  rw [hcandidates] at hp
  obtain rfl := List.mem_singleton.mp hp
  rw [htext] at hload
  have hsplice : splice tree (search.loader tree) 1 [] t d.segments =
      Fate.outcome [.kept ⟨.literal "a".toList, t, 1⟩]
        (some (.load (.file (.path .nameTooLong longName)))) :=
    splice_cons_of_part (spliceSegment_of_kept rfl) <|
      splice_cons_of_stop (spliceSegment_of_unloaded rfl hload fun message h => by cases h)
  refine ⟨d, hscan, rfl, hmissing, ?_⟩
  rw [resolve_eq_of_splice rfl hsplice]
  rfl

end Stencil
