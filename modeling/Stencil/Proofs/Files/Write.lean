import Stencil.Proofs.Files.RealPath
import Stencil.Proofs.Text.Lines

/-!
# Reading what was written

A file that is opened for writing stands where the path leads, or where it could lead to something.
Whatever is put into it is what the path leads to from then on, and nothing else in the tree has
changed.

* `walk_put`: a path leads to the file that was put at its end.
* `readBytes_put_of_openFile`: the file that was opened holds what was put into it.
* `utf8Bytes_injective`: what a file holds in UTF-8 is the text of one text only.
-/

namespace Stencil

/-- Where a path leads. -/
def Destination.place : Destination → Location
  | .found l _ | .vacant l => l

/-- What stands where a path leads. -/
def Destination.node? : Destination → Option Node
  | .found _ node => some node
  | .vacant _ => none

namespace FileTree

variable {tree : FileTree} {l l' : Location} {node : Node}

/-! ## Locations -/

theorem get?_put_self (h : l ≠ []) : (tree.put l node).get? l = some node := by
  simp [get?, put, h]

theorem get?_put_of_ne (h : l' ≠ l) : (tree.put l node).get? l' = tree.get? l' := by
  have hlookup (nodes : List (Location × Node)) :
      (nodes.filter (·.1 != l)).lookup l' = nodes.lookup l' := by
    induction nodes with
    | nil => rfl
    | cons entry nodes ih =>
      by_cases hentry : entry.1 = l
      · have hne : (l' == entry.1) = false := by simpa [hentry] using h
        rw [List.filter_cons_of_neg (by simpa using hentry), ih, List.lookup_cons, hne]
      · rw [List.filter_cons_of_pos (by simpa using hentry), List.lookup_cons, List.lookup_cons, ih]
  have hne : (l' == l) = false := by simpa using h
  rw [get?, get?, put, List.lookup_cons, hne, hlookup]

theorem put_put (node' : Node) : (tree.put l node).put l node' = tree.put l node' := by
  simp [put, List.filter_filter]

/-! ## Paths -/

/-- A file stands at a location, or nothing does. -/
def IsFileOrVacant (tree : FileTree) (l : Location) : Prop :=
  tree.get? l = none ∨ ∃ bytes, tree.get? l = some (.file bytes)

theorem IsFileOrVacant.ne_of_get? (h : tree.IsFileOrVacant l) (hnode : tree.get? l' = some node)
    (hplain : ∀ bytes, node ≠ .file bytes) : l' ≠ l := by
  rintro rfl
  obtain hnone | ⟨bytes, hfile⟩ := h
  · rw [hnone] at hnode
    cases hnode
  · rw [hfile] at hnode
    exact hplain bytes (Option.some.inj hnode).symm

/-- The root is a directory. -/
theorem IsFileOrVacant.ne_nil (h : tree.IsFileOrVacant l) : l ≠ [] := by
  have hroot : tree.get? [] = some .directory := rfl
  exact (h.ne_of_get? hroot (by simp)).symm

/-- Directories are none of the places where a file can be put. -/
theorem IsFileOrVacant.isDirectory_put (h : tree.IsFileOrVacant l)
    (hdirectory : tree.isDirectory l' = true) : (tree.put l node).isDirectory l' = true := by
  have hget : tree.get? l' = some .directory := by simpa [isDirectory] using hdirectory
  rw [isDirectory, get?_put_of_ne (h.ne_of_get? hget (by simp)), hget]
  rfl

theorem walk_nil (creating : Bool) (links : Nat) (h : tree.get? l = some node) :
    tree.walk creating links l [] = .ok (.found l node) := by
  rw [walk, h]

section

variable {name : Text} (hdirectory : tree.isDirectory l = true)
include hdirectory

theorem walk_of_skipped (creating : Bool) (links : Nat) (rest : List Text)
    (hskip : Path.isKept name = false) :
    tree.walk creating links l (name :: rest) = tree.walk creating links l rest := by
  rw [walk]
  simp [hdirectory, hskip]

theorem walk_of_up (creating : Bool) (links : Nat) (rest : List Text)
    (hkept : Path.isKept ['.', '.'] = true) :
    tree.walk creating links l (['.', '.'] :: rest) =
      tree.walk creating links l.dropLast rest := by
  rw [walk]
  simp [hdirectory, hkept]

variable (hkept : Path.isKept name = true) (hup : name ≠ ['.', '.'])
  (hlength : ¬ nameLimit < (Codec.utf8Bytes name).length)
include hkept hup hlength

theorem walk_of_link {target : Text} (links : Nat) (rest : List Text)
    (hlink : tree.get? (l ++ [name]) = some (.link target)) :
    tree.walk false (links + 1) l (name :: rest) =
      tree.walk false links (if target.head? = some '/' then [] else l)
        (Text.split '/' target ++ rest) := by
  rw [walk]
  simp [hdirectory, hkept, hup, hlength, hlink]

theorem walk_of_node (links : Nat) (rest : List Text)
    (hnode : tree.get? (l ++ [name]) = some node) (hplain : ∀ target, node ≠ .link target) :
    tree.walk false links l (name :: rest) = tree.walk false links (l ++ [name]) rest := by
  rw [walk]
  cases node with
  | link target => exact absurd rfl (hplain target)
  | file bytes | directory => simp [hdirectory, hkept, hup, hlength, hnode]

end

/-- What a path leads to stands there, and what it could lead to does not. -/
theorem get?_of_walk {creating : Bool} {links : Nat} {names : List Text} {dest : Destination}
    (h : tree.walk creating links l' names = .ok dest) : tree.get? dest.place = dest.node? := by
  fun_induction walk tree creating links l' names with
  | case1 links l node hnode =>
    cases h
    exact hnode
  | case8 links l name rest _ _ _ _ _ hvacant _ =>
    cases h
    exact hvacant
  | case4 _ _ _ _ _ _ ih | case5 _ _ _ _ _ ih | case11 _ _ _ _ _ _ _ _ _ _ _ ih
  | case12 _ _ _ _ _ _ _ _ _ _ _ _ ih => exact ih h
  | case2 | case3 | case6 | case7 | case9 | case10 => cases h

/-- **A path leads to the file that was put at its end**, whether there was one before or not. -/
theorem walk_put {creating : Bool} {links : Nat} {names : List Text} {dest : Destination}
    (h : tree.walk creating links l' names = .ok dest) (hdest : tree.IsFileOrVacant dest.place)
    (bytes : List UInt8) :
    (tree.put dest.place (.file bytes)).walk false links l' names =
      .ok (.found dest.place (.file bytes)) := by
  have hput : (tree.put dest.place (.file bytes)).get? dest.place = some (.file bytes) :=
    get?_put_self hdest.ne_nil
  fun_induction walk tree creating links l' names with
  | case1 links l node hnode =>
    cases h
    exact walk_nil false links hput
  | case4 links l name rest hdirectory hskip ih =>
    rw [walk_of_skipped (hdest.isDirectory_put (by simpa using hdirectory)) _ _ _
      (by simpa using hskip)]
    exact ih h
  | case5 links l rest hdirectory hkept ih =>
    rw [walk_of_up (hdest.isDirectory_put (by simpa using hdirectory)) _ _ _
      (by simpa using hkept)]
    exact ih h
  | case8 links l name rest hdirectory hkept hup _ hlength hvacant hlast =>
    obtain rfl := List.isEmpty_iff.mp hlast
    cases h
    rw [walk_of_node (hdest.isDirectory_put (by simpa using hdirectory)) (by simpa using hkept)
      hup hlength _ _ hput (by simp)]
    exact walk_nil false links hput
  | case11 l name rest hdirectory hkept hup _ hlength target hlink links ih =>
    have hne : l ++ [name] ≠ dest.place := hdest.ne_of_get? hlink (by simp)
    rw [walk_of_link (hdest.isDirectory_put (by simpa using hdirectory)) (by simpa using hkept)
      hup hlength _ _ ((get?_put_of_ne hne).trans hlink)]
    exact ih h
  | case12 links l name rest hdirectory hkept hup _ hlength node hnot hnode ih =>
    -- the new file is no link either
    obtain ⟨node', hnode', hnot'⟩ : ∃ node',
        (tree.put dest.place (.file bytes)).get? (l ++ [name]) = some node' ∧
          ∀ target, node' ≠ .link target := by
      by_cases hplace : l ++ [name] = dest.place
      · exact ⟨.file bytes, hplace ▸ hput, by simp⟩
      · exact ⟨node, (get?_put_of_ne hplace).trans hnode, hnot⟩
    rw [walk_of_node (hdest.isDirectory_put (by simpa using hdirectory)) (by simpa using hkept)
      hup hlength _ _ hnode' hnot']
    exact ih h
  | case2 | case3 | case6 | case7 | case9 | case10 => cases h

/-! ## Opening files -/

/-- Everything stands in a directory. -/
def Rooted (tree : FileTree) : Prop :=
  ∀ entry ∈ tree.nodes, tree.isDirectory entry.1.dropLast = true

instance : DecidablePred Rooted := fun tree =>
  inferInstanceAs (Decidable (∀ entry ∈ tree.nodes, tree.isDirectory entry.1.dropLast = true))

theorem Rooted.isDirectory_dropLast (h : tree.Rooted) (hl : tree.isDirectory l = true) :
    tree.isDirectory l.dropLast = true := by
  by_cases hroot : l = []
  · rwa [hroot] at hl ⊢
  · have hget : tree.get? l = some .directory := by simpa [isDirectory] using hl
    rw [get?, if_neg hroot] at hget
    obtain ⟨before, after, hnodes, -⟩ := List.lookup_eq_some_iff.mp hget
    exact h (l, .directory) (by rw [hnodes]; simp)

theorem get?_ne_link_of_isDirectory (h : tree.isDirectory l = true) (target : Text) :
    tree.get? l ≠ some (.link target) := by
  rw [isDirectory, beq_iff_eq] at h
  rw [h]
  simp

/-- No path leads to a link, unless it is no path at all. -/
theorem Rooted.node?_ne_link (hrooted : tree.Rooted) {creating : Bool} {links : Nat}
    {names : List Text} {dest : Destination}
    (hstart : names ≠ [] ∨ ∀ target, tree.get? l' ≠ some (.link target))
    (h : tree.walk creating links l' names = .ok dest) (target : Text) :
    dest.node? ≠ some (.link target) := by
  fun_induction walk tree creating links l' names with
  | case1 links l node hnode =>
    cases h
    obtain hstart | hstart := hstart
    · exact absurd rfl hstart
    · exact fun hlink => hstart target (hnode.trans hlink)
  | case4 links l name rest hdirectory _ ih =>
    exact ih (.inr (get?_ne_link_of_isDirectory (by simpa using hdirectory))) h
  | case5 links l rest hdirectory _ ih =>
    have hup := hrooted.isDirectory_dropLast (by simpa using hdirectory)
    exact ih (.inr (get?_ne_link_of_isDirectory hup)) h
  | case8 =>
    cases h
    simp [Destination.node?]
  | case11 l name rest _ _ _ _ _ target' _ links ih =>
    exact ih (.inl (by simp [Text.split_ne_nil])) h
  | case12 links l name rest _ _ _ _ _ node hnot hnode ih =>
    refine ih (.inr fun target' hlink => ?_) h
    exact hnot target' (Option.some.inj (hnode.symm.trans hlink))
  | case2 | case3 | case6 | case7 | case9 | case10 => cases h

theorem walk_of_follow {creating : Bool} {path : Text} {dest : Destination}
    (h : tree.follow creating path = .ok dest) :
    path.isEmpty = false ∧ ¬ pathLimit < (Codec.utf8Bytes path).length ∧
      tree.walk creating linkLimit (tree.start path) (Text.split '/' path) = .ok dest := by
  rw [follow] at h
  split at h
  · cases h
  · rename_i hempty
    split at h
    · cases h
    · rename_i hlong
      exact ⟨by simpa using hempty, hlong, h⟩

theorem exists_follow_of_openFile {path : Text} {emptied : FileTree}
    (h : tree.openFile path = .ok (emptied, l)) :
    path.contains '\x00' = false ∧ ∃ dest, tree.follow true path = .ok dest ∧
      dest.node? ≠ some .directory ∧ tree.put dest.place (.file []) = emptied ∧ dest.place = l := by
  rw [openFile] at h
  split at h
  · cases h
  · rename_i hnul
    refine ⟨by simpa using hnul, ?_⟩
    split at h
    · cases h
    · rename_i l' node hnot hfollow
      obtain ⟨rfl, rfl⟩ := Prod.mk.inj (Except.ok.inj h)
      refine ⟨_, hfollow, fun hdirectory => ?_, rfl, rfl⟩
      exact hnot (Option.some.inj hdirectory)
    · rename_i l' hfollow
      obtain ⟨rfl, rfl⟩ := Prod.mk.inj (Except.ok.inj h)
      exact ⟨_, hfollow, by simp [Destination.node?], rfl, rfl⟩
    · cases h

/-- **The file that was opened holds what was put into it**, and nothing else has changed. -/
theorem readBytes_put_of_openFile (hrooted : tree.Rooted) {emptied : FileTree} {path : Text}
    (h : tree.openFile path = .ok (emptied, l)) (bytes : List UInt8) :
    (emptied.put l (.file bytes)).readBytes path = .ok bytes ∧
      ∀ l', l' ≠ l → (emptied.put l (.file bytes)).get? l' = tree.get? l' := by
  obtain ⟨hnul, dest, hfollow, hnot, rfl, rfl⟩ := exists_follow_of_openFile h
  rw [put_put]
  refine ⟨?_, fun l' => get?_put_of_ne⟩
  obtain ⟨hempty, hlong, hwalk⟩ := walk_of_follow hfollow
  have hplain := hrooted.node?_ne_link (.inl (Text.split_ne_nil '/' path)) hwalk
  have hdest : tree.IsFileOrVacant dest.place := by
    have hget := get?_of_walk hwalk
    unfold IsFileOrVacant
    rw [hget]
    cases dest with
    | vacant l => exact .inl rfl
    | found l node =>
      cases node with
      | file bytes => exact .inr ⟨bytes, rfl⟩
      | directory => exact absurd rfl hnot
      | link target => exact absurd rfl (hplain target)
  have hread : (tree.put dest.place (.file bytes)).follow false path =
      .ok (.found dest.place (.file bytes)) := by
    rw [follow, hempty, if_neg hlong]
    exact walk_put hwalk hdest bytes
  rw [readBytes, hnul, hread]
  rfl

end FileTree

/-! ## Text in files -/

/-- **Different texts are written as different bytes.** -/
theorem Codec.utf8Bytes_injective : Function.Injective Codec.utf8Bytes := by
  intro t u h
  have hbytes : (String.ofList t).toByteArray = (String.ofList u).toByteArray := by
    rw [String.toByteArray_ofList, String.toByteArray_ofList]
    exact congrArg List.toByteArray h
  exact String.ofList_injective (String.toByteArray_inj.mp hbytes)

end Stencil
