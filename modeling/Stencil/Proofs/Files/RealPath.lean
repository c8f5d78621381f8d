import Mathlib.Data.List.Perm.Subperm
import Stencil.Files.Access

/-!
# Real paths of files

A path can be followed through links, at most `linkLimit` of them, and its real path can be taken,
which remembers where links lead and notices links that lead back to themselves. Where the first
gets through, both come to the same location: the real path of a file is where the file stands.

The two are compared with `Leads`, which says where names lead and how many links are followed on
the way, and knows neither a limit nor a memory.

* `realPath_eq_of_follow`: the real path of a path that leads to something.
* `readBytes_place`: a file that can be read stands where its real path says.
-/

namespace Stencil

namespace FileTree

variable {tree : FileTree}

/-! ## Where names lead -/

/-- Names lead from a location to another one, through `k` links. -/
inductive Leads (tree : FileTree) : (k : Nat) → Location → List Text → Location → Prop where
  | nil {l : Location} : Leads tree 0 l [] l
  | skip {k : Nat} {l l' : Location} {name : Text} {rest : List Text}
      (hname : Path.isKept name = false) (hrest : Leads tree k l rest l') :
      Leads tree k l (name :: rest) l'
  | up {k : Nat} {l l' : Location} {rest : List Text} (hrest : Leads tree k l.dropLast rest l') :
      Leads tree k l (['.', '.'] :: rest) l'
  | down {k : Nat} {l l' : Location} {name : Text} {rest : List Text}
      (hname : Path.isKept name = true) (hup : name ≠ ['.', '.'])
      (hnode : ∀ target, tree.get? (l ++ [name]) ≠ some (.link target))
      (hrest : Leads tree k (l ++ [name]) rest l') : Leads tree k l (name :: rest) l'
  | link {k : Nat} {l l' : Location} {name target : Text} {rest : List Text}
      (hname : Path.isKept name = true) (hup : name ≠ ['.', '.'])
      (hnode : tree.get? (l ++ [name]) = some (.link target))
      (hrest : Leads tree k (if target.head? = some '/' then [] else l)
        (Text.split '/' target ++ rest) l') :
      Leads tree (k + 1) l (name :: rest) l'

/-- Names lead to one place, in one way. -/
theorem Leads.unique {k k' : Nat} {l a b : Location} {names : List Text}
    (h : Leads tree k l names a) (h' : Leads tree k' l names b) : k = k' ∧ a = b := by
  induction h generalizing k' b with
  | nil =>
    cases h'
    exact ⟨rfl, rfl⟩
  | skip hname _ ih =>
    cases h' with
    | skip _ hrest => exact ih hrest
    | up => exact absurd hname (by decide)
    | down hkept | link hkept => rw [hkept] at hname; cases hname
  | up _ ih =>
    cases h' with
    | skip hname => exact absurd hname (by decide)
    | up hrest => exact ih hrest
    | down _ hup | link _ hup => exact absurd rfl hup
  | down hname hup hnode _ ih =>
    cases h' with
    | skip hskip => rw [hname] at hskip; cases hskip
    | up => exact absurd rfl hup
    | down _ _ _ hrest => exact ih hrest
    | link _ _ hlink => exact absurd hlink (hnode _)
  | link hname hup hnode _ ih =>
    cases h' with
    | skip hskip => rw [hname] at hskip; cases hskip
    | up => exact absurd rfl hup
    | down _ _ hother => exact absurd hnode (hother _)
    | link _ _ hlink hrest =>
      obtain rfl : _ = _ := Node.link.inj (Option.some.inj (hnode.symm.trans hlink))
      obtain ⟨rfl, rfl⟩ := ih hrest
      exact ⟨rfl, rfl⟩

/-- Names lead somewhere piece by piece. -/
theorem Leads.of_append {k : Nat} {l l' : Location} {xs ys : List Text}
    (h : Leads tree k l (xs ++ ys) l') :
    ∃ k₁ k₂ mid, k = k₁ + k₂ ∧ Leads tree k₁ l xs mid ∧ Leads tree k₂ mid ys l' := by
  generalize hnames : xs ++ ys = names at h
  induction h generalizing xs with
  | nil =>
    obtain ⟨rfl, rfl⟩ := List.append_eq_nil_iff.mp hnames
    exact ⟨0, 0, _, rfl, .nil, .nil⟩
  | skip hname hrest ih =>
    obtain ⟨rfl, rfl⟩ | ⟨xs, rfl, hxs⟩ := List.append_eq_cons_iff.mp hnames
    · exact ⟨0, _, _, (Nat.zero_add _).symm, .nil, .skip hname hrest⟩
    · obtain ⟨k₁, k₂, mid, rfl, hfirst, hlast⟩ := ih hxs.symm
      exact ⟨k₁, k₂, mid, rfl, .skip hname hfirst, hlast⟩
  | up hrest ih =>
    obtain ⟨rfl, rfl⟩ | ⟨xs, rfl, hxs⟩ := List.append_eq_cons_iff.mp hnames
    · exact ⟨0, _, _, (Nat.zero_add _).symm, .nil, .up hrest⟩
    · obtain ⟨k₁, k₂, mid, rfl, hfirst, hlast⟩ := ih hxs.symm
      exact ⟨k₁, k₂, mid, rfl, .up hfirst, hlast⟩
  | down hname hup hnode hrest ih =>
    obtain ⟨rfl, rfl⟩ | ⟨xs, rfl, hxs⟩ := List.append_eq_cons_iff.mp hnames
    · exact ⟨0, _, _, (Nat.zero_add _).symm, .nil, .down hname hup hnode hrest⟩
    · obtain ⟨k₁, k₂, mid, rfl, hfirst, hlast⟩ := ih hxs.symm
      exact ⟨k₁, k₂, mid, rfl, .down hname hup hnode hfirst, hlast⟩
  | link hname hup hnode hrest ih =>
    obtain ⟨rfl, rfl⟩ | ⟨xs, rfl, rfl⟩ := List.append_eq_cons_iff.mp hnames
    · exact ⟨0, _, _, (Nat.zero_add _).symm, .nil, .link hname hup hnode hrest⟩
    · obtain ⟨k₁, k₂, mid, rfl, hfirst, hlast⟩ := ih (List.append_assoc _ xs ys)
      exact ⟨k₁ + 1, k₂, mid, by omega, .link hname hup hnode hfirst, hlast⟩

/-- Following names through links, if it gets anywhere, gets where the names lead. -/
theorem exists_leads_of_walk {creating : Bool} {links : Nat} {l l' : Location} {names : List Text}
    {node : Node} (h : tree.walk creating links l names = .ok (.found l' node)) :
    tree.get? l' = some node ∧ ∃ k, Leads tree k l names l' := by
  fun_induction walk tree creating links l names with
  | case1 links l node hnode =>
    cases h
    exact ⟨hnode, 0, .nil⟩
  | case4 links l name rest _ hskip ih =>
    obtain ⟨hnode, k, hleads⟩ := ih h
    exact ⟨hnode, k, .skip (by simpa using hskip) hleads⟩
  | case5 links l rest _ _ ih =>
    obtain ⟨hnode, k, hleads⟩ := ih h
    exact ⟨hnode, k, .up hleads⟩
  | case11 l name rest _ hkept hup _ _ target hlink links ih =>
    obtain ⟨hnode, k, hleads⟩ := ih (by simpa using h)
    exact ⟨hnode, k + 1, .link (by simpa using hkept) hup hlink (by simpa using hleads)⟩
  | case12 links l name rest _ hkept hup _ _ node hnot hnode ih =>
    obtain ⟨hnode', k, hleads⟩ := ih h
    have hplain : ∀ target, tree.get? (l ++ [name]) ≠ some (.link target) := by
      intro target htarget
      exact hnot target (Option.some.inj (hnode.symm.trans htarget))
    exact ⟨hnode', k, .down (by simpa using hkept) hup hplain hleads⟩
  | case2 | case3 | case6 | case7 | case8 | case9 | case10 => cases h

theorem exists_leads_of_follow {creating : Bool} {path : Text} {l : Location} {node : Node}
    (h : tree.follow creating path = .ok (.found l node)) :
    tree.get? l = some node ∧ ∃ k, Leads tree k (tree.start path) (Text.split '/' path) l := by
  rw [follow] at h
  split at h
  · cases h
  · split at h
    · cases h
    · exact exists_leads_of_walk h

/-! ## Where links lead -/

/-- The link at a location leads to another location, through `k` more links. -/
def LinkLeads (tree : FileTree) (k : Nat) (l dest : Location) : Prop :=
  ∃ target, tree.get? l = some (.link target) ∧
    Leads tree k (if target.head? = some '/' then [] else l.dropLast) (Text.split '/' target) dest

theorem LinkLeads.unique {k k' : Nat} {l a b : Location} (h : LinkLeads tree k l a)
    (h' : LinkLeads tree k' l b) : k = k' ∧ a = b := by
  obtain ⟨target, hnode, hleads⟩ := h
  obtain ⟨target', hnode', hleads'⟩ := h'
  obtain rfl : target = target' := Node.link.inj (Option.some.inj (hnode.symm.trans hnode'))
  exact hleads.unique hleads'

theorem LinkLeads.of_target {k : Nat} {l dest : Location} {name target : Text}
    (h : LinkLeads tree k (l ++ [name]) dest)
    (hnode : tree.get? (l ++ [name]) = some (.link target)) :
    Leads tree k (if target.head? = some '/' then [] else l) (Text.split '/' target) dest := by
  obtain ⟨target', hnode', hleads⟩ := h
  obtain rfl : target = target' := Node.link.inj (Option.some.inj (hnode.symm.trans hnode'))
  rwa [List.dropLast_concat] at hleads

/-- Names that begin with a link lead on from where the link leads. -/
theorem Leads.of_link {k : Nat} {l l' : Location} {name target : Text} {rest : List Text}
    (h : Leads tree k l (name :: rest) l') (hname : Path.isKept name = true)
    (hup : name ≠ ['.', '.']) (hnode : tree.get? (l ++ [name]) = some (.link target)) :
    ∃ k₁ k₂ mid, k = k₁ + k₂ + 1 ∧ LinkLeads tree k₁ (l ++ [name]) mid ∧
      Leads tree k₂ mid rest l' := by
  cases h with
  | skip hskip => rw [hname] at hskip; cases hskip
  | up => exact absurd rfl hup
  | down _ _ hplain => exact absurd hnode (hplain target)
  | link _ _ hlink hrest =>
    obtain ⟨k₁, k₂, mid, rfl, hfirst, hlast⟩ := hrest.of_append
    exact ⟨k₁, k₂, mid, rfl, ⟨_, hlink, by rwa [List.dropLast_concat]⟩, hlast⟩

/-- What is no directory is listed among the nodes of the tree. -/
theorem mem_nodes_of_get? {l : Location} {node : Node} (h : tree.get? l = some node)
    (hnode : node ≠ .directory) : l ∈ tree.nodes.map Prod.fst := by
  rw [get?] at h
  split at h
  · exact absurd (Option.some.inj h).symm hnode
  · obtain ⟨before, after, hnodes, -⟩ := List.lookup_eq_some_iff.mp h
    rw [hnodes]
    simp

/-! ## Taking the real path -/

theorem location_start (s : Spot) (path : Text) :
    (s.start path).location = if path.head? = some '/' then [] else s.location := by
  rw [Spot.start]
  split <;> rfl

/-- Of the links at the spots `busy`, each is met before the next one is, and so needs more links to
be followed; what is being looked for needs `k`. -/
structure Busy (tree : FileTree) (k : Nat) (busy : List Spot) : Prop where
  nodup : (busy.map Spot.location).Nodup
  ahead : ∀ spot ∈ busy, ∃ k' dest, LinkLeads tree k' spot.location dest ∧ k ≤ k'

/-- What is remembered about links is right: where they lead, and which are being followed. -/
structure Known (tree : FileTree) (links : List (Spot × Option Spot)) (busy : List Spot) :
    Prop where
  followed : ∀ spot dest, links.lookup spot = some (some dest) →
    ∃ k, LinkLeads tree k spot.location dest.location
  marked : ∀ spot, links.lookup spot = some none → spot ∈ busy

namespace Busy

variable {k k' : Nat} {busy : List Spot}

theorem mono (h : Busy tree k busy) (hk : k' ≤ k) : Busy tree k' busy := by
  refine ⟨h.nodup, fun spot hspot => ?_⟩
  obtain ⟨j, dest, hleads, hj⟩ := h.ahead spot hspot
  exact ⟨j, dest, hleads, Nat.le_trans hk hj⟩

/-- A link that needs fewer links is not among those being followed. -/
theorem not_mem (h : Busy tree k busy) {l dest : Location} (hleads : LinkLeads tree k' l dest)
    (hk : k' < k) : l ∉ busy.map Spot.location := by
  intro hmem
  obtain ⟨spot, hspot, rfl⟩ := List.mem_map.mp hmem
  obtain ⟨j, dest', hspot, hj⟩ := h.ahead spot hspot
  obtain ⟨rfl, -⟩ := hleads.unique hspot
  omega

/-- A link is followed while others are. -/
theorem cons (h : Busy tree k busy) {spot : Spot} {dest : Location}
    (hleads : LinkLeads tree k' spot.location dest) (hk : k' < k) :
    Busy tree k' (spot :: busy) := by
  refine ⟨List.nodup_cons.mpr ⟨h.not_mem hleads hk, h.nodup⟩, fun other hother => ?_⟩
  rcases List.mem_cons.mp hother with rfl | hother
  · exact ⟨k', dest, hleads, Nat.le_refl k'⟩
  · exact (h.mono (Nat.le_of_lt hk)).ahead other hother

/-- No more links can be followed at a time than there are in the tree. -/
theorem length_le (h : Busy tree k busy) : busy.length ≤ tree.nodes.length := by
  have hsub : busy.map Spot.location ⊆ tree.nodes.map Prod.fst := by
    intro l hl
    obtain ⟨spot, hspot, rfl⟩ := List.mem_map.mp hl
    obtain ⟨-, -, ⟨target, hnode, -⟩, -⟩ := h.ahead spot hspot
    exact mem_nodes_of_get? hnode (by simp)
  simpa using (h.nodup.subperm hsub).length_le

end Busy

namespace Known

variable {links : List (Spot × Option Spot)} {busy : List Spot}

theorem nil : Known tree [] [] := ⟨fun _ _ h => (by cases h), fun _ h => (by cases h)⟩

/-- A link is being followed. -/
theorem mark (h : Known tree links busy) (spot : Spot) :
    Known tree ((spot, none) :: links) (spot :: busy) := by
  refine ⟨fun other dest hother => ?_, fun other hother => ?_⟩
  · rw [List.lookup_cons] at hother
    split at hother
    · cases hother
    · exact h.followed other dest hother
  · rw [List.lookup_cons] at hother
    split at hother
    · rename_i heq
      exact List.mem_cons.mpr (.inl (eq_of_beq heq))
    · exact List.mem_cons_of_mem _ (h.marked other hother)

/-- A link has been followed to where it leads. -/
theorem settle {spot dest : Spot} (h : Known tree links (spot :: busy)) {k : Nat}
    (hleads : LinkLeads tree k spot.location dest.location) :
    Known tree ((spot, some dest) :: links) busy := by
  refine ⟨fun other found hother => ?_, fun other hother => ?_⟩
  · rw [List.lookup_cons] at hother
    split at hother
    · rename_i heq
      obtain rfl := eq_of_beq heq
      cases hother
      exact ⟨k, hleads⟩
    · exact h.followed other found hother
  · rw [List.lookup_cons] at hother
    split at hother
    · cases hother
    · rename_i hne
      rcases List.mem_cons.mp (h.marked other hother) with rfl | hmem
      · simp at hne
      · exact hmem

end Known

/-- **Taking the real path gets where the names lead.** The induction is on the walk. A link that is
being followed is not met again, since it would need as many links as it needs; so no more links are
being followed at a time than there are in the tree, and the bound on their depth is never met. -/
theorem realWalk_of_leads {n : Nat} {links : List (Spot × Option Spot)} {s : Spot}
    {names : List Text} {w : RealWalk} (h : tree.realWalk n links s names = .ok w) {k : Nat}
    {l' : Location} {busy : List Spot} (hleads : Leads tree k s.location names l')
    (hknown : Known tree links busy) (hbusy : Busy tree k busy)
    (hn : tree.nodes.length < n + busy.length) :
    w.looped = false ∧ w.reached.location = l' ∧ Known tree w.links busy := by
  fun_induction realWalk tree n links s names generalizing w k l' busy with
  | case1 n links s =>
    cases h
    cases hleads
    exact ⟨rfl, rfl, hknown⟩
  | case2 n links s name rest hskip ih =>
    have hname : Path.isKept name = false := by simpa using hskip
    cases hleads with
    | skip _ hrest => exact ih h hrest hknown hbusy hn
    | up => exact absurd hname (by decide)
    | down hkept | link hkept => rw [hname] at hkept; cases hkept
  | case3 n links s rest hkept ih =>
    cases hleads with
    | skip hskip => rw [hskip] at hkept; exact absurd rfl hkept
    | up hrest => exact ih h hrest hknown hbusy hn
    | down _ hup | link _ hup => exact absurd rfl hup
  | case4 => cases h
  | case5 n links s name rest hkept hup _ next target hnode known hlookup =>
    rename_i ih
    obtain ⟨k₁, k₂, mid, rfl, hlink, hrest⟩ := hleads.of_link (by simpa using hkept) hup hnode
    obtain ⟨k', hfollowed⟩ := hknown.followed next known hlookup
    obtain ⟨-, rfl⟩ := hlink.unique hfollowed
    exact ih h hrest hknown (hbusy.mono (by omega)) hn
  | case6 n links s name rest hkept hup _ next target hnode =>
    rename_i hlookup
    obtain ⟨k₁, k₂, mid, rfl, hlink, -⟩ := hleads.of_link (by simpa using hkept) hup hnode
    exact absurd (List.mem_map_of_mem (hknown.marked next hlookup))
      (hbusy.not_mem hlink (by omega))
  | case7 links s name rest hkept hup _ next target hnode =>
    obtain ⟨k₁, k₂, mid, rfl, hlink, -⟩ := hleads.of_link (by simpa using hkept) hup hnode
    have hlength := hbusy.length_le
    omega
  | case8 links s name rest hkept hup _ next target hnode hlookup n ihTarget =>
    rename_i ihRest
    obtain ⟨k₁, k₂, mid, rfl, hlink, hrest⟩ := hleads.of_link (by simpa using hkept) hup hnode
    have hbusyNext : Busy tree k₁ (next :: busy) := hbusy.cons hlink (by omega)
    cases hwalk : tree.realWalk n ((next, none) :: links) (s.start target)
        (Text.split '/' target) with
    | error e =>
      rw [hwalk] at h
      cases h
    | ok w₁ =>
      have hleadsTarget : Leads tree k₁ (s.start target).location (Text.split '/' target) mid := by
        rw [location_start]
        exact hlink.of_target hnode
      have hbound : tree.nodes.length < n + (next :: busy).length := by
        rw [List.length_cons]
        omega
      obtain ⟨hloop, rfl, hknown₁⟩ :=
        ihTarget hwalk hleadsTarget (hknown.mark next) hbusyNext hbound
      have hgoesOn : tree.realWalk (n + 1) ((next, some w₁.reached) :: w₁.links) w₁.reached rest =
          .ok w := by
        rw [hwalk] at h
        simpa [bind, Except.bind, hloop] using h
      exact ihRest w₁ hgoesOn hrest (hknown₁.settle hlink) (hbusy.mono (by omega)) (by omega)
  | case9 n links s name rest hkept hup _ next hplain =>
    rename_i ih
    cases hleads with
    | skip hskip => rw [hskip] at hkept; exact absurd rfl hkept
    | up => exact absurd rfl hup
    | down _ _ _ hrest => exact ih h hrest hknown hbusy hn
    | link _ _ hnode => exact absurd hnode (hplain _)

/-- **A path that leads to something has the location of that as its real path.** -/
theorem realPath_eq_of_follow {creating : Bool} {path : Text} {l l' : Location} {node : Node}
    (h : tree.follow creating path = .ok (.found l node)) (hreal : tree.realPath path = .ok l') :
    l' = l := by
  obtain ⟨-, k, hleads⟩ := exists_leads_of_follow h
  rw [realPath] at hreal
  cases hwalk : tree.realWalk (2 * tree.nodes.length + 1) []
      (Spot.start ⟨false, tree.current⟩ path) (Text.split '/' path) with
  | error e =>
    simp only [hwalk] at hreal
    cases hreal
  | ok w =>
    simp only [hwalk] at hreal
    cases hreal
    have hstart : (Spot.start ⟨false, tree.current⟩ path).location = tree.start path :=
      location_start _ path
    have hbusy : Busy tree k [] := ⟨List.nodup_nil, fun _ hspot => by cases hspot⟩
    have hbound : tree.nodes.length < 2 * tree.nodes.length + 1 + ([] : List Spot).length := by
      rw [List.length_nil]
      omega
    exact (realWalk_of_leads hwalk (hstart ▸ hleads) .nil hbusy hbound).2.1

/-- A file that can be read stands where its real path says. -/
theorem readBytes_place {path : Text} {bytes : List UInt8} {l : Location}
    (h : tree.readBytes path = .ok bytes) (hreal : tree.realPath path = .ok l) :
    tree.follow false path = .ok (.found l (.file bytes)) ∧ l ∈ tree.nodes.map Prod.fst := by
  rw [readBytes] at h
  split at h
  · cases h
  · split at h
    · rename_i l' bytes' hfollow
      cases h
      obtain rfl := realPath_eq_of_follow hfollow hreal
      exact ⟨hfollow, mem_nodes_of_get? (exists_leads_of_follow hfollow).1 (by simp)⟩
    · cases h
    · cases h
    · cases h

end FileTree

end Stencil
