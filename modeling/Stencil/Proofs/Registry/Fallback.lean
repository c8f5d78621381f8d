import Stencil.Directories
import Stencil.Proofs.Run.Session
import Stencil.Registry.Tables

/-!
# The style that stands in for others

A registry that lies in memory refers to a table that nobody else refers to, and the table has the
default. Whatever it is asked for, this stays so: tables that were made are not written into again,
and the registries in memory follow the values that carry the proof of their default.

* `StyleTables.Extends`: all tables that there were are as they were.
* `StyleTables.answer_eq`: a call on a registry in memory is the call on its value.
* `Lineage.Holds.after`: the same for calls one after the other.
* `registries_keep_their_fallback`: what a registry finds after any calls.
-/

namespace Stencil

/-! ## Tables -/

namespace StyleTables

variable {ts ts₁ ts₂ ts₃ : StyleTables}

/-- The later tables have all earlier ones, with what they held. -/
structure Extends (ts₁ ts₂ : StyleTables) : Prop where
  next_le : ts₁.next ≤ ts₂.next
  read_eq : ∀ k < ts₁.next, ts₂.read k = ts₁.read k

theorem Extends.refl (ts : StyleTables) : ts.Extends ts := ⟨Nat.le_refl _, fun _ _ => rfl⟩

theorem Extends.trans (h₁ : ts₁.Extends ts₂) (h₂ : ts₂.Extends ts₃) : ts₁.Extends ts₃ where
  next_le := Nat.le_trans h₁.next_le h₂.next_le
  read_eq k hk := by
    rw [h₂.read_eq k (Nat.lt_of_lt_of_le hk h₁.next_le), h₁.read_eq k hk]

@[simp] theorem next_make (ts : StyleTables) (styles : List (Text × Style)) :
    (ts.make styles).next = ts.next + 1 := by
  simp [next, make]

@[simp] theorem next_put (ts : StyleTables) (k : Nat) (name : Text) (style : Style) :
    (ts.put k name style).next = ts.next := by
  simp [next, put]

@[simp] theorem read_make_next (ts : StyleTables) (styles : List (Text × Style)) :
    (ts.make styles).read ts.next = styles := by
  simp [read, make, next]

theorem read_put_self {k : Nat} (hk : k < ts.next) (name : Text) (style : Style) :
    (ts.put k name style).read k = putStyle name style (ts.read k) := by
  simp [read, put, Array.getElem?_setIfInBounds_self_of_lt hk]

theorem extends_make (ts : StyleTables) (styles : List (Text × Style)) :
    ts.Extends (ts.make styles) where
  next_le := by simp
  read_eq k hk := by
    have hne : k ≠ ts.tables.size := Nat.ne_of_lt hk
    simp [make, read, Array.getElem?_push, hne]

theorem read_put_of_ne {j k : Nat} (hne : j ≠ k) (name : Text) (style : Style) :
    (ts.put k name style).read j = ts.read j := by
  simp [read, put, Array.getElem?_setIfInBounds_ne (Ne.symm hne)]

/-- A table that is new may be written into. -/
theorem Extends.put (h : ts₁.Extends ts₂) {k : Nat} (hk : ts₁.next ≤ k) (name : Text)
    (style : Style) : ts₁.Extends (ts₂.put k name style) where
  next_le := by simpa using h.next_le
  read_eq j hj := by
    rw [read_put_of_ne (Nat.ne_of_lt (Nat.lt_of_lt_of_le hj hk)), h.read_eq j hj]

/-! ## Calls -/

/-- A registry is made exactly if the default is there; its table is made in any case. -/
theorem construct_eq (ts : StyleTables) (given : Option Nat) (default : Text) :
    ts.construct given default =
      (if ((ts.source given).lookup default).isSome then .ok ⟨ts.next, default⟩
        else .error (Registry.unregistered default), ts.make (ts.source given)) := by
  unfold construct
  dsimp only
  rw [read_make_next]
  split <;> rfl

theorem extends_construct (ts : StyleTables) (given : Option Nat) (default : Text) :
    ts.Extends (ts.construct given default).2 := by
  rw [construct_eq]
  exact extends_make ts _

/-- **No call writes into a table that was there**, also when it fails. -/
theorem extends_answer (ts : StyleTables) (r : HeldRegistry) (c : RegistryCall) :
    ts.Extends (ts.answer r c).2 := by
  cases c with
  | withStyle name style =>
    exact ((extends_make ts _).put (Nat.le_refl _) name style).trans (extends_construct _ _ _)
  | withDefault name => exact extends_construct ts _ name

/-- The registry refers to a table that there is, and as a value it is this one. -/
structure Holds (ts : StyleTables) (r : HeldRegistry) (value : Registry) : Prop where
  lt_next : r.table < ts.next
  value?_eq : ts.value? r = some value

variable {r : HeldRegistry} {value : Registry}

theorem value?_eq_some_iff :
    ts.value? r = some value ↔ ts.read r.table = value.styles ∧ r.default = value.default := by
  unfold value?
  dsimp only
  constructor
  · intro h
    split at h
    · cases h
      exact ⟨rfl, rfl⟩
    · cases h
  · rintro ⟨hstyles, hdefault⟩
    have hregistered : ((ts.read r.table).lookup r.default).isSome := by
      rw [hstyles, hdefault]
      exact value.registered
    rw [dif_pos hregistered]
    obtain ⟨styles, default, registered⟩ := value
    cases hstyles
    cases hdefault
    rfl

theorem Holds.mono (h : ts₁.Holds r value) (hext : ts₁.Extends ts₂) : ts₂.Holds r value where
  lt_next := Nat.lt_of_lt_of_le h.lt_next hext.next_le
  value?_eq := by
    rw [value?_eq_some_iff, hext.read_eq _ h.lt_next, ← value?_eq_some_iff]
    exact h.value?_eq

/-- Styles that have the default make a registry of them. -/
theorem construct_of_registered {given : Option Nat} {default : Text}
    (h : ((ts.source given).lookup default).isSome) :
    ∃ r, (ts.construct given default).1 = .ok r ∧
      (ts.construct given default).2.Holds r ⟨ts.source given, default, h⟩ := by
  rw [construct_eq, if_pos h]
  exact ⟨_, rfl, by simp, value?_eq_some_iff.mpr ⟨by simp, rfl⟩⟩

theorem construct_of_not_registered {given : Option Nat} {default : Text}
    (h : ¬ ((ts.source given).lookup default).isSome) :
    (ts.construct given default).1 = .error (Registry.unregistered default) := by
  rw [construct_eq, if_neg h]

/-- What is made is the value with the styles that it is made of. -/
theorem holds_of_construct {given : Option Nat} {default : Text}
    (h : ts.construct given default = (.ok r, ts₁)) :
    ∃ value : Registry, ts₁.Holds r value ∧ value.styles = ts.source given ∧
      value.default = default := by
  by_cases hregistered : ((ts.source given).lookup default).isSome
  · obtain ⟨r', hmade, hholds⟩ := construct_of_registered hregistered
    rw [h] at hmade hholds
    obtain rfl := Except.ok.inj hmade
    exact ⟨_, hholds, rfl, rfl⟩
  · have hfails := construct_of_not_registered hregistered
    rw [h] at hfails
    cases hfails

end StyleTables

/-- The registry that one is asked for, as a value. -/
def Registry.call? (value : Registry) : RegistryCall → Option Registry
  | .withStyle name style => some (value.withStyle name style)
  | .withDefault name => value.withDefault? name

namespace StyleTables

variable {ts : StyleTables} {r : HeldRegistry} {value : Registry}

theorem Holds.read_eq (h : ts.Holds r value) : ts.read r.table = value.styles :=
  (value?_eq_some_iff.mp h.value?_eq).1

theorem Holds.default_eq (h : ts.Holds r value) : r.default = value.default :=
  (value?_eq_some_iff.mp h.value?_eq).2

/-- **A call on a registry in memory is the call on its value.** Only a call for another default can
fail, and it says so. -/
theorem answer_eq (h : ts.Holds r value) (c : RegistryCall) :
    match value.call? c with
    | some value' => ∃ r', (ts.answer r c).1 = .ok r' ∧ (ts.answer r c).2.Holds r' value'
    | none => ∃ name, c = .withDefault name ∧
        (ts.answer r c).1 = .error (Registry.unregistered name) := by
  cases c with
  | withStyle name style =>
    -- the copy that is written into is the source of the registry
    let copied := (ts.make (ts.read r.table)).put ts.next name style
    have hsource : copied.source (some ts.next) = (value.withStyle name style).styles := by
      show copied.read ts.next = putStyle name style value.styles
      rw [read_put_self (by simp), read_make_next, h.read_eq]
    have hregistered : ((copied.source (some ts.next)).lookup r.default).isSome := by
      rw [hsource, h.default_eq]
      exact (value.withStyle name style).registered
    obtain ⟨r', hmade, hholds⟩ := construct_of_registered hregistered
    refine ⟨r', hmade, hholds.lt_next, hholds.value?_eq.trans ?_⟩
    simp only [hsource, h.default_eq]
    rfl
  | withDefault name =>
    have hsource : ts.source (some r.table) = value.styles := h.read_eq
    by_cases hname : (value.styles.lookup name).isSome
    · have hregistered : ((ts.source (some r.table)).lookup name).isSome := hsource ▸ hname
      obtain ⟨r', hmade, hholds⟩ := construct_of_registered hregistered
      rw [Registry.call?, Registry.withDefault?, dif_pos hname]
      refine ⟨r', hmade, hholds.lt_next, hholds.value?_eq.trans ?_⟩
      simp only [hsource]
    · rw [Registry.call?, Registry.withDefault?, dif_neg hname]
      exact ⟨name, rfl, construct_of_not_registered (hsource ▸ hname)⟩

end StyleTables

/-! ## Calls one after the other -/

namespace Registry

/-- The registry after a call; the same one if the call fails. -/
def call (value : Registry) (c : RegistryCall) : Registry := (value.call? c).getD value

/-- The registry after calls one after the other. -/
def after (value : Registry) (calls : List RegistryCall) : Registry := calls.foldl call value

end Registry

namespace Lineage

variable {l : Lineage} {value : Registry}

/-- The registry that there is now refers to a table that there is, and as a value it is this one. -/
def Holds (l : Lineage) (value : Registry) : Prop := l.tables.Holds l.held value

theorem call_tables (l : Lineage) (c : RegistryCall) :
    (l.call c).tables = (l.tables.answer l.held c).2 := by
  unfold call
  rcases l.tables.answer l.held c with ⟨_ | _, ts⟩ <;> rfl

theorem call_held (l : Lineage) (c : RegistryCall) :
    (l.call c).held =
      match (l.tables.answer l.held c).1 with
      | .ok r => r
      | .error _ => l.held := by
  unfold call
  rcases l.tables.answer l.held c with ⟨_ | _, ts⟩ <;> rfl

theorem extends_call (l : Lineage) (c : RegistryCall) :
    l.tables.Extends (l.call c).tables := by
  rw [call_tables]
  exact l.tables.extends_answer l.held c

theorem extends_after (l : Lineage) (calls : List RegistryCall) :
    l.tables.Extends (l.after calls).tables := by
  induction calls generalizing l with
  | nil => exact .refl _
  | cons c calls ih => exact (l.extends_call c).trans (ih (l.call c))

theorem extends_after_append (l : Lineage) (earlier later : List RegistryCall) :
    (l.after earlier).tables.Extends (l.after (earlier ++ later)).tables := by
  rw [show l.after (earlier ++ later) = (l.after earlier).after later from List.foldl_append]
  exact extends_after _ later

theorem Holds.call (h : l.Holds value) (c : RegistryCall) : (l.call c).Holds (value.call c) := by
  have hanswer := StyleTables.answer_eq h c
  rw [Registry.call, Holds, call_held, call_tables]
  cases hcall : value.call? c with
  | none =>
    rw [hcall] at hanswer
    obtain ⟨name, -, hfails⟩ := hanswer
    rw [hfails]
    exact StyleTables.Holds.mono h (l.tables.extends_answer l.held c)
  | some value' =>
    rw [hcall] at hanswer
    obtain ⟨r, hmade, hholds⟩ := hanswer
    rw [hmade]
    exact hholds

/-- **The registry in memory follows its value**, through calls one after the other. -/
theorem Holds.after (h : l.Holds value) (calls : List RegistryCall) :
    (l.after calls).Holds (value.after calls) := by
  induction calls generalizing l value with
  | nil => exact h
  | cons c calls ih => exact ih (h.call c)

end Lineage

/-! ## What was registered -/

namespace RegistryCall

/-- What a call registers. -/
def registers? : RegistryCall → Option (Text × Style)
  | .withStyle name style => some (name, style)
  | .withDefault _ => none

/-- What calls register, one after the other. -/
def registrations (calls : List RegistryCall) : List (Text × Style) := calls.filterMap registers?

/-- The default after calls: the name of the last call for another default, of those that find their
name registered. -/
def defaultAfter : (names : List Text) → (default : Text) → List RegistryCall → Text
  | _, default, [] => default
  | names, default, .withStyle name _ :: calls => defaultAfter (name :: names) default calls
  | names, default, .withDefault name :: calls =>
    defaultAfter names (if name ∈ names then name else default) calls

end RegistryCall

theorem isSome_lookup_iff {styles : List (Text × Style)} {name : Text} :
    (styles.lookup name).isSome ↔ name ∈ styles.map Prod.fst := by
  induction styles with
  | nil => simp
  | cons entry styles ih =>
    obtain ⟨other, style⟩ := entry
    rw [List.lookup_cons, List.map_cons, List.mem_cons]
    by_cases h : name = other
    · simp [h]
    · simp [h, beq_eq_false_iff_ne.mpr h, ih]

theorem mem_of_mem_putStyle {name : Text} {style : Style} {styles : List (Text × Style)}
    {entry : Text × Style} (h : entry ∈ putStyle name style styles) :
    entry = (name, style) ∨ entry ∈ styles := by
  induction styles with
  | nil => exact .inl (List.mem_singleton.mp h)
  | cons first styles ih =>
    rw [putStyle] at h
    split at h
    · rcases List.mem_cons.mp h with h | h
      · exact .inl h
      · exact .inr (List.mem_cons_of_mem _ h)
    · rcases List.mem_cons.mp h with h | h
      · exact .inr (h ▸ List.mem_cons_self)
      · exact (ih h).imp_right (List.mem_cons_of_mem _)

namespace Registry

variable {value value₁ value₂ : Registry}

theorem mem_names_iff {name : Text} : name ∈ value.names ↔ (value.get? name).isSome :=
  isSome_lookup_iff.symm

theorem default_mem_names (value : Registry) : value.default ∈ value.names :=
  mem_names_iff.mpr value.registered

theorem names_ne_nil (value : Registry) : value.names ≠ [] :=
  List.ne_nil_of_mem value.default_mem_names

theorem get?_default (value : Registry) : value.get? value.default = some value.defaultStyle :=
  (Option.some_get _).symm

theorem some_resolve (value : Registry) (name : Option Text) :
    some (value.resolve name) = (name.bind value.get?).or (value.get? value.default) := by
  rw [get?_default, resolve]
  cases name.bind value.get? <;> rfl

/-- A call for another default changes no style. -/
theorem styles_call_withDefault (value : Registry) (name : Text) :
    (value.call (.withDefault name)).styles = value.styles := by
  unfold call call? withDefault?
  dsimp only
  split <;> rfl

theorem call?_of_not_mem {name : Text} (h : name ∉ value.names) :
    value.call? (.withDefault name) = none :=
  dif_neg (mt isSome_lookup_iff.mp h)

theorem default_call_withDefault (value : Registry) (name : Text) :
    (value.call (.withDefault name)).default =
      if name ∈ value.names then name else value.default := by
  unfold call call? withDefault?
  dsimp only
  by_cases h : name ∈ value.names
  · rw [dif_pos (isSome_lookup_iff.mpr h), if_pos h]
    rfl
  · rw [dif_neg (mt isSome_lookup_iff.mp h), if_neg h]
    rfl

/-- **What is found under a name after calls** is what was the last to be put there. -/
theorem get?_after (value : Registry) (calls : List RegistryCall) (name : Text) :
    (value.after calls).get? name = value.last? (RegistryCall.registrations calls) name := by
  induction calls generalizing value with
  | nil => rfl
  | cons c calls ih =>
    refine (ih (value.call c)).trans ?_
    cases c with
    | withStyle other style =>
      rw [← get?_withStyles]
      exact get?_withStyles value name ((other, style) :: RegistryCall.registrations calls)
    | withDefault other =>
      show ((RegistryCall.registrations calls).reverse.lookup name).or
        ((value.call (.withDefault other)).styles.lookup name) = _
      rw [styles_call_withDefault]
      rfl

/-- The default after calls, where the names that are registered to begin with are known. -/
theorem default_after (value : Registry) {names : List Text}
    (hnames : ∀ name, name ∈ names ↔ name ∈ value.names) (calls : List RegistryCall) :
    (value.after calls).default = RegistryCall.defaultAfter names value.default calls := by
  induction calls generalizing value names with
  | nil => rfl
  | cons c calls ih =>
    cases c with
    | withStyle other style =>
      refine ih (value.withStyle other style) fun name => ?_
      rw [mem_names_iff, get?_withStyle, List.mem_cons, hnames, mem_names_iff]
      split
      · simp [*]
      · simp [*]
    | withDefault other =>
      have hsame : ∀ name, name ∈ names ↔ name ∈ (value.call (.withDefault other)).names := by
        intro name
        rw [hnames, Registry.names, Registry.names, styles_call_withDefault]
      refine (ih (value.call (.withDefault other)) hsame).trans ?_
      rw [default_call_withDefault, RegistryCall.defaultAfter]
      simp only [hnames]

theorem callable_after (value : Registry)
    (hvalue : ∀ entry ∈ value.styles, entry.2.callable = true)
    {calls : List RegistryCall}
    (hcalls : ∀ entry ∈ RegistryCall.registrations calls, entry.2.callable = true) :
    ∀ entry ∈ (value.after calls).styles, entry.2.callable = true := by
  induction calls generalizing value with
  | nil => exact hvalue
  | cons c calls ih =>
    cases c with
    | withStyle name style =>
      refine ih (value.withStyle name style) (fun entry hentry => ?_) fun entry hentry =>
        hcalls entry (List.mem_cons_of_mem (name, style) hentry)
      rcases mem_of_mem_putStyle hentry with rfl | hentry
      · exact hcalls (name, style) List.mem_cons_self
      · exact hvalue entry hentry
    | withDefault name =>
      refine ih (value.call (.withDefault name)) ?_ hcalls
      rw [styles_call_withDefault]
      exact hvalue

/-! ## Registries that find the same -/

/-- The registries find the same styles under all names, and have the same default. -/
structure FindsSame (value₁ value₂ : Registry) : Prop where
  get?_eq : ∀ name, value₁.get? name = value₂.get? name
  default_eq : value₁.default = value₂.default

theorem FindsSame.resolve_eq (h : value₁.FindsSame value₂) (name : Option Text) :
    value₁.resolve name = value₂.resolve name := by
  have hget : value₁.get? = value₂.get? := funext h.get?_eq
  apply Option.some.inj
  rw [some_resolve, some_resolve, hget, h.default_eq]

/-- **Registries that find the same escape the same**, and leave the same records. -/
theorem FindsSame.escapeValue_eq (h : value₁.FindsSame value₂) (s : Setting) (call : Caller)
    (line : Nat) (name v : Value) :
    escapeValue { s with escapes := value₁ } call line name v =
      escapeValue { s with escapes := value₂ } call line name v := by
  have hdefault : value₁.defaultStyle = value₂.defaultStyle := h.resolve_eq none
  have hrecord : value₁.fallbackRecord = value₂.fallbackRecord := by
    funext written
    rw [fallbackRecord, fallbackRecord, h.default_eq]
  have hlog : value₁.resolveLog = value₂.resolveLog := by
    funext name
    cases name with
    | none => rfl
    | some name => rw [resolveLog, resolveLog, h.get?_eq, hrecord]
  unfold escapeValue
  simp only [h.resolve_eq, hdefault, hrecord, hlog]

/-- **Styles for different names may be added in either order.** -/
theorem findsSame_withStyle {name₁ name₂ : Text} (h : name₁ ≠ name₂) (style₁ style₂ : Style)
    (value : Registry) :
    ((value.withStyle name₁ style₁).withStyle name₂ style₂).FindsSame
      ((value.withStyle name₂ style₂).withStyle name₁ style₁) where
  get?_eq name := by
    rw [get?_withStyle, get?_withStyle, get?_withStyle, get?_withStyle]
    by_cases h₁ : name = name₁
    · rw [if_neg (h₁ ▸ h), if_pos h₁, if_pos h₁]
    · rw [if_neg h₁, if_neg h₁]
  default_eq := rfl

end Registry

/-! ## What a registry in memory finds -/

namespace StyleTables

variable {ts ts₁ ts₂ : StyleTables} {r r₁ r₂ : HeldRegistry} {value value₁ value₂ : Registry}

/-- **Looking up a style in memory succeeds** and finds what the value finds. -/
theorem Holds.resolve?_eq (h : ts.Holds r value)
    (hcallable : ∀ entry ∈ value.styles, entry.2.callable = true) (name : Option Text) :
    ts.resolve? r name = some (value.resolve name) := by
  have hfilter : (name.bind value.get?).filter (! ·.isAbsent) = name.bind value.get? := by
    cases hfound : name.bind value.get? with
    | none => rfl
    | some style =>
      obtain ⟨found, -, hlookup⟩ := Option.bind_eq_some_iff.mp hfound
      obtain ⟨before, after, hsplit, -⟩ := List.lookup_eq_some_iff.mp hlookup
      have hstyle := hcallable (found, style) (by simp [hsplit])
      rw [Option.filter_some, if_pos (by simp [Style.isAbsent_eq_false hstyle])]
  rw [Registry.some_resolve, ← hfilter]
  unfold resolve?
  dsimp only
  rw [h.read_eq, h.default_eq]
  rfl

/-- A registry that was there before finds what it found. -/
theorem Extends.resolve?_eq (h : ts₁.Extends ts₂) (hr : r.table < ts₁.next) (name : Option Text) :
    ts₂.resolve? r name = ts₁.resolve? r name := by
  unfold resolve?
  dsimp only
  rw [h.read_eq _ hr]

theorem resolve?_eq_of_findsSame (h₁ : ts₁.Holds r₁ value₁) (h₂ : ts₂.Holds r₂ value₂)
    (h : value₁.FindsSame value₂) (name : Option Text) :
    ts₁.resolve? r₁ name = ts₂.resolve? r₂ name := by
  have hlookup : ∀ name, value₁.styles.lookup name = value₂.styles.lookup name := h.get?_eq
  unfold resolve?
  dsimp only
  rw [h₁.read_eq, h₂.read_eq, h₁.default_eq, h₂.default_eq, h.default_eq, hlookup]
  simp only [hlookup]

end StyleTables

namespace Lineage

variable {l : Lineage} {value : Registry}

theorem Holds.names_eq (h : l.Holds value) : l.tables.names l.held = value.names :=
  congrArg (List.map Prod.fst) h.read_eq

/-- A call for a default that is not registered fails, says so, and changes nothing. -/
theorem Holds.call_of_not_mem (h : l.Holds value) {name : Text} (hname : name ∉ value.names) :
    (l.tables.answer l.held (.withDefault name)).1 = .error (Registry.unregistered name) ∧
      (l.call (.withDefault name)).held = l.held ∧
      (l.call (.withDefault name)).value? = l.value? := by
  have hcall := Registry.call?_of_not_mem hname
  have hanswer := StyleTables.answer_eq h (.withDefault name)
  rw [hcall] at hanswer
  obtain ⟨other, hother, hfails⟩ := hanswer
  obtain rfl : name = other := RegistryCall.withDefault.inj hother
  have hafter := h.call (.withDefault name)
  rw [Registry.call, hcall, Option.getD_none] at hafter
  exact ⟨hfails, by rw [call_held, hfails], hafter.value?_eq.trans h.value?_eq.symm⟩

/-- What a registry on the way finds stays what it found. -/
theorem Holds.found_after_append (h : l.Holds value) (earlier later : List RegistryCall) :
    (l.after (earlier ++ later)).tables.value? (l.after earlier).held = (l.after earlier).value? ∧
      ∀ name, (l.after (earlier ++ later)).tables.resolve? (l.after earlier).held name =
        (l.after earlier).resolve? name := by
  have hearlier := h.after earlier
  have hext := l.extends_after_append earlier later
  exact ⟨(hearlier.mono hext).value?_eq.trans hearlier.value?_eq.symm,
    hext.resolve?_eq hearlier.lt_next⟩

/-- Two styles for different names, put there in either order. -/
theorem Holds.exists_of_either_order (h : l.Holds value) {name₁ name₂ : Text} (hne : name₁ ≠ name₂)
    (style₁ style₂ : Style) :
    ∃ value₁ value₂,
      ((l.call (.withStyle name₁ style₁)).call (.withStyle name₂ style₂)).Holds value₁ ∧
      ((l.call (.withStyle name₂ style₂)).call (.withStyle name₁ style₁)).Holds value₂ ∧
      value₁.FindsSame value₂ :=
  ⟨_, _, (h.call (.withStyle name₁ style₁)).call (.withStyle name₂ style₂),
    (h.call (.withStyle name₂ style₂)).call (.withStyle name₁ style₁),
    Registry.findsSame_withStyle hne style₁ style₂ value⟩

end Lineage

/-- An environment uses every registry that it is given. -/
theorem Environment.escapes_new (includePath : Directories) (loader : Option (FileTree → Loader))
    (value : Registry) (executor : Option Executor) (encoding : Text) :
    (Environment.new includePath loader (some value) executor encoding).escapes = value := by
  have hgiven : (some value).filter (! ·.names.isEmpty) = some value :=
    Option.filter_eq_some_iff.mpr ⟨rfl, by simpa using value.names_ne_nil⟩
  rw [new, hgiven]
  rfl

/-- **Registries keep their fallback.** Let a registry be made of the styles in a table, or of the
built-in ones, and go through any calls. Then

* its default is registered; it is the last that was asked for while it was registered;
* it is a value that has names, and an environment that is given it uses it;
* it finds a style for every name: the last that was put under the name or else, as for no name, the
  last that was put under the default;
* a call for a default that is not registered fails, says so, and changes nothing in it;
* every registry on the way, and every one that was there before, still finds what it found;
* styles for different names may be added in either order, as far as looking up styles and escaping
  values are concerned. -/
theorem registries_keep_their_fallback {ts ts₁ : StyleTables} {given : Option Nat} {default : Text}
    {r : HeldRegistry} (hmade : ts.construct given default = (.ok r, ts₁))
    (hgiven : ∀ entry ∈ ts.source given, entry.2.callable = true) (calls : List RegistryCall)
    (hcalls : ∀ entry ∈ RegistryCall.registrations calls, entry.2.callable = true) :
    let begun : Lineage := ⟨ts₁, r⟩
    let l := begun.after calls
    let current := RegistryCall.defaultAfter ((ts.source given).map Prod.fst) default calls
    let last (name : Text) : Option Style :=
      ((RegistryCall.registrations calls).reverse.lookup name).or ((ts.source given).lookup name)
    (l.held.default = current ∧ current ∈ l.tables.names l.held) ∧
    (∃ value, l.value? = some value ∧ value.names ≠ [] ∧
      ∀ includePath loader executor encoding,
        (Environment.new includePath loader (some value) executor encoding).escapes = value) ∧
    (∀ name, ∃ style, l.resolve? name = some style ∧
      some style = (name.bind last).or (last current)) ∧
    (∀ name ∉ l.tables.names l.held,
      (l.tables.answer l.held (.withDefault name)).1 = .error (Registry.unregistered name) ∧
      (l.call (.withDefault name)).held = l.held ∧
      (l.call (.withDefault name)).value? = l.value?) ∧
    (∀ earlier later, calls = earlier ++ later →
      l.tables.value? (begun.after earlier).held = (begun.after earlier).value? ∧
      ∀ name, l.tables.resolve? (begun.after earlier).held name =
        (begun.after earlier).resolve? name) ∧
    (∀ old : HeldRegistry, old.table < ts.next →
      ∀ name, l.tables.resolve? old name = ts.resolve? old name) ∧
    (∀ name₁ name₂ style₁ style₂, name₁ ≠ name₂ →
      ∃ value₁ value₂,
        let l₁ := (l.call (.withStyle name₁ style₁)).call (.withStyle name₂ style₂)
        let l₂ := (l.call (.withStyle name₂ style₂)).call (.withStyle name₁ style₁)
        l₁.value? = some value₁ ∧ l₂.value? = some value₂ ∧
        (∀ name, l₁.resolve? name = l₂.resolve? name) ∧
        ∀ (s : Setting) (caller : Caller) (line : Nat) (name v : Value),
          escapeValue { s with escapes := value₁ } caller line name v =
            escapeValue { s with escapes := value₂ } caller line name v) := by
  intro begun l current last
  obtain ⟨value, hheld, hstyles, hdefault⟩ := StyleTables.holds_of_construct hmade
  have hbegun : begun.Holds value := hheld
  have hholds : l.Holds (value.after calls) := hbegun.after calls
  have hnames : l.tables.names l.held = (value.after calls).names := hholds.names_eq
  have hlast : (value.after calls).get? = last := by
    funext name
    rw [Registry.get?_after, Registry.last?, Registry.get?, hstyles]
  have hcurrent : (value.after calls).default = current := by
    have hsame : ∀ name, name ∈ (ts.source given).map Prod.fst ↔ name ∈ value.names := by
      simp [Registry.names, hstyles]
    have hafter := value.default_after hsame calls
    rwa [hdefault] at hafter
  have hcallable : ∀ entry ∈ (value.after calls).styles, entry.2.callable = true :=
    value.callable_after (hstyles ▸ hgiven) hcalls
  refine ⟨⟨hholds.default_eq.trans hcurrent, ?_⟩, ⟨value.after calls, hholds.value?_eq,
    (value.after calls).names_ne_nil, fun includePath loader executor encoding =>
      Environment.escapes_new includePath loader _ executor encoding⟩, fun name => ?_,
    fun name hname => hholds.call_of_not_mem (hnames ▸ hname), ?_, fun old hold => ?_,
    fun name₁ name₂ style₁ style₂ hne => ?_⟩
  · rw [hnames, ← hcurrent]
    exact (value.after calls).default_mem_names
  · refine ⟨_, hholds.resolve?_eq hcallable name, ?_⟩
    rw [Registry.some_resolve, hlast, hcurrent]
  · rintro earlier later rfl
    exact hbegun.found_after_append earlier later
  · have hext : ts.Extends ts₁ := by
      have hconstruct := ts.extends_construct given default
      rwa [hmade] at hconstruct
    exact (hext.trans (begun.extends_after calls)).resolve?_eq hold
  · obtain ⟨value₁, value₂, h₁, h₂, hsame⟩ := hholds.exists_of_either_order hne style₁ style₂
    exact ⟨value₁, value₂, h₁.value?_eq, h₂.value?_eq,
      StyleTables.resolve?_eq_of_findsSame h₁ h₂ hsame, hsame.escapeValue_eq⟩

/-- A registry of a caller's table whose default is replaced, and that is asked for one more default
that is not there and one that is. -/
theorem registries_keep_their_fallback_of_plain :
    let plain : Text := "plain".toList
    let url : Text := "url".toList
    let ts : StyleTables := ⟨#[[(plain, .raw)]]⟩
    let calls : List RegistryCall :=
      [.withStyle plain .xml, .withDefault "none".toList, .withStyle url .uri, .withDefault url]
    ∃ ts₁ r, ts.construct (some 0) plain = (.ok r, ts₁) ∧
      ((⟨ts₁, r⟩ : Lineage).after calls).resolve? none = some .uri ∧
      ((⟨ts₁, r⟩ : Lineage).after calls).resolve? (some plain) = some .xml ∧
      ((⟨ts₁, r⟩ : Lineage).after calls).tables.resolve? r none = some .raw := by
  intro plain url ts calls
  have hmade : ts.construct (some 0) plain = (.ok ⟨1, plain⟩, ts.make [(plain, .raw)]) := rfl
  obtain ⟨-, -, hfinds, -, hearlier, -⟩ := registries_keep_their_fallback hmade
    (by simp [ts, StyleTables.source, StyleTables.read, Style.callable]) calls
    (by simp [calls, RegistryCall.registrations, RegistryCall.registers?, Style.callable])
  obtain ⟨style, hnone, hstyle⟩ := hfinds none
  obtain ⟨style', hplain, hstyle'⟩ := hfinds (some plain)
  refine ⟨_, _, hmade, hnone.trans ?_, hplain.trans ?_, ((hearlier [] calls rfl).2 none).trans ?_⟩
  · rw [hstyle]
    rfl
  · rw [hstyle']
    rfl
  · rfl

end Stencil
