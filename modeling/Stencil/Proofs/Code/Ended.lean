import Stencil.Proofs.Code.Recut

/-!
# Texts that go on

A text whose every line has its end may go on with other lines. What is read of it is read from its
own lines: indentation, strings and tokens of any kind, unless they reach to its end.

* `measureIndent_append`: indentation.
* `stringInside_append`: strings.
* `readToken_append`: tokens.
-/

namespace Stencil.Code

/-- A text whose every line has its end. -/
def Ended (t : Text) : Prop := ∀ c ∈ t.getLast?, c = '\n'

theorem ended_append_newline (t : Text) : Ended (t ++ ['\n']) := by simp [Ended]

theorem Ended.of_suffix {s t : Text} (ht : Ended t) (hs : s <:+ t) : Ended s := by
  obtain ⟨before, rfl⟩ := hs
  intro c hc
  have hne : s ≠ [] := by
    rintro rfl
    cases hc
  exact ht c (by rwa [List.getLast?_append_of_ne_nil before hne])

theorem Ended.exists_of_ne_nil {t : Text} (ht : Ended t) (hne : t ≠ []) :
    ∃ u, t = u ++ ['\n'] := by
  have hlast : t.getLast hne = '\n' := ht _ (List.getLast?_eq_some_getLast hne)
  exact ⟨t.dropLast, by rw [← hlast, List.dropLast_append_getLast hne]⟩

theorem Ended.exists_of_cons {c : Char} {t : Text} (ht : Ended (c :: t)) (hc : c ≠ '\n') :
    ∃ u, t = u ++ ['\n'] := by
  refine (ht.of_suffix (List.suffix_cons c t)).exists_of_ne_nil ?_
  rintro rfl
  exact hc (ht c rfl)

theorem dropWhile_append_of_ended {p : Char → Bool} (hnewline : p '\n' = false) {t : Text}
    (ht : Ended t) (hne : t ≠ []) (below : Text) :
    (t ++ below).dropWhile p = t.dropWhile p ++ below ∧ t.dropWhile p ≠ [] := by
  obtain ⟨u, rfl⟩ := ht.exists_of_ne_nil hne
  rw [List.append_assoc, List.singleton_append, dropWhile_append_newline hnewline,
    dropWhile_append_newline hnewline, List.append_assoc]
  exact ⟨rfl, by simp⟩

theorem linesBelow_append {t : Text} (ht : Ended t) (hne : t ≠ []) (below : Text) :
    linesBelow (t ++ below) = linesBelow t ++ below := by
  obtain ⟨hdrop, hsome⟩ := dropWhile_append_of_ended (p := (· != '\n')) rfl ht hne below
  obtain ⟨c, rest, hcons⟩ := List.exists_cons_of_ne_nil hsome
  rw [linesBelow, linesBelow, hdrop, hcons]
  rfl

theorem length_linesBelow_lt (c : Char) (t : Text) :
    (linesBelow (c :: t)).length < (c :: t).length := by
  have hlength := (List.dropWhile_suffix (l := c :: t) (· != '\n')).length_le
  rw [linesBelow, List.length_drop]
  simp at hlength ⊢
  omega

theorem isSuffix_linesBelow (t : Text) : linesBelow t <:+ t :=
  (List.drop_suffix 1 _).trans (List.dropWhile_suffix _)

/-- Indentation that ends before the text does is the same when the text goes on. -/
theorem measureIndent_append {column narrow joined : Nat} {held : Option (Nat × Nat)} {t : Text}
    {column' narrow' joined' : Nat} {c : Char} {rest : Text}
    (h : measureIndent column narrow held joined t = some (column', narrow', joined', c :: rest))
    (below : Text) :
    measureIndent column narrow held joined (t ++ below) =
      some (column', narrow', joined', c :: rest ++ below) := by
  fun_induction measureIndent column narrow held joined t with
  | case1 _ _ _ _ t ih => exact ih h
  | case2 _ _ _ _ t ih => exact ih h
  | case3 _ _ _ _ t ih => exact ih h
  | case4 _ _ _ _ t _ ih => exact ih h
  | case5 => cases h
  | case6 column narrow held joined t hblank htab hform _ hback _ _ hheld =>
    obtain ⟨rfl, rfl, rfl, rfl⟩ := by simpa using h
    rw [List.cons_append, measureIndent_of_ne, hheld]
    · rintro rfl
      exact hblank rest rfl
    · rintro rfl
      exact htab rest rfl
    · rintro rfl
      exact hform rest rfl
    · rintro rfl
      exact hback rest rfl

/-- A line has something on it, if only its end, or it is joined to another one. -/
theorem eq_nil_of_measureIndent {column narrow joined : Nat} {held : Option (Nat × Nat)} {t : Text}
    (ht : Ended t) {column' narrow' joined' : Nat}
    (h : measureIndent column narrow held joined t = some (column', narrow', joined', [])) :
    t = [] ∨ joined < joined' := by
  have hmore {c : Char} {t : Text} (ht : Ended (c :: t)) (hc : c ≠ '\n') :
      Ended t ∧ t ≠ [] := by
    obtain ⟨u, rfl⟩ := ht.exists_of_cons hc
    exact ⟨ended_append_newline u, by simp⟩
  fun_induction measureIndent column narrow held joined t with
  | case1 _ _ _ _ t ih =>
    obtain ⟨ht, hne⟩ := hmore ht (by decide)
    exact .inr ((ih ht h).resolve_left hne)
  | case2 _ _ _ _ t ih =>
    obtain ⟨ht, hne⟩ := hmore ht (by decide)
    exact .inr ((ih ht h).resolve_left hne)
  | case3 _ _ _ _ t ih =>
    obtain ⟨ht, hne⟩ := hmore ht (by decide)
    exact .inr ((ih ht h).resolve_left hne)
  | case4 _ _ _ joined t _ ih =>
    obtain hnil | hless := ih (ht.of_suffix ⟨['\\', '\n'], rfl⟩) h
    · rw [hnil] at h
      obtain ⟨-, -, rfl, -⟩ := by simpa [measureIndent] using h
      exact .inr (Nat.lt_succ_self joined)
    · exact .inr (Nat.lt_of_succ_lt hless)
  | case5 => cases h
  | case6 =>
    obtain ⟨-, -, -, rfl⟩ := by simpa using h
    exact .inl rfl

theorem after?_append_of_ended {mark : Text} (hmark : '\n' ∉ mark) {t : Text} (ht : Ended t)
    (hne : t ≠ []) (below : Text) :
    Text.after? mark (t ++ below) = (Text.after? mark t).map (· ++ below) := by
  obtain ⟨u, rfl⟩ := ht.exists_of_ne_nil hne
  rw [List.append_assoc, List.singleton_append, after?_append_newline hmark,
    after?_append_newline hmark, Option.map_map]
  congr 1
  exact funext fun v => by simp

/-- A string that ends before the text does is the same when the text goes on. -/
theorem stringInside_append {quote : Char} (hquote : IsQuote quote) (long : Bool) (below : Text)
    {t inside rest : Text} (ht : Ended t) (h : stringInside quote long t = some (inside, rest)) :
    stringInside quote long (t ++ below) = some (inside, rest ++ below) := by
  have hclose {c : Char} {t : Text} (ht : Ended (c :: t)) :
      (if c = quote then Text.after? (if long then [quote, quote] else []) (t ++ below) else none) =
        (if c = quote then Text.after? (if long then [quote, quote] else []) t else none).map
          (· ++ below) := by
    split
    · rename_i heq
      obtain ⟨u, rfl⟩ := ht.exists_of_cons (heq ▸ hquote.ne_newline.symm)
      refine after?_append_of_ended ?_ (ended_append_newline u) (by simp) below
      have hne := hquote.ne_newline
      split <;> simp [hne]
    · rfl
  have hback {c : Char} {t : Text} (ht : Ended (c :: t))
      (hpair : ∀ (d : Char) (u : Text), c = '\\' → t = d :: u → False) : c ≠ '\\' := by
    rintro rfl
    obtain ⟨u, rfl⟩ := ht.exists_of_cons (by decide)
    obtain ⟨d, v, hv⟩ := List.exists_cons_of_ne_nil (List.concat_ne_nil '\n' u)
    exact hpair d v rfl hv
  fun_induction stringInside quote long t generalizing inside with
  | case1 => cases h
  | case2 c t ih =>
    obtain ⟨cut, hcut, hpair⟩ := Option.map_eq_some_iff.mp h
    obtain ⟨rfl, rfl⟩ := Prod.mk.inj hpair
    have hmore := ih (ht.of_suffix ⟨['\\', c], rfl⟩) hcut
    rw [List.cons_append, List.cons_append, stringInside, hmore]
    rfl
  | case3 c t hpair _ after =>
    rename_i hafter
    obtain ⟨rfl, rfl⟩ := Prod.mk.inj (Option.some.inj h)
    rw [List.cons_append, stringInside_cons long (hback ht hpair), hclose ht, hafter]
    rfl
  | case4 => cases h
  | case5 c t hpair =>
    rename_i hafter hline ih
    obtain ⟨cut, hcut, hpair'⟩ := Option.map_eq_some_iff.mp h
    obtain ⟨rfl, rfl⟩ := Prod.mk.inj hpair'
    have hmore := ih (ht.of_suffix (List.suffix_cons c t)) hcut
    rw [List.cons_append, stringInside_cons long (hback ht hpair), hclose ht, hafter]
    dsimp only [Option.map_none]
    rw [if_neg hline, hmore]
    rfl

/-- Nothing but the end of a string is left behind it. -/
theorem isSuffix_of_stringInside {quote : Char} {long : Bool} {t inside rest : Text}
    (h : stringInside quote long t = some (inside, rest)) : rest <:+ t := by
  fun_induction stringInside quote long t generalizing inside with
  | case1 => cases h
  | case2 c t ih =>
    obtain ⟨cut, hcut, hpair⟩ := Option.map_eq_some_iff.mp h
    obtain ⟨-, rfl⟩ := Prod.mk.inj hpair
    exact (ih hcut).trans ⟨['\\', c], rfl⟩
  | case3 c t _ _ after =>
    rename_i hafter
    obtain ⟨-, rfl⟩ := Prod.mk.inj (Option.some.inj h)
    split at hafter
    · exact (Text.eq_of_after? hafter ▸ List.suffix_append _ after).trans (List.suffix_cons c t)
    · cases hafter
  | case4 => cases h
  | case5 c t =>
    rename_i ih
    obtain ⟨cut, hcut, hpair⟩ := Option.map_eq_some_iff.mp h
    obtain ⟨-, rfl⟩ := Prod.mk.inj hpair
    exact (ih hcut).trans (List.suffix_cons c t)

/-- **A token is read from its own lines**: what stands below the text has no say in it. -/
theorem readToken_append {st st' : Layout} {last : Nat} {c : Char} {t rest : Text} {token : Token}
    (hc : c ≠ '\n') (ht : Ended (c :: t)) (h : readToken st last c t = .ok (token, st', rest)) :
    rest <:+ t ∧ ∀ last' below, readToken st last' c (t ++ below) = .ok (token, st', rest ++ below) := by
  obtain ⟨u, rfl⟩ := ht.exists_of_cons hc
  have hassoc (below : Text) : u ++ ['\n'] ++ below = u ++ '\n' :: below := by simp
  have hline {v w : Text} (h : v <:+ w) : v ++ ['\n'] <:+ w ++ ['\n'] := by
    obtain ⟨before, rfl⟩ := h
    exact ⟨before, by rw [List.append_assoc]⟩
  simp only [hassoc]
  obtain ⟨o, ho, hstart⟩ := exists_stringStart? c u
  cases o with
  | some start =>
    obtain ⟨hquote, hv⟩ := ho start rfl
    obtain ⟨long, w, hw, hread⟩ := exists_readToken_string st hv hquote hstart
    obtain ⟨fault, hown⟩ := hread last []
    rw [hown] at h
    split at h
    · rename_i inside after hinside
      simp only [Except.ok.injEq, Prod.mk.injEq] at h
      obtain ⟨rfl, rfl, rfl⟩ := h
      refine ⟨(isSuffix_of_stringInside hinside).trans (hline hw),
        fun last' below => ?_⟩
      obtain ⟨fault', hmore⟩ := hread last' below
      have happend := stringInside_append hquote long below (ended_append_newline w) hinside
      rw [List.append_assoc, List.singleton_append] at happend
      rw [hmore, happend]
    · cases h
  | none =>
    obtain ⟨fault, hfault⟩ | ⟨token', st₂, v, hv, hread⟩ := exists_readToken st c u hstart
    · rw [hfault] at h
      cases h
    · rw [hread] at h
      simp only [Except.ok.injEq, Prod.mk.injEq] at h
      obtain ⟨rfl, rfl, rfl⟩ := h
      exact ⟨hline hv, fun last' below => by simp [hread]⟩

end Stencil.Code
