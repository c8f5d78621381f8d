import Mathlib.Logic.Function.Basic
import Stencil.Escape

/-!
# References in markup

The style for markup writes five characters as numeric references and all others as they are.
`readReferences` reads any text back: the five references become their characters, all at once, and
what is no reference stays. An escaped text has an ampersand only where a reference begins, so it is
read back to the text that was escaped, whatever stood there before: a reference that the text had
of its own is escaped by its ampersand and read back as the reference.

* `readReferences_xmlText_append`: an escaped text is read back, whatever comes after it.
* `markup_escaping_is_reversible`: what an escaped text has no part of, the inverse, and what follows.
-/

namespace Stencil

/-- The characters that markup gives a meaning. -/
def markupChars : List Char := ['&', '<', '>', '"', '\x27']

/-- The references that are written for them. -/
def references : List Text :=
  ["&#38;", "&#60;", "&#62;", "&#34;", "&#39;"].map String.toList

/-- The text with characters in the place of references. -/
def readReferences : Text → Text
  | '&' :: '#' :: '3' :: '8' :: ';' :: t => '&' :: readReferences t
  | '&' :: '#' :: '6' :: '0' :: ';' :: t => '<' :: readReferences t
  | '&' :: '#' :: '6' :: '2' :: ';' :: t => '>' :: readReferences t
  | '&' :: '#' :: '3' :: '4' :: ';' :: t => '"' :: readReferences t
  | '&' :: '#' :: '3' :: '9' :: ';' :: t => '\x27' :: readReferences t
  | c :: t => c :: readReferences t
  | [] => []

theorem readReferences_cons_of_ne {c : Char} (h : c ≠ '&') (t : Text) :
    readReferences (c :: t) = c :: readReferences t := by
  rw [readReferences]
  all_goals exact fun _ hand => absurd hand h

/-! ## Characters -/

theorem xmlChar_of_not_mem {c : Char} (h : c ∉ markupChars) : xmlChar c = [c] := by
  simp only [markupChars, List.mem_cons, List.not_mem_nil, or_false, not_or] at h
  obtain ⟨hand, hless, hgreater, hquote, hapostrophe⟩ := h
  rw [xmlChar, if_neg hand, if_neg hless, if_neg hgreater, if_neg hquote, if_neg hapostrophe]

/-- What is said of each character of markup. -/
theorem forall_markupChars {p : Char → Prop} :
    (∀ c ∈ markupChars, p c) ↔ p '&' ∧ p '<' ∧ p '>' ∧ p '"' ∧ p '\x27' := by
  simp [markupChars]

theorem xmlChar_mem_references : ∀ c ∈ markupChars, xmlChar c ∈ references :=
  forall_markupChars.mpr (by decide)

/-- An ampersand that is written for a character is the first character that is written for it. -/
theorem eq_nil_of_xmlChar_eq_append {c : Char} {before after : Text}
    (h : xmlChar c = before ++ '&' :: after) : before = [] ∧ c ∈ markupChars := by
  by_cases hc : c ∈ markupChars
  · have htail : ∀ d ∈ markupChars, '&' ∉ (xmlChar d).tail := forall_markupChars.mpr (by decide)
    refine ⟨?_, hc⟩
    cases before with
    | nil => rfl
    | cons d before =>
      refine absurd ?_ (htail c hc)
      rw [h]
      simp
  · rw [xmlChar_of_not_mem hc, eq_comm, List.append_eq_singleton_iff] at h
    obtain ⟨-, hand⟩ | ⟨-, hnil⟩ := h
    · obtain rfl := (List.cons.inj hand).1
      exact absurd (by decide) hc
    · cases hnil

theorem readReferences_xmlChar_append (c : Char) (rest : Text) :
    readReferences (xmlChar c ++ rest) = c :: readReferences rest := by
  by_cases hc : c ∈ markupChars
  · simp only [markupChars, List.mem_cons, List.not_mem_nil, or_false] at hc
    rcases hc with rfl | rfl | rfl | rfl | rfl <;> rfl
  · have hne : c ≠ '&' := fun heq => hc (heq ▸ by decide)
    rw [xmlChar_of_not_mem hc, List.singleton_append, readReferences_cons_of_ne hne]

/-! ## Texts -/

theorem xmlText_cons (c : Char) (t : Text) : xmlText (c :: t) = xmlChar c ++ xmlText t :=
  List.flatMap_cons

/-- An escaped text has none of the characters of markup but the ampersand. -/
theorem not_mem_xmlText {c : Char} (hc : c ∈ markupChars) (hand : c ≠ '&') (t : Text) :
    c ∉ xmlText t := by
  intro hmem
  obtain ⟨d, -, hd⟩ := List.mem_flatMap.mp hmem
  by_cases hmarkup : d ∈ markupChars
  · have hplain : ∀ d ∈ markupChars,
        (xmlChar d).all (fun c => c = '&' || decide (c ∉ markupChars)) = true :=
      forall_markupChars.mpr (by decide)
    have hchar := List.all_eq_true.mp (hplain d hmarkup) c hd
    simp [hand, hc] at hchar
  · rw [xmlChar_of_not_mem hmarkup, List.mem_singleton] at hd
    exact hmarkup (hd ▸ hc)

/-- **Every ampersand of an escaped text begins a reference.** -/
theorem exists_reference_of_xmlText_eq {t before after : Text}
    (h : xmlText t = before ++ '&' :: after) : ∃ r ∈ references, r <+: '&' :: after := by
  induction t generalizing before with
  | nil => simp [xmlText] at h
  | cons c t ih =>
    rw [xmlText_cons, List.append_eq_append_iff] at h
    obtain ⟨more, -, hmore⟩ | ⟨more, hchar, hrest⟩ := h
    · exact ih hmore
    · cases more with
      | nil => exact @ih [] hrest.symm
      | cons d more =>
        -- the ampersand is one of those that are written for this character
        obtain ⟨rfl, hmore⟩ := List.cons.inj hrest
        obtain ⟨rfl, hc⟩ := eq_nil_of_xmlChar_eq_append hchar
        refine ⟨xmlChar c, xmlChar_mem_references c hc, xmlText t, ?_⟩
        rw [hchar, hmore]
        rfl

/-- **An escaped text is read back**, whatever comes after it. -/
theorem readReferences_xmlText_append (t rest : Text) :
    readReferences (xmlText t ++ rest) = t ++ readReferences rest := by
  induction t with
  | nil => rfl
  | cons c t ih =>
    rw [xmlText_cons, List.append_assoc, readReferences_xmlChar_append, ih, List.cons_append]

theorem readReferences_xmlText (t : Text) : readReferences (xmlText t) = t := by
  have h := readReferences_xmlText_append t []
  rwa [List.append_nil, readReferences, List.append_nil] at h

/-- **Escaping for markup is safe and can be undone.** What the style makes of a value is what it
makes of the text that the value has as it is. It has no angle brackets and no quotation marks, and
every ampersand in it begins one of the five references; when these are read all at once, the text
is back, also in front of other text, and whatever references or pieces of references the text had
of its own. Hence different texts are escaped differently, and texts one after the other are escaped
one after the other. -/
theorem markup_escaping_is_reversible {m : Type → Type} [Monad m] [LawfulMonad m]
    (str : Value → m Text) (fail : Thrown → m Value) :
    (∀ v, Style.apply str fail .raw v = Value.text <$> v.plainOr str ∧
      Style.apply str fail .xml v = (fun t => .text (xmlText t)) <$> v.plainOr str) ∧
    (∀ t, (∀ c ∈ ['<', '>', '"', '\x27'], c ∉ xmlText t) ∧
      (∀ before after, xmlText t = before ++ '&' :: after →
        ∃ r ∈ references, r <+: '&' :: after) ∧
      readReferences (xmlText t) = t ∧
      ∀ rest, readReferences (xmlText t ++ rest) = t ++ readReferences rest) ∧
    Function.Injective xmlText ∧ ∀ s t, xmlText (s ++ t) = xmlText s ++ xmlText t := by
  refine ⟨fun v => ⟨?_, ?_⟩, fun t => ⟨fun c hc => ?_, fun before after => ?_,
    readReferences_xmlText t, readReferences_xmlText_append t⟩, ?_, xmlText_append⟩
  · exact bind_pure_comp _ _
  · exact bind_pure_comp _ _
  · refine not_mem_xmlText (List.mem_cons_of_mem '&' hc) ?_ t
    rintro rfl
    exact absurd hc (by decide)
  · exact exists_reference_of_xmlText_eq
  · exact Function.LeftInverse.injective readReferences_xmlText

/-- Bytes that hold a reference, half a reference, and a character that is escaped. -/
theorem markup_escaping_is_reversible_of_references :
    let t : Text := "&#60;&#6<".toList
    let escaped : Text := "&#38;#60;&#38;#6&#60;".toList
    Style.apply (m := Id) (fun _ => []) (fun _ => .none) .xml (.bytes false (Codec.utf8Bytes t)) =
        .text escaped ∧
      '<' ∉ escaped ∧ (∃ r ∈ references, r <+: "&#60;".toList) ∧ readReferences escaped = t := by
  intro t escaped
  obtain ⟨hstyle, htext, -⟩ :=
    markup_escaping_is_reversible (m := Id) (fun _ => []) (fun _ => .none)
  obtain ⟨-, happly⟩ := hstyle (.bytes false (Codec.utf8Bytes t))
  obtain ⟨habsent, hand, hread, -⟩ := htext t
  have hescaped : xmlText t = escaped := by decide
  have hplain : Codec.decodeTolerant (Codec.utf8Bytes t) = t := by decide +kernel
  rw [hescaped] at habsent hand hread
  refine ⟨happly.trans ?_, habsent '<' (by decide), ?_, hread⟩
  · show Value.text (xmlText (Codec.decodeTolerant (Codec.utf8Bytes t))) = _
    rw [hplain, hescaped]
  · exact hand "&#38;#60;&#38;#6".toList "#60;".toList (by decide)

end Stencil
