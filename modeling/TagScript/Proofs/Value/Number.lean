import TagScript.Proofs.Decimal.Grammar
import TagScript.Proofs.Decimal.Overflow
import TagScript.Proofs.Text.Blank
import TagScript.Value.Number

/-!
# `TagScript.Proofs.Value.Number`: the texts that are numbers, and the two readings of a value

`NumberText` says which texts are number literals and of which number: white space, and between
white space a radix numeral or a decimal numeral that does not overflow
(`parseNumber?_eq_some_iff`).

A value is read as a number in two ways. Ranges read it directly. Arithmetic and ordering first
reduce it to a text or a number and then read this. `Value.toNumber_primitive_iff` compares the two:
they agree on every value but the array whose one element is null. The text of an array of two
elements or more has a comma in it and the texts of typed lists, maps and records a bracket, so none
of them is a number (`textToNumber_of_foreign`).
-/

set_option autoImplicit false

namespace TagScript

open Decimal Text

/-! ### Number literals -/

/-- A text that is a number literal, and its number. -/
inductive NumberText (t : String) : Float → Prop where
  | blank (hne : t ≠ "") (hblank : trimBlankChars t.toList = []) : NumberText t 0
  | radix {n : Nat} (hradix : RadixText (trimBlankChars t.toList) n) : NumberText t (Float.ofNat n)
  | decimal {n : Numeral} (hnumeral : NumeralText (trimBlankChars t.toList) n)
      (hfinite : ¬n.Overflows) : NumberText t n.toFloat

/-- The numerals that are read are the radix numerals, and the decimal ones that are not too
large. -/
theorem numeral?_eq_some_iff {cs : List Char} {x : Float} :
    numeral? cs = some x ↔
      (∃ n, RadixText cs n ∧ Float.ofNat n = x) ∨
        ∃ n, NumeralText cs n ∧ ¬n.Overflows ∧ n.toFloat = x := by
  unfold numeral?
  split
  · next base digits hsplit =>
    have hdecimal : ¬∃ n, NumeralText cs n ∧ ¬n.Overflows ∧ n.toFloat = x := by
      rintro ⟨n, hn, -⟩
      rw [hn.splitRadix?_eq_none] at hsplit
      cases hsplit
    rw [or_iff_left hdecimal, Option.map_eq_some_iff]
    exact exists_congr fun n => and_congr_left' (radixText_iff hsplit).symm
  · next hsplit =>
    have hradix : ¬∃ n, RadixText cs n ∧ Float.ofNat n = x := fun ⟨n, hn, _⟩ =>
      hn.splitRadix?_ne_none hsplit
    rw [or_iff_right hradix, Option.bind_eq_some_iff]
    refine exists_congr fun n => and_congr Numeral.parse?_eq_some_iff ?_
    rw [← Numeral.isInf_toFloat_iff, Option.ite_none_left_eq_some]
    simp

/-- A text is read as a number literal exactly if it is one. -/
theorem parseNumber?_eq_some_iff {t : String} {x : Float} :
    parseNumber? t = some x ↔ NumberText t x := by
  unfold parseNumber?
  -- The empty text is no literal, and a text of blanks is zero. Numerals are neither.
  split
  · next hempty =>
    subst hempty
    refine ⟨nofun, ?_⟩
    rintro (⟨hne, -⟩ | hradix | ⟨hnumeral, -⟩)
    · exact absurd rfl hne
    · cases hradix
    · exact absurd rfl hnumeral.ne_nil
  · next hne =>
    split
    · next hblank =>
      constructor
      · rintro ⟨⟩
        exact .blank hne hblank
      · rintro (_ | hradix | ⟨hnumeral, -⟩)
        · rfl
        · rw [hblank] at hradix
          cases hradix
        · exact absurd hblank hnumeral.ne_nil
    · next hsome =>
      rw [numeral?_eq_some_iff]
      constructor
      · rintro (⟨n, hradix, rfl⟩ | ⟨n, hnumeral, hfinite, rfl⟩)
        · exact .radix hradix
        · exact .decimal hnumeral hfinite
      · rintro (⟨-, hblank⟩ | hradix | ⟨hnumeral, hfinite⟩)
        · exact absurd hblank hsome
        · exact .inl ⟨_, hradix, rfl⟩
        · exact .inr ⟨_, hnumeral, hfinite, rfl⟩

/-- A number literal is written with the characters of one kind of numeral. -/
theorem NumberText.forall_mem {t : String} {x : Float} (h : NumberText t x) :
    (∀ c ∈ trimBlankChars t.toList, RadixChar c) ∨
      ∀ c ∈ trimBlankChars t.toList, NumeralChar c := by
  cases h with
  | blank _ hblank => simp [hblank]
  | radix hradix => exact .inl fun c hc => hradix.mem hc
  | decimal hnumeral => exact .inr fun c hc => hnumeral.mem hc

/-- A character that no number is written with. -/
def Foreign (c : Char) : Prop :=
  isBlank c = false ∧ ¬RadixChar c ∧ ¬NumeralChar c ∧ c ∉ "Infinity".toList

instance (c : Char) : Decidable (Foreign c) :=
  inferInstanceAs (Decidable (_ ∧ _))

/-- There is no such character in a number literal. -/
theorem NumberText.not_foreign {t : String} {x : Float} (h : NumberText t x) {c : Char}
    (hmem : c ∈ t.toList) : ¬Foreign c := by
  rintro ⟨hblank, hradix, hnumeral, -⟩
  have hkept := mem_trimBlankChars hmem hblank
  exact h.forall_mem.elim (fun hall => hradix (hall c hkept)) (fun hall => hnumeral (hall c hkept))

/-! ### The two readings of a value -/

/-- A text with such a character is no number. -/
theorem textToNumber_of_foreign {s : String} {c : Char} (hforeign : Foreign c)
    (hmem : c ∈ s.toList) : textToNumber s = notANumber := by
  have hkept : c ∈ (trimBlank s).toList := by
    rw [trimBlank, String.toList_ofList]
    exact mem_trimBlankChars hmem hforeign.1
  have hword : ∀ word ∈ ["", "Infinity", "+Infinity", "-Infinity"], trimBlank s ≠ word := by
    rintro word hword rfl
    have hall : ∀ word ∈ ["", "Infinity", "+Infinity", "-Infinity"],
        word.toList.all (fun c => decide (NumeralChar c ∨ c ∈ "Infinity".toList)) = true := by
      decide
    have hc := of_decide_eq_true (List.all_eq_true.mp (hall _ hword) c hkept)
    exact hc.elim hforeign.2.2.1 hforeign.2.2.2
  -- The text is trimmed once more when it is read as a literal.
  have hparse : parseNumber? (trimBlank s) = none :=
    Option.eq_none_iff_forall_ne_some.mpr fun x hx =>
      (parseNumber?_eq_some_iff.mp hx).not_foreign hkept hforeign
  simp only [textToNumber, hparse]
  simp [hword]

/-- The empty text is zero. -/
theorem textToNumber_empty : textToNumber "" = 0 := by
  decide

/-- The text of null is no number. -/
theorem textToNumber_null : textToNumber "null" = notANumber := by
  decide

namespace Value

/-- The only element of an array has the text that it has by itself, unless it is null. -/
theorem elementTexts_singleton {v : Value} (h : v ≠ .null) : elementTexts [v] = [v.toText] := by
  cases v <;> first | rfl | exact absurd rfl h

/-- What the template has no kind for is shown with a bracket. -/
theorem textToNumber_display {v : Value} {c : Char} (hc : Foreign c) (htext : v.toText = v.display)
    (hmem : c ∈ v.display.toList) : textToNumber v.toText = notANumber := by
  rw [htext]
  exact textToNumber_of_foreign hc hmem

/-- The text of an array of two elements or more is no number. -/
theorem textToNumber_array (identity : Nat) (first second : Value) (rest : List Value) :
    textToNumber (Value.array identity (first :: second :: rest)).toText = notANumber := by
  refine textToNumber_of_foreign (c := ',') (by decide) ?_
  obtain ⟨one, two, others, htexts⟩ : ∃ one two others,
      elementTexts (first :: second :: rest) = one :: two :: others := by
    cases first <;> cases second <;> exact ⟨_, _, _, rfl⟩
  rw [toText, htexts, String.intercalate_cons_cons]
  simp

/-- **The two readings of a value agree, except on the array of one null.** This reads as zero when
it is first reduced to a primitive, because a null in an array has the empty text. Read directly it
is no number, because a null by itself has a text that is not empty. -/
theorem toNumber_primitive_iff (v : Value) :
    v.primitive.toNumber = v.toNumber ↔ ∀ identity, v ≠ .array identity [.null] := by
  cases v with
  | null | bool | text | number | single | integer => exact iff_of_true rfl nofun
  | texts | integers | numbers | map =>
      refine iff_of_true ?_ nofun
      simp only [primitive, toNumber]
      refine textToNumber_display (c := '[') (by decide) rfl ?_
      simp [display, displayWith]
  | record =>
      refine iff_of_true ?_ nofun
      simp only [primitive, toNumber]
      refine textToNumber_display (c := '\x7b') (by decide) rfl ?_
      simp [display, displayWith]
  | array identity items =>
      match items with
      | [] =>
          refine iff_of_true ?_ nofun
          simp only [primitive, toNumber, toText, elementTexts, String.intercalate_nil]
          exact textToNumber_empty
      | first :: second :: rest =>
          refine iff_of_true ?_ nofun
          simp only [primitive, toNumber]
          exact textToNumber_array identity first second rest
      | [item] =>
          simp only [primitive, toNumber]
          -- An element has the same text in the array and by itself, unless it is null.
          by_cases hnull : item = .null
          · subst hnull
            refine iff_of_false ?_ (fun h => h identity rfl)
            simp only [toText, elementTexts, String.intercalate_singleton]
            rw [textToNumber_empty, textToNumber_null]
            decide
          · refine iff_of_true ?_ (by simpa using hnull)
            rw [toText, elementTexts_singleton hnull, String.intercalate_singleton]

/-- The array of one null is zero to arithmetic and no number to a range. -/
theorem null_singleton_readings :
    (Value.array 0 [.null]).primitive.toNumber = 0 ∧
      (Value.array 0 [.null]).toNumber.isNaN = true := by
  constructor
  · simp only [primitive, toNumber, toText, elementTexts, String.intercalate_singleton]
    exact textToNumber_empty
  · simp only [toNumber, toText]
    rw [textToNumber_null]
    decide

end Value

end TagScript
