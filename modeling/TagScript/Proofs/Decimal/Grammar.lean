import Mathlib.Data.List.TakeWhile
import TagScript.Decimal.Numeral

/-!
# `TagScript.Proofs.Decimal.Grammar`: the grammar of numerals

`NumeralText` is the grammar of decimal numerals. A numeral is a sign, digits, a fraction and an
exponent, each of which may be left out, with one digit at least before the exponent. The relation
gives the parts of the numeral along with its text, and reading a text finds the numeral that the
grammar relates to it, if there is one (`Numeral.parse?_eq_some_iff`). `RadixText` does the same for
radix numerals: a zero, the mark of a base and digits of this base, below `2 ^ 64`
(`radixText_iff`).

No text is a numeral of both kinds, because the mark of a base does not occur in a decimal numeral
(`NumeralText.mem`).
-/

set_option autoImplicit false

namespace TagScript.Decimal

/-! ### The grammar -/

/-- An optional sign, and whether it is negative. -/
inductive SignText : List Char → Bool → Prop where
  | none : SignText [] false
  | plus : SignText ['+'] false
  | minus : SignText ['-'] true

/-- Digits and nothing else. -/
def AllDigits (cs : List Char) : Prop := ∀ c ∈ cs, isDigit c = true

/-- An optional fraction, and its digits. -/
inductive FractionText : List Char → List Char → Prop where
  | none : FractionText [] []
  | point {digits : List Char} (hdigits : AllDigits digits) : FractionText ('.' :: digits) digits

/-- An optional exponent, and its value. -/
inductive ExponentText : List Char → Int → Prop where
  | none : ExponentText [] 0
  | marked {mark : Char} {sign digits : List Char} {negative : Bool} (hmark : mark ∈ ['e', 'E'])
      (hsign : SignText sign negative) (hne : digits ≠ []) (hdigits : AllDigits digits) :
      ExponentText (mark :: (sign ++ digits))
        (if negative then -ofDigits 10 digitValue digits else ofDigits 10 digitValue digits)

/-- A decimal numeral, and its parts. -/
inductive NumeralText : List Char → Numeral → Prop where
  | mk {sign whole point fraction mark : List Char} {negative : Bool} {exponent : Int}
      (hsign : SignText sign negative) (hwhole : AllDigits whole)
      (hfraction : FractionText point fraction) (hne : whole ++ fraction ≠ [])
      (hexponent : ExponentText mark exponent) :
      NumeralText (sign ++ (whole ++ (point ++ mark)))
        ⟨negative, ofDigits 10 digitValue (whole ++ fraction), exponent - fraction.length⟩

/-- The marks of bases. -/
def radixMarks : List (Char × Nat) :=
  [('x', 16), ('X', 16), ('o', 8), ('O', 8), ('b', 2), ('B', 2)]

/-- A radix numeral, and its value. -/
inductive RadixText : List Char → Nat → Prop where
  | mk {mark : Char} {base : Nat} {digits : List Char} (hmark : (mark, base) ∈ radixMarks)
      (hne : digits ≠ []) (hdigits : ∀ d ∈ digits, isDigitOf base d = true)
      (hlt : ofDigits base digitValue digits < Nat.pow 2 64) :
      RadixText ('0' :: mark :: digits) (ofDigits base digitValue digits)

/-! ### Where the parts end -/

/-- No digit stands in front. -/
def NoDigit (cs : List Char) : Prop := ∀ c ∈ cs.head?, isDigit c = false

/-- Of digits and a text that begins with none, taking digits takes the digits. -/
theorem takeWhile_isDigit {digits rest : List Char} (h : AllDigits digits) (hrest : NoDigit rest) :
    (digits ++ rest).takeWhile isDigit = digits := by
  rw [List.takeWhile_append_of_pos h]
  cases rest with
  | nil => exact List.append_nil _
  | cons c rest => rw [List.takeWhile_cons_of_neg (by simp [hrest c rfl]), List.append_nil]

/-- Dropping digits leaves the text behind them. -/
theorem dropWhile_isDigit {digits rest : List Char} (h : AllDigits digits) (hrest : NoDigit rest) :
    (digits ++ rest).dropWhile isDigit = rest := by
  rw [List.dropWhile_append_of_pos h]
  cases rest with
  | nil => rfl
  | cons c rest => rw [List.dropWhile_cons_of_neg (by simp [hrest c rfl])]

/-- What is taken as digits is digits. -/
theorem allDigits_takeWhile (cs : List Char) : AllDigits (cs.takeWhile isDigit) :=
  fun _ hc => List.mem_takeWhile_imp hc

/-- A sign is not taken for a digit or a point. -/
theorem splitSign_append {sign rest : List Char} {negative : Bool} (h : SignText sign negative)
    (hrest : ∀ c ∈ rest.head?, c ∉ ['+', '-']) : splitSign (sign ++ rest) = (negative, rest) := by
  cases h with
  | plus | minus => rfl
  | none =>
      cases rest with
      | nil => rfl
      | cons c rest =>
          have hc := hrest c rfl
          rw [List.nil_append]
          unfold splitSign
          split
          · next heq => simp_all
          · next heq => simp_all
          · rfl

/-- Every text is split into an optional sign and the rest. -/
theorem exists_splitSign (cs : List Char) :
    ∃ sign negative rest, splitSign cs = (negative, rest) ∧ SignText sign negative ∧
      sign ++ rest = cs := by
  unfold splitSign
  split
  · exact ⟨_, _, _, rfl, .plus, rfl⟩
  · exact ⟨_, _, _, rfl, .minus, rfl⟩
  · exact ⟨_, _, _, rfl, .none, rfl⟩

/-- A digit is no sign. -/
theorem notMem_signs_of_isDigit {c : Char} (h : isDigit c = true) : c ∉ ['+', '-'] := by
  rintro hmem
  simp only [List.mem_cons, List.not_mem_nil, or_false] at hmem
  rcases hmem with rfl | rfl <;> cases h

/-! ### Decimal numerals -/

/-- The exponents that are read are those of the grammar. -/
theorem exponentPart?_eq_some_iff {cs : List Char} {exponent : Int} :
    exponentPart? cs = some exponent ↔ ExponentText cs exponent := by
  constructor
  · intro h
    cases cs with
    | nil =>
        cases h
        exact .none
    | cons mark rest =>
        obtain ⟨sign, negative, digits, hsplit, hsign, heq⟩ := exists_splitSign rest
        simp only [exponentPart?, hsplit] at h
        split at h
        · next hguard =>
          obtain ⟨hmark, hne, hdigits⟩ := hguard
          cases h
          rw [← heq]
          exact .marked (by simpa using hmark) hsign hne (List.all_eq_true.mp hdigits)
        · cases h
  · intro h
    cases h with
    | none => rfl
    | @marked mark sign digits negative hmark hsign hne hdigits =>
        -- The digits do not begin with a sign, so the sign is split off and nothing else.
        have hhead : ∀ c ∈ digits.head?, c ∉ ['+', '-'] := fun c hc =>
          notMem_signs_of_isDigit (hdigits c (List.mem_of_mem_head? hc))
        have hguard : (mark = 'e' ∨ mark = 'E') ∧ digits ≠ [] ∧ digits.all isDigit = true :=
          ⟨by simpa using hmark, hne, List.all_eq_true.mpr hdigits⟩
        rw [exponentPart?, splitSign_append hsign hhead]
        exact if_pos hguard

/-- An exponent does not begin with a digit. -/
theorem ExponentText.noDigit {cs : List Char} {exponent : Int} (h : ExponentText cs exponent) :
    NoDigit cs := by
  cases h with
  | none => simp [NoDigit]
  | marked hmark =>
      rintro c hc
      cases hc
      simp only [List.mem_cons, List.not_mem_nil, or_false] at hmark
      rcases hmark with rfl | rfl <;> rfl

/-- A fraction and an exponent behind it are split where the exponent begins. -/
theorem splitFraction_append {point fraction mark : List Char} {exponent : Int}
    (h : FractionText point fraction) (hmark : ExponentText mark exponent) :
    splitFraction (point ++ mark) = (fraction, mark) := by
  cases h with
  | none =>
      cases hmark with
      | none => rfl
      | marked hmem =>
          simp only [List.mem_cons, List.not_mem_nil, or_false] at hmem
          rcases hmem with rfl | rfl <;> rfl
  | point hdigits =>
      rw [List.cons_append, splitFraction, takeWhile_isDigit hdigits hmark.noDigit,
        dropWhile_isDigit hdigits hmark.noDigit]

/-- Every text is split into an optional fraction and the rest. -/
theorem exists_splitFraction (cs : List Char) :
    ∃ point fraction rest, splitFraction cs = (fraction, rest) ∧ FractionText point fraction ∧
      point ++ rest = cs := by
  unfold splitFraction
  split
  · next rest =>
    exact ⟨_, _, _, rfl, .point (allDigits_takeWhile rest), by
      rw [List.cons_append, List.takeWhile_append_dropWhile]⟩
  · exact ⟨_, _, _, rfl, .none, rfl⟩

/-- A numeral without its sign does not begin with one. -/
theorem NumeralText.noSign {whole point fraction mark : List Char} (hwhole : AllDigits whole)
    (hfraction : FractionText point fraction) (hne : whole ++ fraction ≠ []) :
    ∀ c ∈ (whole ++ (point ++ mark)).head?, c ∉ ['+', '-'] := by
  rintro c hc
  cases whole with
  | cons d whole =>
      cases hc
      exact notMem_signs_of_isDigit (hwhole c List.mem_cons_self)
  | nil =>
      cases hfraction with
      | none => exact absurd rfl hne
      | point =>
          cases hc
          decide

/-- A numeral is found in a text exactly if the text is one of its numerals. -/
theorem Numeral.parse?_eq_some_iff {cs : List Char} {n : Numeral} :
    Numeral.parse? cs = some n ↔ NumeralText cs n := by
  constructor
  · intro h
    obtain ⟨sign, negative, unsigned, hsign, hsignText, rfl⟩ := exists_splitSign cs
    obtain ⟨point, fraction, rest, hfraction, hfractionText, hrest⟩ :=
      exists_splitFraction (unsigned.dropWhile isDigit)
    simp only [Numeral.parse?, hsign, hfraction] at h
    split at h
    · cases h
    · next hsome =>
      obtain ⟨exponent, hexponent, rfl⟩ := Option.map_eq_some_iff.mp h
      have hne : unsigned.takeWhile isDigit ++ fraction ≠ [] := by
        simpa [List.append_eq_nil_iff] using hsome
      have htext := NumeralText.mk hsignText (allDigits_takeWhile unsigned) hfractionText hne
        (exponentPart?_eq_some_iff.mp hexponent)
      rwa [hrest, List.takeWhile_append_dropWhile] at htext
  · rintro (@⟨sign, whole, point, fraction, mark, negative, exponent, hsign, hwhole, hfraction,
      hne, hexponent⟩)
    -- The digits of the whole part end where the fraction or the exponent begins.
    have hend : NoDigit (point ++ mark) := by
      cases hfraction with
      | none => exact hexponent.noDigit
      | point => rintro c ⟨⟩; rfl
    have hsome : (whole.isEmpty && fraction.isEmpty) = false := by
      rw [← Bool.not_eq_true]
      simpa [List.append_eq_nil_iff] using hne
    simp only [Numeral.parse?, splitSign_append hsign (NumeralText.noSign hwhole hfraction hne),
      takeWhile_isDigit hwhole hend, dropWhile_isDigit hwhole hend,
      splitFraction_append hfraction hexponent, hsome, exponentPart?_eq_some_iff.mpr hexponent]
    rfl

/-! ### Radix numerals -/

/-- The bases are those of the marks. -/
theorem radixBase?_eq_some_iff {mark : Char} {base : Nat} :
    radixBase? mark = some base ↔ (mark, base) ∈ radixMarks := by
  unfold radixBase?
  split <;> simp_all [radixMarks, eq_comm]

/-- The digits of a base are read when there are some and their value fits in 64 bits. -/
theorem radixDigits?_eq_some_iff {base value : Nat} {digits : List Char} :
    radixDigits? base digits = some value ↔
      digits ≠ [] ∧ (∀ d ∈ digits, isDigitOf base d = true) ∧
        ofDigits base digitValue digits < Nat.pow 2 64 ∧
        ofDigits base digitValue digits = value := by
  rw [radixDigits?, Option.ite_none_right_eq_some]
  simp [and_assoc]

/-- A text that begins like a radix numeral is one exactly if its digits can be read. -/
theorem radixText_iff {cs digits : List Char} {base value : Nat}
    (h : splitRadix? cs = some (base, digits)) :
    RadixText cs value ↔ radixDigits? base digits = some value := by
  rw [radixDigits?_eq_some_iff]
  unfold splitRadix? at h
  split at h
  · next mark d rest =>
    obtain ⟨base', hbase, heq⟩ := Option.map_eq_some_iff.mp h
    cases heq
    constructor
    · rintro (@⟨_, base', _, hmark, hne, hdigits, hlt⟩)
      rw [← radixBase?_eq_some_iff, hbase] at hmark
      cases hmark
      exact ⟨hne, hdigits, hlt, rfl⟩
    · rintro ⟨hne, hdigits, hlt, rfl⟩
      exact .mk (radixBase?_eq_some_iff.mp hbase) hne hdigits hlt
  · cases h

/-- A radix numeral begins like one. -/
theorem RadixText.splitRadix?_ne_none {cs : List Char} {value : Nat} (h : RadixText cs value) :
    splitRadix? cs ≠ none := by
  obtain @⟨mark, base, digits, hmark, hne, -, -⟩ := h
  cases digits with
  | nil => exact absurd rfl hne
  | cons d rest =>
      rw [splitRadix?, radixBase?_eq_some_iff.mpr hmark]
      exact Option.some_ne_none _

/-! ### The characters of numerals -/

/-- The characters of a decimal numeral that are no digits. -/
def numeralSigns : List Char := ['+', '-', '.', 'e', 'E']

/-- A character of decimal numerals. -/
def NumeralChar (c : Char) : Prop := isDigit c = true ∨ c ∈ numeralSigns

instance (c : Char) : Decidable (NumeralChar c) :=
  inferInstanceAs (Decidable (_ ∨ _))

/-- A character of radix numerals. -/
def RadixChar (c : Char) : Prop := isDigitOf 16 c = true ∨ c ∈ radixMarks.map Prod.fst

instance (c : Char) : Decidable (RadixChar c) :=
  inferInstanceAs (Decidable (_ ∨ _))

/-- Numerals consist of the characters of numerals. -/
theorem NumeralText.mem {cs : List Char} {n : Numeral} (h : NumeralText cs n) {c : Char}
    (hc : c ∈ cs) : NumeralChar c := by
  obtain ⟨hsign, hwhole, hfraction, -, hexponent⟩ := h
  have hsigned : ∀ {sign : List Char} {negative : Bool}, SignText sign negative → c ∈ sign →
      c ∈ numeralSigns := by
    rintro _ _ (_ | _ | _) hmem <;> simp_all [numeralSigns]
  simp only [List.mem_append] at hc
  rcases hc with hc | hc | hc | hc
  · exact .inr (hsigned hsign hc)
  · exact .inl (hwhole c hc)
  · cases hfraction with
    | none => cases hc
    | point hdigits =>
        rcases List.mem_cons.mp hc with rfl | hc
        · exact .inr (by decide)
        · exact .inl (hdigits c hc)
  · cases hexponent with
    | none => cases hc
    | marked hmark hsign' _ hdigits =>
        rcases List.mem_cons.mp hc with rfl | hc
        · exact .inr (List.mem_append_right ['+', '-', '.'] hmark)
        · rcases List.mem_append.mp hc with hc | hc
          · exact .inr (hsigned hsign' hc)
          · exact .inl (hdigits c hc)

/-- A digit is one of every larger base. -/
theorem isDigitOf_mono {base base' : Nat} (h : base ≤ base') {c : Char}
    (hc : isDigitOf base c = true) : isDigitOf base' c = true := by
  rw [isDigitOf, Bool.and_eq_true, decide_eq_true_eq] at hc ⊢
  exact ⟨hc.1, hc.2.trans_le h⟩

/-- Radix numerals consist of the characters of radix numerals. -/
theorem RadixText.mem {cs : List Char} {value : Nat} (h : RadixText cs value) {c : Char}
    (hc : c ∈ cs) : RadixChar c := by
  obtain @⟨mark, base, digits, hmark, -, hdigits, -⟩ := h
  rcases List.mem_cons.mp hc with rfl | hc
  · decide
  rcases List.mem_cons.mp hc with rfl | hc
  · exact .inr (List.mem_map_of_mem hmark)
  · have hbase : ∀ entry ∈ radixMarks, entry.2 ≤ 16 := by decide
    exact .inl (isDigitOf_mono (hbase _ hmark) (hdigits c hc))

/-- The mark of a base is no character of a decimal numeral. -/
theorem not_numeralChar_of_mark {mark : Char} (h : mark ∈ radixMarks.map Prod.fst) :
    ¬NumeralChar mark := by
  obtain ⟨entry, hentry, rfl⟩ := List.mem_map.mp h
  have hmarks : ∀ entry ∈ radixMarks, ¬NumeralChar entry.1 := by decide
  exact hmarks entry hentry

/-- No decimal numeral begins like a radix numeral. -/
theorem NumeralText.splitRadix?_eq_none {cs : List Char} {n : Numeral} (h : NumeralText cs n) :
    splitRadix? cs = none := by
  unfold splitRadix?
  split
  · next mark d rest =>
    rw [Option.map_eq_none_iff, Option.eq_none_iff_forall_ne_some]
    intro base hbase
    have hmark := List.mem_map_of_mem (f := Prod.fst) (radixBase?_eq_some_iff.mp hbase)
    exact not_numeralChar_of_mark hmark (h.mem (by simp))
  · rfl

/-- A numeral is not empty. -/
theorem NumeralText.ne_nil {cs : List Char} {n : Numeral} (h : NumeralText cs n) : cs ≠ [] := by
  rintro rfl
  cases Numeral.parse?_eq_some_iff.mpr h

end TagScript.Decimal
