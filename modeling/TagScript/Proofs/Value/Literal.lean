import TagScript.Literal
import TagScript.Proofs.Value.Number

/-!
# `TagScript.Proofs.Value.Literal`: the grammar of literals

Four kinds of literals are read from text. A text is a number if it is one of `NumberText`, a
variable if it begins with a dollar sign, a boolean if it is one of the two words, and stands for
itself otherwise. `Literal.parse_grammar` says so of every text. The first three kinds have no text
in common, so their order does not matter.

`ForeignNumeral` lists the numerals of other notations that a number reader might accept. None of
them is a number here (`ForeignNumeral.not_numberText`).
-/

set_option autoImplicit false

namespace TagScript

open Decimal Text

/-! ### Numerals of other notations -/

/-- The names of what is no finite number, in small letters. -/
def wordNumerals : List (List Char) := ["inf".toList, "infinity".toList, "nan".toList]

/-- A numeral that is written with underscores, in binary or hexadecimal floating point, with a sign
before the mark of its base, or as a word in any case. -/
inductive ForeignNumeral : List Char → Prop where
  | underscore {cs : List Char} (hmem : '_' ∈ cs) : ForeignNumeral cs
  | radixFloat {sign rest : List Char} {negative : Bool} {mark c : Char}
      (hsign : SignText sign negative) (hmark : mark ∈ radixMarks.map Prod.fst) (hc : c ∈ rest)
      (hpoint : c ∈ ['.', 'p', 'P']) : ForeignNumeral (sign ++ '0' :: mark :: rest)
  | signedRadix {sign mark : Char} {rest : List Char} (hsign : sign ∈ ['+', '-'])
      (hmark : mark ∈ radixMarks.map Prod.fst) : ForeignNumeral (sign :: '0' :: mark :: rest)
  | word {sign word : List Char} {negative : Bool} (hsign : SignText sign negative)
      (hword : word.map Char.toLower ∈ wordNumerals) : ForeignNumeral (sign ++ word)

/-- There are two characters that are an `n` in small letters. -/
theorem eq_of_toLower_eq {c : Char} (h : c.toLower = 'n') : c = 'n' ∨ c = 'N' := by
  unfold Char.toLower at h
  split at h
  · have hval : c.val + ('a'.val - 'A'.val) = 'N'.val + ('a'.val - 'A'.val) := congrArg Char.val h
    exact .inr (Char.ext ((UInt32.add_left_inj _).mp hval))
  · exact .inl h

/-- A numeral of another notation has a character that no radix numeral has, and one that no decimal
numeral has. -/
theorem ForeignNumeral.exists_mem {cs : List Char} (h : ForeignNumeral cs) :
    (∃ c ∈ cs, ¬RadixChar c) ∧ ∃ c ∈ cs, ¬NumeralChar c := by
  cases h with
  | underscore hmem => exact ⟨⟨'_', hmem, by decide⟩, '_', hmem, by decide⟩
  | @radixFloat sign rest negative mark c hsign hmark hc hpoint =>
      refine ⟨⟨c, by simp [hc], ?_⟩, mark, by simp, not_numeralChar_of_mark hmark⟩
      simp only [List.mem_cons, List.not_mem_nil, or_false] at hpoint
      rcases hpoint with rfl | rfl | rfl <;> decide
  | @signedRadix sign mark rest hsign hmark =>
      refine ⟨⟨sign, by simp, ?_⟩, mark, by simp, not_numeralChar_of_mark hmark⟩
      simp only [List.mem_cons, List.not_mem_nil, or_false] at hsign
      rcases hsign with rfl | rfl <;> decide
  | @word sign word negative hsign hword =>
      -- Each of the words has an `n`.
      have hletter : ∀ w ∈ wordNumerals, 'n' ∈ w := by decide
      obtain ⟨c, hc, hlower⟩ := List.mem_map.mp (hletter _ hword)
      have hnone : ¬RadixChar c ∧ ¬NumeralChar c := by
        rcases eq_of_toLower_eq hlower with rfl | rfl <;> decide
      exact ⟨⟨c, by simp [hc], hnone.1⟩, c, by simp [hc], hnone.2⟩

/-- A numeral of another notation is no number. -/
theorem ForeignNumeral.not_numberText {t : String} (h : ForeignNumeral (trimBlankChars t.toList))
    (x : Float) : ¬NumberText t x := by
  obtain ⟨⟨c, hc, hradix⟩, d, hd, hnumeral⟩ := h.exists_mem
  intro htext
  exact htext.forall_mem.elim (fun hall => hradix (hall c hc)) (fun hall => hnumeral (hall d hd))

/-! ### Literals -/

/-- The literal that a text stands for. -/
inductive LiteralText (t : String) : Literal → Prop where
  | number {x : Float} (hnumber : NumberText t x) : LiteralText t (.number x)
  | var {name : String} (hname : t = "$" ++ name) : LiteralText t (.var name)
  | bool {b : Bool} (hword : t = boolText b) : LiteralText t (.bool b)
  | text (hnumber : ∀ x, ¬NumberText t x) (hname : ∀ name, t ≠ "$" ++ name)
      (hword : ∀ b, t ≠ boolText b) : LiteralText t (.text t)

namespace Literal

variable {t : String}

/-- A text that is no number is read as a word. -/
theorem parse_of_not_numberText (h : ∀ x, ¬NumberText t x) : parse t = parseWord t := by
  have hparse : parseNumber? t = none :=
    Option.eq_none_iff_forall_ne_some.mpr fun x hx => h x (parseNumber?_eq_some_iff.mp hx)
  rw [parse, hparse]

/-- A word with a dollar sign in front is a variable. -/
theorem parseWord_var (name : String) : parseWord ("$" ++ name) = .var name := by
  simp [parseWord]

/-- The two words for booleans are booleans. -/
theorem parseWord_bool (b : Bool) : parseWord (boolText b) = .bool b := by
  cases b <;> rfl

/-- Any other word stands for itself. -/
theorem parseWord_text (hname : ∀ name, t ≠ "$" ++ name) (hword : ∀ b, t ≠ boolText b) :
    parseWord t = .text t := by
  unfold parseWord
  split
  · next name hlist =>
    refine absurd ?_ (hname (String.ofList name))
    rw [← String.toList_inj, hlist]
    simp
  · rw [if_neg (show t ≠ "true" from hword true), if_neg (show t ≠ "false" from hword false)]

/-- A variable is no number. -/
theorem not_numberText_var {name : String} {x : Float} : ¬NumberText ("$" ++ name) x := fun h =>
  h.not_foreign (c := '$') (by simp) (by decide)

/-- Nor is a boolean. -/
theorem not_numberText_bool {b : Bool} {x : Float} : ¬NumberText (boolText b) x := fun h =>
  match b with
  | true => h.not_foreign (c := 'u') (by decide) (by decide)
  | false => h.not_foreign (c := 's') (by decide) (by decide)

/-- The literal that is read from a text is the one that the grammar relates to it. -/
theorem parse_eq_iff {l : Literal} : parse t = l ↔ LiteralText t l := by
  constructor
  · rintro rfl
    by_cases hnumber : ∃ x, NumberText t x
    · obtain ⟨x, hx⟩ := hnumber
      rw [parse, parseNumber?_eq_some_iff.mpr hx]
      exact .number hx
    · have hnone : ∀ x, ¬NumberText t x := fun x hx => hnumber ⟨x, hx⟩
      rw [parse_of_not_numberText hnone]
      by_cases hname : ∃ name, t = "$" ++ name
      · obtain ⟨name, rfl⟩ := hname
        rw [parseWord_var]
        exact .var rfl
      · by_cases hword : ∃ b, t = boolText b
        · obtain ⟨b, rfl⟩ := hword
          rw [parseWord_bool]
          exact .bool rfl
        · rw [not_exists] at hname hword
          rw [parseWord_text hname hword]
          exact .text hnone hname hword
  · -- A variable or a boolean is no number, so it does not matter that numbers are tried first.
    rintro (hx | rfl | rfl | ⟨hnone, hname, hword⟩)
    · rw [parse, parseNumber?_eq_some_iff.mpr hx]
    · rw [parse_of_not_numberText fun _ => not_numberText_var, parseWord_var]
    · rw [parse_of_not_numberText fun _ => not_numberText_bool, parseWord_bool]
    · rw [parse_of_not_numberText hnone, parseWord_text hname hword]

/-- **Every text is read as the literal that the grammar relates to it**, and the numerals of other
notations are no numbers. -/
theorem parse_grammar (t : String) :
    (∀ l, parse t = l ↔ LiteralText t l) ∧
      (ForeignNumeral (trimBlankChars t.toList) → ∀ x, parse t ≠ .number x) := by
  refine ⟨fun l => parse_eq_iff, fun hforeign x h => ?_⟩
  obtain ⟨hx⟩ := parse_eq_iff.mp h
  exact hforeign.not_numberText x hx

/-- A numeral with an underscore is no number. -/
theorem parse_grammar_underscore :
    ForeignNumeral (trimBlankChars "1_000".toList) ∧ ∀ x, parse "1_000" ≠ .number x :=
  ⟨.underscore (by decide), (parse_grammar "1_000").2 (.underscore (by decide))⟩

end Literal

end TagScript
