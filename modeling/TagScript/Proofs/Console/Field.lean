import Mathlib.Data.List.Basic
import TagScript.Console.Field

/-!
# `TagScript.Proofs.Console.Field`: what a field holds

A field cleans what is put in it, cuts it to the limit and keeps its cursor within it. So its own
value is clean and short enough at any time, and a field takes such a value as it is. What was read
from a field can therefore be put back later, together with the cursor (`Field.restore`).

* `isPlain_iff`: the characters that a field takes as they are. These are all but the control
  characters and the one that stands for bytes without meaning.
* `Field.Sound`: what holds of a field after every operation.
-/

set_option autoImplicit false

namespace TagScript.Console

open Text

variable {c : Char} {cs ds : List Char}

/-! ### Characters -/

/-- Whether a field takes a character as it is. -/
def isPlain (c : Char) : Bool := cleanChar c = some c

/-- The control characters of the Unicode standard. -/
def isControl (c : Char) : Bool :=
  c.toNat < 0x20 || (0x7f ≤ c.toNat && c.toNat < 0xa0)

/-- A plain character is neither a control character nor the replacement character. -/
theorem isPlain_iff : isPlain c = true ↔ isControl c = false ∧ c ≠ replacement := by
  by_cases hreplacement : c = replacement
  · subst hreplacement
    decide
  by_cases hspace : c = '\r' ∨ c = '\n' ∨ c = '\t'
  · rcases hspace with rfl | rfl | rfl <;> decide
  · rw [← or_assoc] at hspace
    simp [isPlain, cleanChar, isControl, hreplacement, hspace]
    omega

/-- What a field makes of a character is a character that it takes as it is. -/
theorem isPlain_cleanChar {d : Char} (h : cleanChar c = some d) : isPlain d = true := by
  have hsame := h
  unfold cleanChar at hsame
  split_ifs at hsame
  · cases hsame
    decide
  · cases hsame
    simpa [isPlain] using h

/-- Nothing but plain characters is left in a clean text. -/
theorem isPlain_of_mem_clean (h : c ∈ clean cs) : isPlain c = true := by
  obtain ⟨d, _, hd⟩ := List.mem_filterMap.mp h
  exact isPlain_cleanChar hd

/-- A text of plain characters is clean as it is. -/
theorem clean_of_isPlain (h : ∀ c ∈ cs, isPlain c = true) : clean cs = cs := by
  induction cs with
  | nil => rfl
  | cons c cs ih =>
      obtain ⟨hc, hrest⟩ := List.forall_mem_cons.mp h
      rw [clean, List.filterMap_cons_some (of_decide_eq_true hc)]
      exact congrArg (c :: ·) (ih hrest)

namespace Field

variable {f g : Field}

/-! ### Values -/

/-- What a field takes as it is: plain characters, and no more of them than there is room for. -/
structure Keeps (cs : List Char) : Prop where
  plain : ∀ c ∈ cs, isPlain c = true
  length_le : cs.length ≤ fieldLimit

/-- A field that keeps a text keeps what is left of it when characters are taken out. -/
theorem Keeps.of_sublist (h : Keeps cs) (hsub : ds.Sublist cs) : Keeps ds :=
  ⟨fun c hc => h.plain c (hsub.subset hc), Nat.le_trans hsub.length_le h.length_le⟩

/-- A value without a part of it. -/
theorem sublist_without {start stop : Nat} (cs : List Char) (h : start ≤ stop) :
    (cs.take start ++ cs.drop stop).Sublist cs := by
  conv => rhs; rw [← List.take_append_drop start cs]
  exact (List.Sublist.refl _).append (List.drop_sublist_drop_left cs h)

/-- A text that the field keeps becomes its value as it is. -/
theorem value_setValue (h : Keeps cs) (f : Field) : (f.setValue cs).value = cs := by
  show (clean cs).take fieldLimit = cs
  rw [clean_of_isPlain h.plain, List.take_of_length_le h.length_le]

/-! ### Fields -/

/-- What holds of a field after every operation. -/
structure Sound (f : Field) : Prop where
  keeps : Keeps f.value
  cursor_le : f.cursor ≤ f.value.length

/-- The empty field is sound. -/
theorem sound_empty : empty.Sound := ⟨⟨by simp [empty], by simp [empty]⟩, by simp [empty]⟩

/-- Moving the cursor leaves a field sound: it stops at the ends of the value. -/
theorem Sound.setCursor (h : f.Sound) (cursor : Nat) : (f.setCursor cursor).Sound :=
  ⟨h.keeps, Nat.min_le_right _ _⟩

/-- A field is sound after plain characters were put in it. -/
theorem sound_replace (h : ∀ c ∈ cs, isPlain c = true) (f : Field) : (f.replace cs).Sound := by
  refine ⟨⟨fun c hc => h c (List.mem_of_mem_take hc), List.length_take_le _ _⟩, ?_⟩
  simp only [replace]
  split_ifs with hend
  · exact Nat.le_refl _
  · simp only [Bool.or_eq_true, decide_eq_true_eq, not_or] at hend
    exact Nat.not_lt.mp hend.2

/-- A field is sound after a value was given to it, whatever the value. -/
theorem sound_setValue (f : Field) (cs : List Char) : (f.setValue cs).Sound :=
  sound_replace (fun _ hc => isPlain_of_mem_clean hc) f

/-- Typing or pasting leaves a field sound, whatever the characters. -/
theorem Sound.insert (h : f.Sound) (cs : List Char) : (f.insert cs).Sound := by
  unfold Field.insert
  dsimp only
  split_ifs
  · exact h
  · refine sound_replace (fun c hc => ?_) _
    simp only [List.mem_append] at hc
    rcases hc with (hc | hc) | hc
    · exact h.keeps.plain c (List.mem_of_mem_take hc)
    · exact isPlain_of_mem_clean (List.mem_of_mem_take hc)
    · exact h.keeps.plain c (List.mem_of_mem_drop hc)

/-- An editing key leaves a field sound. -/
theorem Sound.edit (h : f.Sound) (key : EditKey) : (f.edit key).Sound := by
  have hcursor := h.cursor_le
  -- A key only takes characters out, or moves the cursor, which it keeps within the value.
  cases key with
  | backspace =>
      refine ⟨h.keeps.of_sublist (sublist_without _ (Nat.sub_le _ _)), ?_⟩
      simp only [Field.edit, List.length_append, List.length_take, List.length_drop]
      omega
  | delete =>
      refine ⟨h.keeps.of_sublist (sublist_without _ (Nat.le_succ _)), ?_⟩
      simp only [Field.edit, List.length_append, List.length_take, List.length_drop]
      omega
  | left => exact ⟨h.keeps, Nat.le_trans (Nat.sub_le _ _) hcursor⟩
  | right => exact h.setCursor _
  | home => exact ⟨h.keeps, Nat.zero_le _⟩
  | finish => exact ⟨h.keeps, Nat.le_refl _⟩
  | deleteBefore => exact ⟨h.keeps.of_sublist (List.drop_sublist _ _), Nat.zero_le _⟩
  | deleteAfter =>
      refine ⟨h.keeps.of_sublist (List.take_sublist _ _), ?_⟩
      simp only [Field.edit, List.length_take]
      omega
  | moveTo cursor => exact h.setCursor cursor
  | deleteFrom start stop =>
      refine ⟨h.keeps.of_sublist (sublist_without _ (Nat.le_max_left start stop)), ?_⟩
      simp only [Field.edit, List.length_append, List.length_take, List.length_drop]
      omega
  | other => exact h

/-- What was read from a field can be put back, whatever is in the field now. -/
theorem restore (h : g.Sound) (f : Field) : (f.setValue g.value).setCursor g.cursor = g := by
  have hvalue := value_setValue h.keeps f
  rw [setCursor, hvalue, Nat.min_eq_left h.cursor_le]

end Field

end TagScript.Console
