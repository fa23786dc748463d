import Mathlib.Data.List.DropRight
import TagScript.Text.Blank

/-!
# `TagScript.Proofs.Text.Blank`: what trimming leaves

Trimming drops blank characters at the two ends of a text. So every character that is left was
there before, every character that is not blank is still there, and there is nothing to trim a
second time.
-/

set_option autoImplicit false

namespace TagScript.Text

variable {cs : List Char} {c : Char}

/-- The blanks are dropped in front and at the end. -/
theorem trimBlankChars_eq (cs : List Char) :
    trimBlankChars cs = (cs.dropWhile isBlank).rdropWhile isBlank :=
  rfl

/-- Trimming drops characters. -/
theorem mem_of_mem_trimBlankChars (h : c ∈ trimBlankChars cs) : c ∈ cs := by
  rw [trimBlankChars_eq] at h
  exact (List.dropWhile_suffix _).subset ((List.rdropWhile_prefix _ _).subset h)

/-- Once trimmed, there is nothing more to trim. -/
theorem trimBlankChars_idem (cs : List Char) :
    trimBlankChars (trimBlankChars cs) = trimBlankChars cs := by
  rw [trimBlankChars_eq, trimBlankChars_eq]
  have hfront : ((cs.dropWhile isBlank).rdropWhile isBlank).dropWhile isBlank
      = (cs.dropWhile isBlank).rdropWhile isBlank := by
    rw [List.dropWhile_eq_self_iff]
    intro hlen
    -- The first character is that of the text without the blanks in front.
    have hprefix := List.rdropWhile_prefix isBlank (cs.dropWhile isBlank)
    rw [List.IsPrefix.getElem hprefix hlen]
    exact List.dropWhile_get_zero_not _ _ _
  rw [hfront, List.rdropWhile_idempotent]

/-- A text of which trimming drops nothing. -/
def Trimmed (s : String) : Prop := trimBlank s = s

/-- A text without the blanks around it has none around it. -/
theorem trimmed_trimBlank (s : String) : Trimmed (trimBlank s) := by
  rw [Trimmed, trimBlank, trimBlank, String.toList_ofList, trimBlankChars_idem]

/-- A character that is not blank stays when the blanks in front are dropped. -/
theorem mem_dropWhile_isBlank (h : c ∈ cs) (hc : isBlank c = false) :
    c ∈ cs.dropWhile isBlank := by
  rw [← List.takeWhile_append_dropWhile (p := isBlank) (l := cs), List.mem_append] at h
  rcases h with hblank | hrest
  · have := List.mem_takeWhile_imp hblank
    rw [hc] at this
    cases this
  · exact hrest

/-- Trimming drops blank characters only. -/
theorem mem_trimBlankChars (h : c ∈ cs) (hc : isBlank c = false) : c ∈ trimBlankChars cs := by
  rw [trimBlankChars, List.mem_reverse]
  refine mem_dropWhile_isBlank ?_ hc
  rw [List.mem_reverse]
  exact mem_dropWhile_isBlank h hc

end TagScript.Text
