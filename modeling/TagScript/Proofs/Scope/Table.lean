import Mathlib.Data.String.Basic
import TagScript.Scope.Table

/-!
# `TagScript.Proofs.Scope.Table`: what is found in a table

A table is a list of entries with their names, and the first entry of a name is the one that is
found. Insertion keeps the names in increasing order (`pairwise_names_insert`). So there is one
entry for each name, and it is found from either end (`find?_reverse`).
-/

set_option autoImplicit false

namespace TagScript.Table

variable {α : Type} {t : Table α} {name : String}

/-- A table finds something under the names that it has. -/
theorem isSome_find?_iff : (t.find? name).isSome ↔ name ∈ t.names := by
  induction t with
  | nil => simp [find?, names]
  | cons head rest ih =>
      obtain ⟨key, entry⟩ := head
      simp only [names, List.map_cons, List.mem_cons] at ih ⊢
      by_cases hkey : key = name
      · simp [find?, hkey]
      · rw [find?, if_neg hkey, ih, or_iff_right (Ne.symm hkey)]

/-- It finds nothing under any other name. -/
theorem find?_eq_none (h : name ∉ t.names) : t.find? name = none := by
  rwa [← isSome_find?_iff, Bool.not_eq_true, Option.isSome_eq_false_iff,
    Option.isNone_iff_eq_none] at h

/-- What is found under a name was entered under it. -/
theorem mem_of_find? {entry : α} (h : t.find? name = some entry) : (name, entry) ∈ t := by
  induction t with
  | nil => cases h
  | cons head rest ih =>
      obtain ⟨key, first⟩ := head
      rw [find?] at h
      split_ifs at h with hkey
      · obtain rfl := Option.some.inj h
        exact hkey ▸ List.mem_cons_self
      · exact List.mem_cons_of_mem _ (ih h)

/-- Of two lists of entries, the first is searched first. -/
theorem find?_append (t t' : Table α) (name : String) :
    find? (t ++ t') name = (t.find? name).or (t'.find? name) := by
  induction t with
  | nil => rfl
  | cons head rest ih =>
      obtain ⟨key, entry⟩ := head
      by_cases hkey : key = name
      · simp [find?, hkey]
      · simp [find?, hkey, ih]

/-- An entry that has its name to itself is found from the other end, too. -/
theorem find?_reverse (h : t.names.Nodup) (name : String) :
    find? t.reverse name = t.find? name := by
  induction t with
  | nil => rfl
  | cons head rest ih =>
      obtain ⟨key, entry⟩ := head
      obtain ⟨hkey, hrest⟩ := List.nodup_cons.mp h
      rw [List.reverse_cons, find?_append, ih hrest]
      by_cases hname : key = name
      · have hnone : find? rest name = none := find?_eq_none (hname ▸ hkey)
        simp [find?, hname, hnone]
      · simp [find?, hname]

/-- The names of a table stay in increasing order. -/
theorem pairwise_names_insert (h : t.names.Pairwise (· < ·)) (name : String) (entry : α) :
    (t.insert name entry).names.Pairwise (· < ·) := by
  induction t with
  | nil => simp [insert, names]
  | cons head rest ih =>
      obtain ⟨key, old⟩ := head
      obtain ⟨hfirst, hrest⟩ := List.pairwise_cons.mp h
      rw [insert]
      split_ifs with hkey hlt
      · subst hkey
        exact h
      · -- The new name comes first. It is before the first of the old ones, and so before all.
        refine List.pairwise_cons.mpr ⟨fun other hother => ?_, h⟩
        rcases List.mem_cons.mp hother with rfl | hother
        · exact hlt
        · exact lt_trans hlt (hfirst other hother)
      · refine List.pairwise_cons.mpr ⟨fun other hother => ?_, ih hrest⟩
        rcases (mem_names_insert rest name other entry).mp hother with rfl | hother
        · exact lt_of_le_of_ne (not_lt.mp hlt) hkey
        · exact hfirst other hother

/-- No name comes twice among names in increasing order. -/
theorem nodup_names (h : t.names.Pairwise (· < ·)) : t.names.Nodup :=
  h.imp ne_of_lt

end TagScript.Table
