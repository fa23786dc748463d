/-!
# `TagScript.Scope.Table`: named entries in order of name

A table maps names to entries and is kept in strictly increasing order of the
names, so that listing them needs no sorting.

* `find?_insert`: what a lookup finds after an insertion.
* `mem_names_insert`: the names after an insertion.
-/

set_option autoImplicit false

namespace TagScript

/-- Entries by name, in increasing order of the names. -/
abbrev Table (α : Type) := List (String × α)

namespace Table

variable {α : Type}

/-- The entry of a name. -/
def find? : Table α → String → Option α
  | [], _ => none
  | (key, entry) :: rest, name => if key = name then some entry else find? rest name

/-- Enter a name, in place of what was there under it. -/
def insert : Table α → String → α → Table α
  | [], name, entry => [(name, entry)]
  | (key, old) :: rest, name, entry =>
    if key = name then (name, entry) :: rest
    else if name < key then (name, entry) :: (key, old) :: rest
    else (key, old) :: insert rest name entry

/-- The names of a table. -/
def names (t : Table α) : List String :=
  t.map Prod.fst

/-- A lookup after an insertion finds the new entry under its name, and under any
other name what was there before. -/
theorem find?_insert (t : Table α) (name other : String) (entry : α) :
    (t.insert name entry).find? other = if name = other then some entry else t.find? other := by
  induction t with
  | nil => simp [insert, find?]
  | cons head rest ih =>
    obtain ⟨key, old⟩ := head
    by_cases hkey : key = name
    · subst hkey
      by_cases h : key = other <;> simp [insert, find?, h]
    · by_cases hlt : name < key
      · simp [insert, find?, hkey, hlt]
      · by_cases ho : key = other
        · subst ho
          have hn : ¬ name = key := fun h => hkey h.symm
          simp [insert, find?, hkey, hlt, hn]
        · simp [insert, find?, hkey, hlt, ho, ih]

/-- The names after an insertion are the old ones and the new one. -/
theorem mem_names_insert (t : Table α) (name other : String) (entry : α) :
    other ∈ (t.insert name entry).names ↔ other = name ∨ other ∈ t.names := by
  induction t with
  | nil => simp [insert, names]
  | cons head rest ih =>
    obtain ⟨key, old⟩ := head
    simp only [names, List.map_cons, List.mem_cons] at ih ⊢
    by_cases hkey : key = name
    · simp [insert, hkey]
    · by_cases hlt : name < key
      · simp [insert, hkey, hlt]
      · simp only [insert, hkey, hlt, if_false, List.map_cons, List.mem_cons, ih]
        exact or_left_comm

end Table

end TagScript
