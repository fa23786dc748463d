import TagScript.Proofs.Scope.Reachable

/-!
# `TagScript.Proofs.Scope.Functions`: the functions that a tree of scopes holds

Functions come into a tree in one way only: they are defined in a scope. `Tree.Holds P t` says
that every function of a template that some scope of `t` holds is in `P`. A new tree holds
none, for the functions of its root are the built-in operations (`holds_root`). Only a
definition has to be checked (`Holds.define`). Whatever a scope sees is held somewhere, so it
is in `P` too (`Holds.resolve`).
-/

set_option autoImplicit false

namespace TagScript.Scope.Tree

variable {P : UserFunction → Prop} {t : Tree} {i : Nat}

/-- Every function of a template that some scope holds is in `P`. -/
def Holds (P : UserFunction → Prop) (t : Tree) : Prop :=
  ∀ i s name f, t.get? i = some s → s.funcs.find? name = some (.user f) → P f

/-- The functions of a new root are built in. -/
private theorem find?_prelude (name : String) (f : UserFunction) :
    prelude.find? name ≠ some (.user f) := by
  -- The table is filled one operation after another.
  have insertAll : ∀ (ns : List Native) (table : Table Function),
      table.find? name ≠ some (.user f) →
      (ns.foldl (fun t n => t.insert n.name (.native n)) table).find? name ≠ some (.user f) := by
    intro ns
    induction ns with
    | nil => exact fun table h => h
    | cons n ns ih =>
        intro table h
        refine ih _ ?_
        rw [Table.find?_insert]
        split
        · simp
        · exact h
  exact insertAll Native.all [] (by simp [Table.find?])

/-- A new tree holds no function of a template. -/
theorem holds_root (vars : Table Value) (fresh : Nat) : (root vars fresh).Holds P := by
  intro j s name f hs hf
  have hj : j = 0 := Nat.lt_one_iff.mp (lt_of_get? hs)
  subst hj
  cases hs
  exact absurd hf (find?_prelude name f)

namespace Holds

/-- A function that a scope sees is held by the scope or by one around it. -/
theorem resolve (h : t.Holds P) {name : String} {f : UserFunction}
    (hf : t.resolve i name = some (.user f)) : P f := by
  -- The search goes outwards, so the induction is on how far it may go.
  have within : ∀ (fuel i : Nat), t.resolveWithin name fuel i = some (.user f) → P f := by
    intro fuel
    induction fuel with
    | zero =>
        intro i hf
        cases hf
    | succ fuel ih =>
        intro i hf
        rw [resolveWithin] at hf
        cases hs : t.get? i with
        | none => simp [hs] at hf
        | some s =>
            simp only [hs] at hf
            cases hown : s.funcs.find? name with
            | some g =>
                simp only [hown, Option.some.injEq] at hf
                exact h i s name f hs (hown.trans (congrArg some hf))
            | none =>
                simp only [hown] at hf
                cases hp : s.parent with
                | none => simp [hp] at hf
                | some p =>
                    simp only [hp] at hf
                    exact ih p hf
  exact within (i + 1) i hf

/-- What keeps the functions of every scope keeps what is held. -/
private theorem of_funcs {t' : Tree} (h : t.Holds P)
    (hfuncs : ∀ j s', t'.get? j = some s' → ∃ s, t.get? j = some s ∧ s'.funcs = s.funcs) :
    t'.Holds P := by
  intro j s' name f hs' hf
  obtain ⟨s, hs, heq⟩ := hfuncs j s' hs'
  exact h j s name f hs (heq ▸ hf)

/-- Setting a variable defines no function. -/
theorem set (h : t.Holds P) (name : String) (v : Value) : (t.set i name v).Holds P := by
  refine h.of_funcs fun j s' hs' => ?_
  rw [get?_set] at hs'
  split at hs'
  · obtain ⟨s, hs, rfl⟩ := Option.map_eq_some_iff.mp hs'
    exact ⟨s, hs, rfl⟩
  · exact ⟨s', hs', rfl⟩

/-- Nor does pushing a value. -/
theorem push (h : t.Holds P) (v : Value) : (t.push i v).Holds P :=
  h.of_funcs fun j s' hs' => ⟨s', get?_push t i j v ▸ hs', rfl⟩

/-- Nor does taking one off. -/
theorem drop (h : t.Holds P) : (t.drop i).Holds P :=
  h.of_funcs fun j s' hs' => ⟨s', get?_drop t i j ▸ hs', rfl⟩

/-- A definition adds the function that it defines. -/
theorem define (h : t.Holds P) (name : String) {f : UserFunction} (hf : P f) :
    (t.define i name (.user f)).Holds P := by
  intro j s' other g hs' hg
  rw [get?_define] at hs'
  split at hs'
  · obtain ⟨s, hs, rfl⟩ := Option.map_eq_some_iff.mp hs'
    dsimp only at hg
    rw [Table.find?_insert] at hg
    split at hg
    · -- The name is that of the definition, whatever was there under it.
      cases hg
      exact hf
    · exact h j s other g hs hg
  · exact h j s' other g hs' hg

/-- A new scope holds nothing. -/
theorem enter (h : t.Holds P) (boundary : Bool) : (t.enter i boundary).2.Holds P := by
  intro j s name f hs hf
  have hlt := lt_of_get? hs
  rw [size_scopes_enter] at hlt
  rcases Nat.lt_succ_iff_lt_or_eq.mp hlt with hold | rfl
  · exact h j s name f (get?_enter_of_lt t boundary hold ▸ hs) hf
  · rw [get?_enter_self, Option.some.injEq] at hs
    subst hs
    cases boundary <;> cases hf

end Holds

end TagScript.Scope.Tree
