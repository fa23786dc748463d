import TagScript.Proofs.Scope.Reachable

/-!
# `TagScript.Proofs.Scope.Growth`: how deep a tree of scopes has grown

A tree only grows, and its scopes stay in their places. `Tree.GrowsWithin limit t t'` says
that, from `t` to `t'`, no boundary was added that is deeper than the limit. Other scopes are
as deep as the scope that they were entered from, so nothing is asked of them.

Growth within a limit composes (`GrowsWithin.trans`). A step in a scope adds no scope
(`GrowsWithin.of_step`), and entering a scope adds one (`GrowsWithin.enter`).
-/

set_option autoImplicit false

namespace TagScript.Scope.Tree

variable {t t' t'' : Tree} {i : Nat} {limit : Int}

/-- The number of boundaries between a scope and the root. -/
def depthOf (t : Tree) (i : Nat) : Nat :=
  ((t.get? i).getD default).depth

/-- From `t` to `t'` scopes were added, and of these the boundaries are within the limit. -/
structure GrowsWithin (limit : Int) (t t' : Tree) : Prop where
  scopes_le : t.scopes.size ≤ t'.scopes.size
  bare : ∀ i, i < t.scopes.size → (t'.get? i).map Frame.bare = (t.get? i).map Frame.bare
  depth_le : ∀ i s, t.scopes.size ≤ i → t'.get? i = some s → s.boundary = true →
    s.depth ≤ limit

/-- A new scope has the depth of the scope around it, and a boundary is deeper by one. -/
theorem depthOf_enter_self (t : Tree) (i : Nat) (boundary : Bool) :
    (t.enter i boundary).2.depthOf t.scopes.size
      = t.depthOf i + if boundary then 1 else 0 := by
  rw [depthOf, get?_enter_self]
  cases boundary <;> rfl

namespace GrowsWithin

/-- A tree that stays as it is has not grown. -/
theorem refl (limit : Int) (t : Tree) : GrowsWithin limit t t where
  scopes_le := Nat.le_refl _
  bare _ _ := rfl
  depth_le i s hi hs := by
    have hlt := lt_of_get? hs
    omega

/-- Growth within a limit may come after growth within it. -/
theorem trans (h : GrowsWithin limit t t') (h' : GrowsWithin limit t' t'') :
    GrowsWithin limit t t'' where
  scopes_le := Nat.le_trans h.scopes_le h'.scopes_le
  bare i hi := (h'.bare i (Nat.lt_of_lt_of_le hi h.scopes_le)).trans (h.bare i hi)
  depth_le i s hi hs hboundary := by
    rcases Nat.lt_or_ge i t'.scopes.size with hlt | hge
    · -- The scope came in the first half, and the second left it in its place.
      have hbare := h'.bare i hlt
      rw [hs, Option.map_some] at hbare
      obtain ⟨s', hs', heq⟩ := Option.map_eq_some_iff.mp hbare.symm
      have hdepth : s'.depth = s.depth := congrArg (·.depth) heq
      have hb : s'.boundary = s.boundary := congrArg (·.boundary) heq
      exact hdepth ▸ h.depth_le i s' hi hs' (hb.trans hboundary)
    · exact h'.depth_le i s hge hs hboundary

/-- A step in a scope adds no scope. -/
theorem of_step (h : Step i t t') : GrowsWithin limit t t' where
  scopes_le := Nat.le_of_eq h.size_scopes.symm
  bare j _ := h.bare j
  depth_le j s hj hs := by
    have hlt := lt_of_get? hs
    rw [h.size_scopes] at hlt
    omega

/-- Only a boundary has to be within the limit. -/
theorem enter (t : Tree) (i : Nat) (boundary : Bool)
    (h : boundary = true → ((t.depthOf i + 1 : Nat) : Int) ≤ limit) :
    GrowsWithin limit t (t.enter i boundary).2 where
  scopes_le := by
    rw [size_scopes_enter]
    exact Nat.le_succ _
  bare j hj := by rw [get?_enter_of_lt t boundary hj]
  depth_le j s hj hs hboundary := by
    have hlt := lt_of_get? hs
    rw [size_scopes_enter] at hlt
    obtain rfl : j = t.scopes.size := by omega
    rw [get?_enter_self, Option.some.injEq] at hs
    subst hs
    cases boundary with
    | true => exact h rfl
    | false => cases hboundary

/-- A scope that was there is as deep as it was. -/
theorem depthOf_eq (h : GrowsWithin limit t t') (hi : i < t.scopes.size) :
    t'.depthOf i = t.depthOf i := by
  obtain ⟨s, hs⟩ := exists_get? hi
  have hbare := h.bare i hi
  rw [hs, Option.map_some] at hbare
  obtain ⟨s', hs', heq⟩ := Option.map_eq_some_iff.mp hbare
  have hdepth : s'.depth = s.depth := congrArg (·.depth) heq
  rw [depthOf, depthOf, hs, hs']
  exact hdepth

end GrowsWithin

end TagScript.Scope.Tree
