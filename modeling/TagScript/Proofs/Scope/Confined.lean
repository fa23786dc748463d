import TagScript.Proofs.Scope.Reachable

/-!
# `TagScript.Proofs.Scope.Confined`: changes that stay within one scope

`Tree.Confined e t t'` says that the way from `t` to `t'` is the work of scope `e`: every
other scope of `t` is in `t'` as it was, and so is every operand stack of `t` that is not
the stack of `e`. Scopes and stacks that `t` does not have are free.

A step in `e` is confined to it (`Step.confined`), and confined changes compose
(`Confined.trans`). The third rule is about a scope that is entered from `e`. What is
confined to the new scope leaves `e` itself as it was (`Confined.get?_of_enter`), and if
the new scope is a boundary it leaves the stack of `e` as it was too
(`Confined.operandStacks_of_boundary`).
-/

set_option autoImplicit false

namespace TagScript.Scope.Tree

variable {e : Nat} {t t₁ t₂ t' : Tree}

/-- From `t` to `t'` only scope `e` and its operand stack have changed. The place of `e`
in the tree has not. -/
structure Confined (e : Nat) (t t' : Tree) : Prop where
  scopes_le : t.scopes.size ≤ t'.scopes.size
  stacks_le : t.operandStacks.size ≤ t'.operandStacks.size
  bare : (t'.get? e).map Frame.bare = (t.get? e).map Frame.bare
  scope : ∀ i, i < t.scopes.size → i ≠ e → t'.get? i = t.get? i
  stack : ∀ k, k < t.operandStacks.size → t.stackOf? e ≠ some k →
    t'.operandStacks[k]? = t.operandStacks[k]?

namespace Confined

/-- Where nothing changes, the change is confined to any scope. -/
theorem refl (e : Nat) (t : Tree) : Confined e t t where
  scopes_le := Nat.le_refl _
  stacks_le := Nat.le_refl _
  bare := rfl
  scope _ _ _ := rfl
  stack _ _ _ := rfl

/-- The scope keeps its operand stack. -/
theorem stackOf?_eq (h : Confined e t t') : t'.stackOf? e = t.stackOf? e := by
  have hstack := congrArg (Option.map (·.stack)) h.bare
  rw [Option.map_map, Option.map_map] at hstack
  exact hstack

/-- What is confined to a scope may come after what is confined to it. -/
theorem trans (h₁ : Confined e t₁ t₂) (h₂ : Confined e t₂ t') : Confined e t₁ t' where
  scopes_le := Nat.le_trans h₁.scopes_le h₂.scopes_le
  stacks_le := Nat.le_trans h₁.stacks_le h₂.stacks_le
  bare := h₂.bare.trans h₁.bare
  scope i hi hne :=
    (h₂.scope i (Nat.lt_of_lt_of_le hi h₁.scopes_le) hne).trans (h₁.scope i hi hne)
  stack k hk hne := by
    -- The stack of `e` is the same one after the first half.
    have hne' : t₂.stackOf? e ≠ some k := by
      rw [h₁.stackOf?_eq]
      exact hne
    rw [h₂.stack k (Nat.lt_of_lt_of_le hk h₁.stacks_le) hne', h₁.stack k hk hne]

/-- Work in a scope entered from `e` leaves every scope as it was, `e` included. -/
theorem get?_of_enter {boundary : Bool}
    (h : Confined t.scopes.size (t.enter e boundary).2 t') {i : Nat} (hi : i < t.scopes.size) :
    t'.get? i = t.get? i := by
  have hi' : i < (t.enter e boundary).2.scopes.size := by
    rw [size_scopes_enter]
    omega
  rw [h.scope i hi' (Nat.ne_of_lt hi), get?_enter_of_lt t boundary hi]

/-- Work behind a boundary entered from `e` leaves every operand stack as it was. -/
theorem operandStacks_of_boundary (h : Confined t.scopes.size (t.enter e true).2 t') {k : Nat}
    (hk : k < t.operandStacks.size) : t'.operandStacks[k]? = t.operandStacks[k]? := by
  have hk' : k < (t.enter e true).2.operandStacks.size :=
    Nat.lt_of_lt_of_le hk (size_operandStacks_enter_le t e true)
  -- The new scope has the newest of all stacks, which is not an old one.
  have hne : (t.enter e true).2.stackOf? t.scopes.size ≠ some k := by
    rw [stackOf?, get?_enter_self]
    intro heq
    exact Nat.ne_of_gt hk (Option.some.inj heq)
  rw [h.stack k hk' hne, operandStacks_enter, if_pos rfl, Array.getElem?_push_lt hk,
    Array.getElem?_eq_getElem hk]

/-- Work in a scope entered from `e` without a boundary reaches, of the old operand
stacks, only that of `e`. -/
theorem operandStacks_of_enter (he : e < t.scopes.size)
    (h : Confined t.scopes.size (t.enter e false).2 t') {k : Nat}
    (hk : k < t.operandStacks.size) (hne : t.stackOf? e ≠ some k) :
    t'.operandStacks[k]? = t.operandStacks[k]? := by
  obtain ⟨s, hs⟩ := exists_get? he
  -- The new scope shares the stack of `e`.
  have hchild : (t.enter e false).2.stackOf? t.scopes.size = t.stackOf? e := by
    rw [stackOf?, get?_enter_self, stackOf?, hs]
    simp [childOf, hs]
  exact h.stack k hk (hchild ▸ hne)

/-- Work in a scope entered from `e` is work of `e`. -/
theorem of_enter (he : e < t.scopes.size) {boundary : Bool}
    (h : Confined t.scopes.size (t.enter e boundary).2 t') : Confined e t t' where
  scopes_le := by
    have hle := h.scopes_le
    rw [size_scopes_enter] at hle
    omega
  stacks_le := Nat.le_trans (size_operandStacks_enter_le t e boundary) h.stacks_le
  bare := by rw [h.get?_of_enter he]
  scope _ hi _ := h.get?_of_enter hi
  stack k hk hne := by
    cases boundary with
    | true => exact h.operandStacks_of_boundary hk
    | false => exact h.operandStacks_of_enter he hk hne

end Confined

/-- A step in a scope is confined to it. -/
theorem Step.confined (h : Step e t t') : Confined e t t' where
  scopes_le := Nat.le_of_eq h.size_scopes.symm
  stacks_le := Nat.le_of_eq h.size_operandStacks.symm
  bare := h.bare e
  scope _ _ hne := h.get?_ne hne.symm
  stack _ _ hne := h.operandStacks_ne hne

/-- The operands of a scope are the contents of its stack. -/
theorem operands_eq (t : Tree) (i : Nat) :
    t.operands i = ((t.stackOf? i).bind fun k => t.operandStacks[k]?).getD [] := by
  unfold operands stackOf?
  cases t.get? i <;> rfl

/-- Work behind a boundary leaves the operands of an older scope as they were. -/
theorem Confined.operands_of_boundary (hv : t.Valid)
    (h : Confined t.scopes.size (t.enter e true).2 t') {i : Nat} (hi : i < t.scopes.size) :
    t'.operands i = t.operands i := by
  obtain ⟨s, hs⟩ := exists_get? hi
  have hs' : t'.get? i = some s := (h.get?_of_enter hi).trans hs
  rw [operands_eq, operands_eq, stackOf?, stackOf?, hs, hs']
  exact congrArg (·.getD []) (h.operandStacks_of_boundary (hv.stack_lt hs))

/-- A pushed value lies on top of the operands of its scope. -/
theorem operands_push (hv : t.Valid) (he : e < t.scopes.size) (v : Value) :
    (t.push e v).operands e = v :: t.operands e := by
  obtain ⟨s, hs⟩ := exists_get? he
  have hlt := hv.stack_lt hs
  have hstack : t.stackOf? e = some s.stack := by rw [stackOf?, hs, Option.map_some]
  have hstack' : (t.push e v).stackOf? e = some s.stack := by
    rw [stackOf?, get?_push]
    exact hstack
  rw [operands_eq, operands_eq, hstack, hstack', Option.bind_some, Option.bind_some,
    operandStacks_push, if_pos hstack, Array.getElem?_eq_getElem hlt]
  rfl

end TagScript.Scope.Tree
