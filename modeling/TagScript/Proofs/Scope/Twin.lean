import TagScript.Proofs.Scope.Reachable

/-!
# `TagScript.Proofs.Scope.Twin`: trees that grow alike behind a boundary

Two runs set out, each from a scope of a tree. The trees need not have anything in common,
and neither need the variables and operands of the two scopes. Both runs enter a boundary
and do the same behind it. The scopes and stacks that they add are then in step: the `n`th
that the first run adds and the `n`th that the second adds hold the same. `Outset` is where
the runs set out, and `Outset.Twins` says that two trees have grown from there in step.

Of the old scopes, a new one reaches only the scope that its run set out from, and that only
through a boundary. So an added scope sees variables and operands of added scopes only
(`Twins.lookup_eq`, `Twins.top?_eq`). It does see functions beyond the boundary, and those
are the same if the scopes at the outset see the same (`Twins.resolve_eq`).
-/

set_option autoImplicit false

namespace TagScript.Scope

/-- Where two runs set out: a tree and a scope of it each. -/
structure Outset where
  tree₁ : Tree
  tree₂ : Tree
  scope₁ : Nat
  scope₂ : Nat

namespace Outset

variable {o : Outset} {t₁ t₂ t₁' t₂' : Tree} {n : Nat}

/-- The number of the `n`th scope that the first run adds. -/
def new₁ (o : Outset) (n : Nat) : Nat :=
  o.tree₁.scopes.size + n

/-- The number of the `n`th scope that the second run adds. -/
def new₂ (o : Outset) (n : Nat) : Nat :=
  o.tree₂.scopes.size + n

/-- The number of the `k`th operand stack that the first run adds. -/
def stack₁ (o : Outset) (k : Nat) : Nat :=
  o.tree₁.operandStacks.size + k

/-- The number of the `k`th operand stack that the second run adds. -/
def stack₂ (o : Outset) (k : Nat) : Nat :=
  o.tree₂.operandStacks.size + k

/-- The two scopes exist, are at the same depth and see the same functions. -/
structure Level (o : Outset) : Prop where
  valid₁ : o.tree₁.Valid
  valid₂ : o.tree₂.Valid
  lt₁ : o.scope₁ < o.tree₁.scopes.size
  lt₂ : o.scope₂ < o.tree₂.scopes.size
  depth : ((o.tree₁.get? o.scope₁).getD default).depth
    = ((o.tree₂.get? o.scope₂).getD default).depth
  resolve : ∀ name, o.tree₁.resolve o.scope₁ name = o.tree₂.resolve o.scope₂ name
  fresh : o.tree₁.fresh = o.tree₂.fresh

/-- Two added scopes in step: they hold the same, their stacks are in step, and so are
their parents, unless they are boundaries below the scopes at the outset. -/
structure TwinFrames (o : Outset) (s₁ s₂ : Frame) : Prop where
  vars : s₁.vars = s₂.vars
  funcs : s₁.funcs = s₂.funcs
  boundary : s₁.boundary = s₂.boundary
  depth : s₁.depth = s₂.depth
  stack : ∃ k, s₁.stack = o.stack₁ k ∧ s₂.stack = o.stack₂ k
  parent : (∃ p, s₁.parent = some (o.new₁ p) ∧ s₂.parent = some (o.new₂ p)) ∨
    s₁.boundary = true ∧ s₁.parent = some o.scope₁ ∧ s₂.parent = some o.scope₂

/-- Two trees that have grown in step. The scopes of the outset are as they were. -/
structure Twins (o : Outset) (t₁ t₂ : Tree) : Prop where
  valid₁ : t₁.Valid
  valid₂ : t₂.Valid
  same₁ : o.tree₁.SameScopes t₁
  same₂ : o.tree₂.SameScopes t₂
  size_scopes : ∃ n, t₁.scopes.size = o.new₁ n ∧ t₂.scopes.size = o.new₂ n
  size_stacks : ∃ k, t₁.operandStacks.size = o.stack₁ k ∧ t₂.operandStacks.size = o.stack₂ k
  fresh : t₁.fresh = t₂.fresh
  frame : ∀ n s₁ s₂, t₁.get? (o.new₁ n) = some s₁ → t₂.get? (o.new₂ n) = some s₂ →
    o.TwinFrames s₁ s₂
  stack : ∀ k, t₁.operandStacks[o.stack₁ k]? = t₂.operandStacks[o.stack₂ k]?

/-- The scopes that the first run adds have different numbers. -/
theorem new₁_inj {m n : Nat} : o.new₁ m = o.new₁ n ↔ m = n :=
  Nat.add_left_cancel_iff

/-- So have those that the second run adds. -/
theorem new₂_inj {m n : Nat} : o.new₂ m = o.new₂ n ↔ m = n :=
  Nat.add_left_cancel_iff

/-- The stacks that the first run adds have different numbers. -/
theorem stack₁_inj {k l : Nat} : o.stack₁ k = o.stack₁ l ↔ k = l :=
  Nat.add_left_cancel_iff

/-- So have those that the second run adds. -/
theorem stack₂_inj {k l : Nat} : o.stack₂ k = o.stack₂ l ↔ k = l :=
  Nat.add_left_cancel_iff

namespace Twins

/-- If one tree has its `n`th new scope, then so has the other, and the two are in step. -/
theorem exists_frames (h : o.Twins t₁ t₂) (hn : o.new₁ n < t₁.scopes.size) :
    ∃ s₁ s₂, t₁.get? (o.new₁ n) = some s₁ ∧ t₂.get? (o.new₂ n) = some s₂ ∧
      o.TwinFrames s₁ s₂ := by
  obtain ⟨m, hm₁, hm₂⟩ := h.size_scopes
  have hn₂ : o.new₂ n < t₂.scopes.size := by
    simp only [new₁, new₂] at *
    omega
  obtain ⟨s₁, hs₁⟩ := Tree.exists_get? hn
  obtain ⟨s₂, hs₂⟩ := Tree.exists_get? hn₂
  exact ⟨s₁, s₂, hs₁, hs₂, h.frame n s₁ s₂ hs₁ hs₂⟩

/-! ### What new scopes see -/

/-- New scopes in step see the same variables. -/
theorem lookup_eq (h : o.Twins t₁ t₂) (hn : o.new₁ n < t₁.scopes.size) (name : String) :
    t₁.lookup (o.new₁ n) name = t₂.lookup (o.new₂ n) name := by
  induction n using Nat.strongRecOn with
  | ind n ih =>
      obtain ⟨s₁, s₂, hs₁, hs₂, hs⟩ := h.exists_frames hn
      rw [Tree.lookup_eq h.valid₁ hs₁, Tree.lookup_eq h.valid₂ hs₂, hs.vars, ← hs.boundary]
      rcases hs.parent with ⟨p, hp₁, hp₂⟩ | ⟨hb, -, -⟩
      · have hlt := h.valid₁.parent_lt hs₁ hp₁
        have hpn : p < n := Nat.lt_of_add_lt_add_left hlt
        rw [hp₁, hp₂, Option.bind_some, Option.bind_some, ih p hpn (Nat.lt_trans hlt hn)]
      · -- Behind a boundary the look-up ends.
        rw [hb, if_pos rfl, if_pos rfl]

/-- New scopes in step see the same functions, if the scopes at the outset do. -/
theorem resolve_eq (h : o.Twins t₁ t₂) (ho : o.Level) (hn : o.new₁ n < t₁.scopes.size)
    (name : String) : t₁.resolve (o.new₁ n) name = t₂.resolve (o.new₂ n) name := by
  induction n using Nat.strongRecOn with
  | ind n ih =>
      obtain ⟨s₁, s₂, hs₁, hs₂, hs⟩ := h.exists_frames hn
      rw [Tree.resolve_eq h.valid₁ hs₁, Tree.resolve_eq h.valid₂ hs₂, hs.funcs]
      rcases hs.parent with ⟨p, hp₁, hp₂⟩ | ⟨-, hp₁, hp₂⟩
      · have hlt := h.valid₁.parent_lt hs₁ hp₁
        have hpn : p < n := Nat.lt_of_add_lt_add_left hlt
        rw [hp₁, hp₂, Option.bind_some, Option.bind_some, ih p hpn (Nat.lt_trans hlt hn)]
      · -- The search leaves the new scopes. What it finds beyond has not changed.
        rw [hp₁, hp₂, Option.bind_some, Option.bind_some,
          h.same₁.resolve_eq ho.valid₁ h.valid₁ ho.lt₁, ho.resolve,
          h.same₂.resolve_eq ho.valid₂ h.valid₂ ho.lt₂]

/-- New scopes in step have the same operand on top. -/
theorem top?_eq (h : o.Twins t₁ t₂) (hn : o.new₁ n < t₁.scopes.size) :
    t₁.top? (o.new₁ n) = t₂.top? (o.new₂ n) := by
  obtain ⟨s₁, s₂, hs₁, hs₂, hs⟩ := h.exists_frames hn
  obtain ⟨k, hk₁, hk₂⟩ := hs.stack
  simp only [Tree.top?, Tree.operands, hs₁, hs₂, hk₁, hk₂, h.stack k]

/-- New scopes in step are at the same depth. -/
theorem depth_eq (h : o.Twins t₁ t₂) (hn : o.new₁ n < t₁.scopes.size) :
    ((t₁.get? (o.new₁ n)).getD default).depth = ((t₂.get? (o.new₂ n)).getD default).depth := by
  obtain ⟨s₁, s₂, hs₁, hs₂, hs⟩ := h.exists_frames hn
  rw [hs₁, hs₂]
  exact hs.depth

/-! ### The same step in new scopes -/

/-- New scopes in step stay so when both are changed in the same way. -/
private theorem frame_of_modify (h : o.Twins t₁ t₂) {g : Frame → Frame}
    (hg : ∀ s₁ s₂, o.TwinFrames s₁ s₂ → o.TwinFrames (g s₁) (g s₂))
    (h₁ : ∀ i, t₁'.get? i = if o.new₁ n = i then (t₁.get? i).map g else t₁.get? i)
    (h₂ : ∀ i, t₂'.get? i = if o.new₂ n = i then (t₂.get? i).map g else t₂.get? i)
    (m : Nat) (s₁ s₂ : Frame) (hs₁ : t₁'.get? (o.new₁ m) = some s₁)
    (hs₂ : t₂'.get? (o.new₂ m) = some s₂) : o.TwinFrames s₁ s₂ := by
  rw [h₁] at hs₁
  rw [h₂] at hs₂
  simp only [new₁_inj, new₂_inj] at hs₁ hs₂
  by_cases hnm : n = m
  · rw [if_pos hnm] at hs₁ hs₂
    obtain ⟨r₁, hr₁, rfl⟩ := Option.map_eq_some_iff.mp hs₁
    obtain ⟨r₂, hr₂, rfl⟩ := Option.map_eq_some_iff.mp hs₂
    exact hg r₁ r₂ (h.frame m r₁ r₂ hr₁ hr₂)
  · rw [if_neg hnm] at hs₁ hs₂
    exact h.frame m s₁ s₂ hs₁ hs₂

/-- After the same step, new scopes are still in step. -/
private theorem frame_of_step (h : o.Twins t₁ t₂)
    (hs : Tree.SameStep (o.new₁ n) (o.new₂ n) t₁ t₂ t₁' t₂') (m : Nat) (s₁ s₂ : Frame)
    (hs₁ : t₁'.get? (o.new₁ m) = some s₁) (hs₂ : t₂'.get? (o.new₂ m) = some s₂) :
    o.TwinFrames s₁ s₂ := by
  cases hs with
  | set name v =>
      refine h.frame_of_modify ?_ (fun i => Tree.get?_set t₁ _ i name v)
        (fun i => Tree.get?_set t₂ _ i name v) m s₁ s₂ hs₁ hs₂
      intro r₁ r₂ hr
      exact { hr with vars := congrArg (·.insert name v) hr.vars }
  | define name f =>
      refine h.frame_of_modify ?_ (fun i => Tree.get?_define t₁ _ i name f)
        (fun i => Tree.get?_define t₂ _ i name f) m s₁ s₂ hs₁ hs₂
      intro r₁ r₂ hr
      exact { hr with funcs := congrArg (·.insert name f) hr.funcs }
  | push v =>
      rw [Tree.get?_push] at hs₁ hs₂
      exact h.frame m s₁ s₂ hs₁ hs₂
  | drop =>
      rw [Tree.get?_drop] at hs₁ hs₂
      exact h.frame m s₁ s₂ hs₁ hs₂
  | renew => exact h.frame m s₁ s₂ hs₁ hs₂

/-- The stacks of new scopes in step are in step. -/
private theorem stackOf?_iff (h : o.Twins t₁ t₂) (hn : o.new₁ n < t₁.scopes.size) (k : Nat) :
    t₁.stackOf? (o.new₁ n) = some (o.stack₁ k)
      ↔ t₂.stackOf? (o.new₂ n) = some (o.stack₂ k) := by
  obtain ⟨s₁, s₂, hs₁, hs₂, hs⟩ := h.exists_frames hn
  obtain ⟨l, hl₁, hl₂⟩ := hs.stack
  -- Both sides say that the scopes have the `k`th of the new stacks.
  simp only [Tree.stackOf?, hs₁, hs₂, Option.map_some, Option.some.injEq, hl₁, hl₂, stack₁_inj,
    stack₂_inj]

/-- So are their stacks. -/
private theorem stack_of_step (h : o.Twins t₁ t₂) (hn : o.new₁ n < t₁.scopes.size)
    (hs : Tree.SameStep (o.new₁ n) (o.new₂ n) t₁ t₂ t₁' t₂') (k : Nat) :
    t₁'.operandStacks[o.stack₁ k]? = t₂'.operandStacks[o.stack₂ k]? := by
  cases hs with
  | push v =>
      simp only [Tree.operandStacks_push, h.stackOf?_iff hn, h.stack k]
  | drop => simp only [Tree.operandStacks_drop, h.stackOf?_iff hn, h.stack k]
  | _ => exact h.stack k

/-- Trees in step stay so when the same step is taken in new scopes that are. -/
theorem step (h : o.Twins t₁ t₂) (hn : o.new₁ n < t₁.scopes.size)
    (hs : Tree.SameStep (o.new₁ n) (o.new₂ n) t₁ t₂ t₁' t₂') : o.Twins t₁' t₂' where
  valid₁ := h.valid₁.step hs.left
  valid₂ := h.valid₂.step hs.right
  same₁ i hi := by
    -- The step is in a new scope, so it leaves the scopes of the outset alone.
    have hne : o.new₁ n ≠ i := by
      simp only [new₁]
      omega
    exact (hs.left.get?_ne hne).trans (h.same₁ i hi)
  same₂ i hi := by
    have hne : o.new₂ n ≠ i := by
      simp only [new₂]
      omega
    exact (hs.right.get?_ne hne).trans (h.same₂ i hi)
  size_scopes := by
    rw [hs.left.size_scopes, hs.right.size_scopes]
    exact h.size_scopes
  size_stacks := by
    rw [hs.left.size_operandStacks, hs.right.size_operandStacks]
    exact h.size_stacks
  fresh := by
    cases hs with
    | renew => exact congrArg (· + 1) h.fresh
    | push v => simpa only [Tree.fresh_push] using h.fresh
    | drop => simpa only [Tree.fresh_drop] using h.fresh
    | _ => exact h.fresh
  frame := h.frame_of_step hs
  stack := h.stack_of_step hn hs

/-! ### New scopes -/

/-- At the outset nothing has been added. -/
theorem refl (ho : o.Level) : o.Twins o.tree₁ o.tree₂ where
  valid₁ := ho.valid₁
  valid₂ := ho.valid₂
  same₁ _ _ := rfl
  same₂ _ _ := rfl
  size_scopes := ⟨0, rfl, rfl⟩
  size_stacks := ⟨0, rfl, rfl⟩
  fresh := ho.fresh
  frame n s₁ s₂ hs₁ _ := by
    -- There is no new scope to compare.
    have hlt := Tree.lt_of_get? hs₁
    simp only [new₁] at hlt
    omega
  stack k := by
    have hk₁ : o.tree₁.operandStacks.size ≤ o.stack₁ k := Nat.le_add_right _ _
    have hk₂ : o.tree₂.operandStacks.size ≤ o.stack₂ k := Nat.le_add_right _ _
    rw [Array.getElem?_eq_none hk₁, Array.getElem?_eq_none hk₂]

/-- The stacks are in step after a new scope was entered in both trees. -/
private theorem stack_of_enter (h : o.Twins t₁ t₂) (i j : Nat) (boundary : Bool) (k : Nat) :
    (t₁.enter i boundary).2.operandStacks[o.stack₁ k]?
      = (t₂.enter j boundary).2.operandStacks[o.stack₂ k]? := by
  obtain ⟨l, hl₁, hl₂⟩ := h.size_stacks
  rw [Tree.operandStacks_enter, Tree.operandStacks_enter]
  cases boundary with
  | false => exact h.stack k
  | true =>
      simp only [if_true, Array.getElem?_push, hl₁, hl₂, stack₁_inj, stack₂_inj, h.stack k]

/-- Trees in step stay so when both get a new scope, if these two are in step. -/
theorem grow (h : o.Twins t₁ t₂) {i j : Nat} (hi : i < t₁.scopes.size) (hj : j < t₂.scopes.size)
    (boundary : Bool) (hchild : o.TwinFrames (t₁.childOf i boundary) (t₂.childOf j boundary)) :
    o.Twins (t₁.enter i boundary).2 (t₂.enter j boundary).2 := by
  obtain ⟨m, hm₁, hm₂⟩ := h.size_scopes
  have hsize₁ : o.tree₁.scopes.size ≤ t₁.scopes.size := hm₁ ▸ Nat.le_add_right _ m
  have hsize₂ : o.tree₂.scopes.size ≤ t₂.scopes.size := hm₂ ▸ Nat.le_add_right _ m
  refine ⟨h.valid₁.enter hi boundary, h.valid₂.enter hj boundary, ?_, ?_, ?_, ?_, ?_, ?_,
    h.stack_of_enter i j boundary⟩
  · intro a ha
    rw [Tree.get?_enter_of_lt t₁ boundary (Nat.lt_of_lt_of_le ha hsize₁), h.same₁ a ha]
  · intro a ha
    rw [Tree.get?_enter_of_lt t₂ boundary (Nat.lt_of_lt_of_le ha hsize₂), h.same₂ a ha]
  · refine ⟨m + 1, ?_, ?_⟩
    · rw [Tree.size_scopes_enter, hm₁]
      rfl
    · rw [Tree.size_scopes_enter, hm₂]
      rfl
  · obtain ⟨k, hk₁, hk₂⟩ := h.size_stacks
    rw [Tree.operandStacks_enter, Tree.operandStacks_enter]
    cases boundary with
    | false => exact ⟨k, hk₁, hk₂⟩
    | true =>
        refine ⟨k + 1, ?_, ?_⟩
        · rw [if_pos rfl, Array.size_push, hk₁]
          rfl
        · rw [if_pos rfl, Array.size_push, hk₂]
          rfl
  · cases boundary <;> exact h.fresh
  · -- A new scope is the one just entered or an older one.
    intro a s₁ s₂ hs₁ hs₂
    simp only [Tree.get?, Tree.scopes_enter, Array.getElem?_push, hm₁, hm₂, new₁_inj,
      new₂_inj] at hs₁ hs₂
    by_cases ham : a = m
    · rw [if_pos ham, Option.some.injEq] at hs₁ hs₂
      exact hs₁ ▸ hs₂ ▸ hchild
    · rw [if_neg ham] at hs₁ hs₂
      exact h.frame a s₁ s₂ hs₁ hs₂

/-- New scopes may be entered from new scopes in step. -/
theorem enter (h : o.Twins t₁ t₂) (hn : o.new₁ n < t₁.scopes.size) (boundary : Bool) :
    o.Twins (t₁.enter (o.new₁ n) boundary).2 (t₂.enter (o.new₂ n) boundary).2 := by
  obtain ⟨s₁, s₂, hs₁, hs₂, hs⟩ := h.exists_frames hn
  refine h.grow hn (Tree.lt_of_get? hs₂) boundary ?_
  obtain ⟨k, hk₁, hk₂⟩ := h.size_stacks
  cases boundary with
  | true =>
      -- A boundary gets the next of the new stacks.
      refine ⟨rfl, rfl, rfl, ?_, ⟨k, hk₁, hk₂⟩, Or.inl ⟨n, rfl, rfl⟩⟩
      exact congrArg (· + 1) (h.depth_eq hn)
  | false =>
      -- Any other scope shares the stack of its parent, and the parents are in step.
      refine ⟨rfl, rfl, rfl, h.depth_eq hn, ?_, Or.inl ⟨n, rfl, rfl⟩⟩
      simp only [Tree.childOf, hs₁, hs₂]
      exact hs.stack

/-- The first thing that both runs do is to enter a boundary. -/
theorem enter_outset (ho : o.Level) :
    o.Twins (o.tree₁.enter o.scope₁ true).2 (o.tree₂.enter o.scope₂ true).2 := by
  refine (refl ho).grow ho.lt₁ ho.lt₂ true ?_
  refine ⟨rfl, rfl, rfl, ?_, ⟨0, rfl, rfl⟩, Or.inr ⟨rfl, rfl, rfl⟩⟩
  exact congrArg (· + 1) ho.depth

end Twins

end Outset

end TagScript.Scope
