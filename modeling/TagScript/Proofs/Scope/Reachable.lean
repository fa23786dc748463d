import TagScript.Scope.Tree

/-!
# `TagScript.Proofs.Scope.Reachable`: the trees of scopes that come about

A tree of scopes starts as a root and grows by new scopes. In between, the scopes that
exist are worked on: variables and functions are bound in them, and values are pushed on
their operand stacks and taken off again. `Tree.Step` lists what can be done in one scope,
and `Tree.Reachable` are the trees that come about in this way, in any order of steps.

A reachable tree is `Tree.Valid`: every scope has an operand stack, and every parent has a
smaller number than its child. With the second fact a look-up that starts with one unit of
fuel for each number up to its scope never runs out of it, and `Tree.resolve_eq` and
`Tree.lookup_eq` say what it finds, scope by scope and without fuel.

What a step leaves alone of the scope that it works on is its place in the tree: its
parent, its operand stack, its boundary and its depth (`Frame.bare`).

`Tree.SameStep` is one step taken in two trees, and the last section says when a scope sees
the same in two trees.
-/

set_option autoImplicit false

namespace TagScript.Scope

/-- A scope without what it holds: only its place in the tree. -/
def Frame.bare (s : Frame) : Frame :=
  { s with vars := [], funcs := [] }

namespace Tree

variable {t t' : Tree} {i j : Nat}

/-- What can be done in scope `i` of a tree. -/
inductive Step (i : Nat) : Tree → Tree → Prop where
  | set (t : Tree) (name : String) (v : Value) : Step i t (t.set i name v)
  | define (t : Tree) (name : String) (f : Function) : Step i t (t.define i name f)
  | push (t : Tree) (v : Value) : Step i t (t.push i v)
  | drop (t : Tree) : Step i t (t.drop i)
  /-- Identities are used up by new arrays. -/
  | renew (t : Tree) (fresh : Nat) (h : t.fresh ≤ fresh) : Step i t { t with fresh }

/-- The same thing done in scope `i` of one tree and in scope `j` of another. -/
inductive SameStep (i j : Nat) (t₁ t₂ : Tree) : Tree → Tree → Prop where
  | set (name : String) (v : Value) : SameStep i j t₁ t₂ (t₁.set i name v) (t₂.set j name v)
  | define (name : String) (f : Function) :
      SameStep i j t₁ t₂ (t₁.define i name f) (t₂.define j name f)
  | push (v : Value) : SameStep i j t₁ t₂ (t₁.push i v) (t₂.push j v)
  | drop : SameStep i j t₁ t₂ (t₁.drop i) (t₂.drop j)
  | renew : SameStep i j t₁ t₂ { t₁ with fresh := t₁.fresh + 1 } { t₂ with fresh := t₂.fresh + 1 }

/-- The trees that come about from a root by entering scopes and by steps in them. -/
inductive Reachable : Tree → Prop where
  | root (vars : Table Value) (fresh : Nat) : Reachable (root vars fresh)
  | step {t t' : Tree} {i : Nat} (h : Reachable t) (hs : Step i t t') : Reachable t'
  | enter {t : Tree} {i : Nat} (h : Reachable t) (hi : i < t.scopes.size) (boundary : Bool) :
      Reachable (t.enter i boundary).2

/-- The number of a scope's operand stack. -/
def stackOf? (t : Tree) (i : Nat) : Option Nat :=
  (t.get? i).map (·.stack)

/-- Every scope has an operand stack, and every parent is older than its child. -/
structure Valid (t : Tree) : Prop where
  stack_lt : ∀ {i : Nat} {s : Frame}, t.get? i = some s → s.stack < t.operandStacks.size
  parent_lt : ∀ {i p : Nat} {s : Frame}, t.get? i = some s → s.parent = some p → p < i

/-! ### What the operations do to a scope and to a stack -/

/-- A scope exists when its number is below the number of scopes. -/
theorem exists_get? (hi : i < t.scopes.size) : ∃ s, t.get? i = some s :=
  ⟨t.scopes[i], Array.getElem?_eq_getElem hi⟩

/-- The number of a scope that exists is below the number of scopes. -/
theorem lt_of_get? {s : Frame} (h : t.get? i = some s) : i < t.scopes.size :=
  (Array.getElem?_eq_some_iff.mp h).1

/-- Binding a variable changes the variables of the scope, and of no other. -/
theorem get?_set (t : Tree) (i j : Nat) (name : String) (v : Value) :
    (t.set i name v).get? j
      = if i = j then (t.get? j).map fun s => { s with vars := s.vars.insert name v }
        else t.get? j :=
  Array.getElem?_modify

/-- Binding a function changes the functions of the scope, and of no other. -/
theorem get?_define (t : Tree) (i j : Nat) (name : String) (f : Function) :
    (t.define i name f).get? j
      = if i = j then (t.get? j).map fun s => { s with funcs := s.funcs.insert name f }
        else t.get? j :=
  Array.getElem?_modify

/-- Pushing a value changes no scope. -/
@[simp]
theorem get?_push (t : Tree) (i j : Nat) (v : Value) : (t.push i v).get? j = t.get? j := by
  unfold push
  split <;> rfl

/-- Nor does taking one off. -/
@[simp]
theorem get?_drop (t : Tree) (i j : Nat) : (t.drop i).get? j = t.get? j := by
  unfold drop
  split <;> rfl

/-- Pushing a value leaves the scopes as they are. -/
@[simp]
theorem scopes_push (t : Tree) (i : Nat) (v : Value) : (t.push i v).scopes = t.scopes := by
  unfold push
  split <;> rfl

/-- So does taking one off. -/
@[simp]
theorem scopes_drop (t : Tree) (i : Nat) : (t.drop i).scopes = t.scopes := by
  unfold drop
  split <;> rfl

/-- Pushing a value makes no new array. -/
@[simp]
theorem fresh_push (t : Tree) (i : Nat) (v : Value) : (t.push i v).fresh = t.fresh := by
  unfold push
  split <;> rfl

/-- Nor does taking one off. -/
@[simp]
theorem fresh_drop (t : Tree) (i : Nat) : (t.drop i).fresh = t.fresh := by
  unfold drop
  split <;> rfl

/-- Pushing a value changes the stack of the scope and no other. -/
theorem operandStacks_push (t : Tree) (i k : Nat) (v : Value) :
    (t.push i v).operandStacks[k]?
      = if t.stackOf? i = some k then (t.operandStacks[k]?).map (v :: ·)
        else t.operandStacks[k]? := by
  unfold push stackOf?
  cases t.get? i with
  | none => simp
  | some s => simp [Array.getElem?_modify]

/-- Dropping a value changes the stack of the scope and no other. -/
theorem operandStacks_drop (t : Tree) (i k : Nat) :
    (t.drop i).operandStacks[k]?
      = if t.stackOf? i = some k then (t.operandStacks[k]?).map List.tail
        else t.operandStacks[k]? := by
  unfold drop stackOf?
  cases t.get? i with
  | none => simp
  | some s => simp [Array.getElem?_modify]

/-- There are as many stacks after a value was pushed. -/
@[simp]
theorem size_operandStacks_push (t : Tree) (i : Nat) (v : Value) :
    (t.push i v).operandStacks.size = t.operandStacks.size := by
  unfold push
  split
  · rfl
  · simp

/-- There are as many after one was taken off. -/
@[simp]
theorem size_operandStacks_drop (t : Tree) (i : Nat) :
    (t.drop i).operandStacks.size = t.operandStacks.size := by
  unfold drop
  split
  · rfl
  · simp

/-- The scope that is added below scope `i`. -/
def childOf (t : Tree) (i : Nat) (boundary : Bool) : Frame :=
  let parent := (t.get? i).getD default
  if boundary then ⟨some i, [], [], t.operandStacks.size, true, parent.depth + 1⟩
  else ⟨some i, [], [], parent.stack, false, parent.depth⟩

/-- Entering adds one scope and leaves the others as they are. -/
theorem scopes_enter (t : Tree) (i : Nat) (boundary : Bool) :
    (t.enter i boundary).2.scopes = t.scopes.push (t.childOf i boundary) := by
  cases boundary <;> rfl

/-- A boundary adds an empty operand stack; any other scope adds none. -/
theorem operandStacks_enter (t : Tree) (i : Nat) (boundary : Bool) :
    (t.enter i boundary).2.operandStacks
      = if boundary then t.operandStacks.push [] else t.operandStacks := by
  cases boundary <;> rfl

/-- The scopes that were there are as they were. -/
theorem get?_enter_of_lt (t : Tree) {i j : Nat} (boundary : Bool) (hj : j < t.scopes.size) :
    (t.enter i boundary).2.get? j = t.get? j := by
  show (t.enter i boundary).2.scopes[j]? = t.scopes[j]?
  rw [scopes_enter, Array.getElem?_push_lt hj, Array.getElem?_eq_getElem hj]

/-- The new scope is the last one. -/
theorem get?_enter_self (t : Tree) (i : Nat) (boundary : Bool) :
    (t.enter i boundary).2.get? t.scopes.size = some (t.childOf i boundary) := by
  show (t.enter i boundary).2.scopes[t.scopes.size]? = _
  rw [scopes_enter, Array.getElem?_push_size]

/-- There is one scope more. -/
@[simp]
theorem size_scopes_enter (t : Tree) (i : Nat) (boundary : Bool) :
    (t.enter i boundary).2.scopes.size = t.scopes.size + 1 := by
  rw [scopes_enter, Array.size_push]

/-- There are no fewer stacks. -/
theorem size_operandStacks_enter_le (t : Tree) (i : Nat) (boundary : Bool) :
    t.operandStacks.size ≤ (t.enter i boundary).2.operandStacks.size := by
  rw [operandStacks_enter]
  cases boundary
  · exact Nat.le_refl _
  · simp

/-! ### Steps keep the shape of a tree -/

/-- A step adds and removes no scope. -/
theorem Step.size_scopes (h : Step i t t') : t'.scopes.size = t.scopes.size := by
  cases h with
  | set name v => exact Array.size_modify
  | define name f => exact Array.size_modify
  | push v => rw [scopes_push]
  | drop => rw [scopes_drop]
  | renew fresh hf => rfl

/-- A step adds and removes no operand stack. -/
theorem Step.size_operandStacks (h : Step i t t') :
    t'.operandStacks.size = t.operandStacks.size := by
  cases h with
  | set name v => rfl
  | define name f => rfl
  | push v => exact size_operandStacks_push t i v
  | drop => exact size_operandStacks_drop t i
  | renew fresh hf => rfl

/-- A step leaves every scope in its place. -/
theorem Step.bare (h : Step i t t') (j : Nat) :
    (t'.get? j).map Frame.bare = (t.get? j).map Frame.bare := by
  cases h with
  | set name v =>
      rw [get?_set]
      split
      · rw [Option.map_map]
        rfl
      · rfl
  | define name f =>
      rw [get?_define]
      split
      · rw [Option.map_map]
        rfl
      · rfl
  | push v => rw [get?_push]
  | drop => rw [get?_drop]
  | renew fresh hf => rfl

/-- A step changes what no other scope holds. -/
theorem Step.get?_ne (h : Step i t t') (hij : i ≠ j) : t'.get? j = t.get? j := by
  cases h with
  | set name v => rw [get?_set, if_neg hij]
  | define name f => rw [get?_define, if_neg hij]
  | push v => exact get?_push t i j v
  | drop => exact get?_drop t i j
  | renew fresh hf => rfl

/-- A step changes no operand stack but that of its scope. -/
theorem Step.operandStacks_ne {k : Nat} (h : Step i t t') (hk : t.stackOf? i ≠ some k) :
    t'.operandStacks[k]? = t.operandStacks[k]? := by
  cases h with
  | set name v => rfl
  | define name f => rfl
  | push v => rw [operandStacks_push, if_neg hk]
  | drop => rw [operandStacks_drop, if_neg hk]
  | renew fresh hf => rfl

/-- Of the same step in two trees, the one in the first. -/
theorem SameStep.left {t₁ t₂ t₁' t₂' : Tree} (h : SameStep i j t₁ t₂ t₁' t₂') :
    Step i t₁ t₁' := by
  cases h with
  | set name v => exact .set t₁ name v
  | define name f => exact .define t₁ name f
  | push v => exact .push t₁ v
  | drop => exact .drop t₁
  | renew => exact .renew t₁ _ (Nat.le_succ _)

/-- Of the same step in two trees, the one in the second. -/
theorem SameStep.right {t₁ t₂ t₁' t₂' : Tree} (h : SameStep i j t₁ t₂ t₁' t₂') :
    Step j t₂ t₂' := by
  cases h with
  | set name v => exact .set t₂ name v
  | define name f => exact .define t₂ name f
  | push v => exact .push t₂ v
  | drop => exact .drop t₂
  | renew => exact .renew t₂ _ (Nat.le_succ _)

/-! ### Validity -/

/-- Validity is about the places of the scopes and the number of stacks only. -/
theorem Valid.of_bare (hv : t.Valid) (hk : t.operandStacks.size ≤ t'.operandStacks.size)
    (hb : ∀ j, (t'.get? j).map Frame.bare = (t.get? j).map Frame.bare) : t'.Valid := by
  -- A scope of the new tree was there before, in the same place.
  have old : ∀ {j s'}, t'.get? j = some s' → ∃ s, t.get? j = some s ∧ s.bare = s'.bare := by
    intro j s' hs'
    have h := hb j
    rw [hs', Option.map_some] at h
    exact Option.map_eq_some_iff.mp h.symm
  constructor
  · intro j s' hs'
    obtain ⟨s, hs, hbare⟩ := old hs'
    have hstack : s.stack = s'.stack := congrArg (·.stack) hbare
    exact hstack ▸ Nat.lt_of_lt_of_le (hv.stack_lt hs) hk
  · intro j p s' hs' hp
    obtain ⟨s, hs, hbare⟩ := old hs'
    have hparent : s.parent = s'.parent := congrArg (·.parent) hbare
    exact hv.parent_lt hs (hparent.trans hp)

/-- A step keeps a tree valid. -/
theorem Valid.step (hv : t.Valid) (h : Step i t t') : t'.Valid :=
  hv.of_bare (Nat.le_of_eq h.size_operandStacks.symm) h.bare

/-- So does entering a scope that exists. -/
theorem Valid.enter (hv : t.Valid) (hi : i < t.scopes.size) (boundary : Bool) :
    (t.enter i boundary).2.Valid := by
  obtain ⟨parent, hparent⟩ := exists_get? hi
  -- A scope of the new tree is an old one or the one just entered.
  have cases_get? : ∀ {j s}, (t.enter i boundary).2.get? j = some s →
      t.get? j = some s ∨ j = t.scopes.size ∧ s = t.childOf i boundary := by
    intro j s hs
    have hj := lt_of_get? hs
    rw [size_scopes_enter] at hj
    rcases Nat.lt_succ_iff_lt_or_eq.mp hj with hlt | rfl
    · exact Or.inl (get?_enter_of_lt t boundary hlt ▸ hs)
    · rw [get?_enter_self, Option.some.injEq] at hs
      exact Or.inr ⟨rfl, hs.symm⟩
  constructor
  · intro j s hs
    rcases cases_get? hs with hold | ⟨-, rfl⟩
    · exact Nat.lt_of_lt_of_le (hv.stack_lt hold) (size_operandStacks_enter_le t i boundary)
    · -- A boundary gets the new stack, any other scope the stack of its parent.
      cases boundary with
      | true => simp [childOf, operandStacks_enter]
      | false => simpa [childOf, operandStacks_enter, hparent] using hv.stack_lt hparent
  · intro j p s hs hp
    rcases cases_get? hs with hold | ⟨rfl, rfl⟩
    · exact hv.parent_lt hold hp
    · have hip : some i = some p := by
        cases boundary <;> exact hp
      exact Option.some.inj hip ▸ hi

/-- Every tree that comes about is valid. -/
theorem Reachable.valid (h : t.Reachable) : t.Valid := by
  induction h with
  | root vars fresh =>
      -- The root is the only scope. It has a stack, and no parent.
      have only : ∀ {j s}, (Tree.root vars fresh).get? j = some s →
          s = ⟨none, vars, prelude, 0, true, 0⟩ := by
        intro j s hs
        have hj := lt_of_get? hs
        have hj0 : j = 0 := by
          simp only [Tree.root, List.size_toArray, List.length_singleton] at hj
          omega
        subst hj0
        exact (Option.some.inj hs).symm
      constructor
      · intro j s hs
        rw [only hs]
        exact Nat.zero_lt_one
      · intro j p s hs hp
        rw [only hs] at hp
        cases hp
  | step _ hs ih => exact ih.step hs
  | enter _ hi boundary ih => exact ih.enter hi boundary

/-! ### Look-ups without fuel -/

/-- Once the fuel exceeds the number of the scope, more of it finds nothing else. -/
private theorem resolveWithin_of_lt (hv : t.Valid) (name : String) :
    ∀ (i : Nat) {fuel fuel' : Nat}, i < fuel → i < fuel' →
      t.resolveWithin name fuel i = t.resolveWithin name fuel' i := by
  intro i
  induction i using Nat.strongRecOn with
  | ind i ih =>
      intro fuel fuel' hfuel hfuel'
      -- The parent has a smaller number, and one unit less of fuel is still more than that.
      match fuel, fuel', hfuel, hfuel' with
      | fuel + 1, fuel' + 1, hfuel, hfuel' =>
          simp only [resolveWithin]
          cases hs : t.get? i with
          | none => rfl
          | some s =>
              cases hp : s.parent with
              | none => simp only [hp]
              | some p =>
                  have hpi := hv.parent_lt hs hp
                  simp only [hp, ih p hpi (show p < fuel by omega) (show p < fuel' by omega)]

/-- A function is the scope's own, or else the parent's. -/
theorem resolve_eq (hv : t.Valid) {s : Frame} (hs : t.get? i = some s) (name : String) :
    t.resolve i name
      = (s.funcs.find? name).or (s.parent.bind fun p => t.resolve p name) := by
  unfold resolve
  simp only [resolveWithin, hs]
  cases hf : s.funcs.find? name with
  | some f => rfl
  | none =>
      cases hp : s.parent with
      | none => rfl
      | some p =>
          have hpi := hv.parent_lt hs hp
          exact resolveWithin_of_lt hv name p hpi (Nat.lt_succ_self p)

/-- The same for variables: the fuel of a look-up never runs out. -/
private theorem lookupWithin_of_lt (hv : t.Valid) (name : String) :
    ∀ (i : Nat) {fuel fuel' : Nat}, i < fuel → i < fuel' →
      t.lookupWithin name fuel i = t.lookupWithin name fuel' i := by
  intro i
  induction i using Nat.strongRecOn with
  | ind i ih =>
      intro fuel fuel' hfuel hfuel'
      match fuel, fuel', hfuel, hfuel' with
      | fuel + 1, fuel' + 1, hfuel, hfuel' =>
          simp only [lookupWithin]
          cases hs : t.get? i with
          | none => rfl
          | some s =>
              cases hp : s.parent with
              | none => simp only [hp]
              | some p =>
                  have hpi := hv.parent_lt hs hp
                  simp only [hp, ih p hpi (show p < fuel by omega) (show p < fuel' by omega)]

/-- A variable is the scope's own, or else the parent's, unless the scope is a
boundary. -/
theorem lookup_eq (hv : t.Valid) {s : Frame} (hs : t.get? i = some s) (name : String) :
    t.lookup i name
      = (s.vars.find? name).or
          (if s.boundary then none else s.parent.bind fun p => t.lookup p name) := by
  unfold lookup
  simp only [lookupWithin, hs]
  cases hf : s.vars.find? name with
  | some v => rfl
  | none =>
      cases hb : s.boundary with
      | true => rfl
      | false =>
          cases hp : s.parent with
          | none => rfl
          | some p =>
              have hpi := hv.parent_lt hs hp
              exact lookupWithin_of_lt hv name p hpi (Nat.lt_succ_self p)

/-! ### What is seen after binding a variable -/

/-- The scope that a variable is bound in sees it. -/
theorem lookup_set_self (hi : i < t.scopes.size) (name : String) (v : Value) :
    (t.set i name v).lookup i name = some v := by
  obtain ⟨s, hs⟩ := exists_get? hi
  have hfound : (s.vars.insert name v).find? name = some v := by
    rw [Table.find?_insert, if_pos rfl]
  simp only [lookup, lookupWithin, get?_set, if_true, hs, Option.map_some, hfound]

/-- Every scope sees all other variables as before. -/
theorem lookup_set_ne (t : Tree) (i j : Nat) (v : Value) {name other : String}
    (hne : name ≠ other) : (t.set i name v).lookup j other = t.lookup j other := by
  have within : ∀ fuel j, (t.set i name v).lookupWithin other fuel j
      = t.lookupWithin other fuel j := by
    intro fuel
    induction fuel with
    | zero => exact fun _ => rfl
    | succ fuel ih =>
        intro j
        simp only [lookupWithin, get?_set, ih]
        cases t.get? j with
        | none => simp only [Option.map_none, ite_self]
        | some s =>
            by_cases hij : i = j
            · simp only [if_pos hij, Option.map_some, Table.find?_insert, if_neg hne]
            · simp only [if_neg hij]
  exact within (j + 1) j

/-- Every scope sees all functions as before. -/
theorem resolve_set (t : Tree) (i j : Nat) (name f : String) (v : Value) :
    (t.set i name v).resolve j f = t.resolve j f := by
  have within : ∀ fuel j, (t.set i name v).resolveWithin f fuel j
      = t.resolveWithin f fuel j := by
    intro fuel
    induction fuel with
    | zero => exact fun _ => rfl
    | succ fuel ih =>
        intro j
        simp only [resolveWithin, get?_set, ih]
        cases t.get? j with
        | none => simp only [Option.map_none, ite_self]
        | some s =>
            by_cases hij : i = j
            · simp only [if_pos hij, Option.map_some]
            · simp only [if_neg hij]
  exact within (j + 1) j

/-! ### Scopes that see the same -/

/-- Two scopes that see the same variables give every literal the same value. -/
theorem literalValue_congr {t₁ t₂ : Tree}
    (h : ∀ name, t₁.lookup i name = t₂.lookup j name) :
    (l : Literal) → t₁.literalValue i l = t₂.literalValue j l
  | .number _ | .text _ | .bool _ | .custom _ | .binding _ none => rfl
  | .var name => by rw [literalValue, literalValue, h name]
  | .binding _ (some value) => literalValue_congr h value

/-- A literal means the same in scopes that see the same variables. -/
theorem valueOf_congr {t₁ t₂ : Tree} (h : ∀ name, t₁.lookup i name = t₂.lookup j name)
    (l : Option Literal) : t₁.valueOf i l = t₂.valueOf j l := by
  cases l with
  | none => rfl
  | some l => exact literalValue_congr h l

/-- Two trees hold the same in every scope that the first has. -/
def SameScopes (t t' : Tree) : Prop :=
  ∀ i, i < t.scopes.size → t'.get? i = t.get? i

/-- A scope of both trees then sees the same functions in both. -/
theorem SameScopes.resolve_eq (h : t.SameScopes t') (hv : t.Valid) (hv' : t'.Valid)
    (hi : i < t.scopes.size) (name : String) : t'.resolve i name = t.resolve i name := by
  -- The search goes from child to parent, so the induction is on the number of the scope.
  induction i using Nat.strongRecOn with
  | ind i ih =>
      obtain ⟨s, hs⟩ := exists_get? hi
      have hs' : t'.get? i = some s := (h i hi).trans hs
      rw [Tree.resolve_eq hv' hs', Tree.resolve_eq hv hs]
      cases hp : s.parent with
      | none => rfl
      | some p =>
          have hpi := hv.parent_lt hs hp
          rw [Option.bind_some, Option.bind_some, ih p hpi (Nat.lt_trans hpi hi)]

/-- It sees the same variables, too. -/
theorem SameScopes.lookup_eq (h : t.SameScopes t') (hv : t.Valid) (hv' : t'.Valid)
    (hi : i < t.scopes.size) (name : String) : t'.lookup i name = t.lookup i name := by
  induction i using Nat.strongRecOn with
  | ind i ih =>
      obtain ⟨s, hs⟩ := exists_get? hi
      have hs' : t'.get? i = some s := (h i hi).trans hs
      rw [Tree.lookup_eq hv' hs', Tree.lookup_eq hv hs]
      cases hp : s.parent with
      | none => rfl
      | some p =>
          have hpi := hv.parent_lt hs hp
          rw [Option.bind_some, Option.bind_some, ih p hpi (Nat.lt_trans hpi hi)]

end Tree

end TagScript.Scope
