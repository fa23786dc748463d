import TagScript.Proofs.Scope.Confined

/-!
# `TagScript.Proofs.Scope.Operands`: the operand stack of a scope as a stack

Pushing a value and dropping it again leaves the tree as it was (`drop_push`). Neither has to
do with the variables and functions that the scopes see (`lookup_push`, `resolve_push`).
-/

set_option autoImplicit false

namespace TagScript.Scope.Tree

variable {t t' : Tree} {i : Nat}

/-- Dropping takes the top off the operands. -/
theorem operands_drop (t : Tree) (i : Nat) : (t.drop i).operands i = (t.operands i).tail := by
  have hstack : (t.drop i).stackOf? i = t.stackOf? i := by rw [stackOf?, get?_drop, stackOf?]
  rw [operands_eq, operands_eq, hstack]
  cases hs : t.stackOf? i with
  | none => rfl
  | some k =>
      rw [Option.bind_some, Option.bind_some, operandStacks_drop, if_pos hs]
      cases t.operandStacks[k]? <;> rfl

/-- What was pushed and is dropped leaves no trace. -/
theorem drop_push (t : Tree) (i : Nat) (v : Value) : (t.push i v).drop i = t := by
  unfold drop
  rw [get?_push]
  unfold push
  cases t.get? i with
  | none => rfl
  | some s =>
      have hstacks : (t.operandStacks.modify s.stack (v :: ·)).modify s.stack List.tail
          = t.operandStacks := by
        apply Array.ext_getElem?
        intro k
        rw [Array.getElem?_modify, Array.getElem?_modify]
        split
        · cases t.operandStacks[k]? <;> rfl
        · rfl
      exact congrArg (fun all => { t with operandStacks := all }) hstacks

/-- A value that was pushed is on top. -/
theorem top?_push (hv : t.Valid) (hi : i < t.scopes.size) (v : Value) :
    (t.push i v).top? i = some v := by
  rw [top?, operands_push hv hi]
  rfl

/-- What a scope sees does not depend on the operand stacks. -/
private theorem seen_congr (h : ∀ j, t'.get? j = t.get? j) (name : String) (fuel i : Nat) :
    t'.lookupWithin name fuel i = t.lookupWithin name fuel i ∧
    t'.resolveWithin name fuel i = t.resolveWithin name fuel i := by
  induction fuel generalizing i with
  | zero => exact ⟨rfl, rfl⟩
  | succ fuel ih =>
      simp only [lookupWithin, resolveWithin, h, fun p => (ih p).1, fun p => (ih p).2, and_self]

/-- Pushing a value does not change what a variable is bound to. -/
theorem lookup_push (t : Tree) (e i : Nat) (v : Value) (name : String) :
    (t.push e v).lookup i name = t.lookup i name :=
  (seen_congr (fun j => get?_push t e j v) name (i + 1) i).1

/-- Nor does it change what a function name stands for. -/
theorem resolve_push (t : Tree) (e i : Nat) (v : Value) (name : String) :
    (t.push e v).resolve i name = t.resolve i name :=
  (seen_congr (fun j => get?_push t e j v) name (i + 1) i).2

end TagScript.Scope.Tree
