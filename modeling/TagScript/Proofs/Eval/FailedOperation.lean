import TagScript.Proofs.Eval.Formula
import TagScript.Proofs.Eval.Policy

/-!
# `TagScript.Proofs.Eval.FailedOperation`: what a built-in operation leaves when it stops

An operation stops because an operand is missing or because a range would be too long. It does
not bind anything or push anything before it knows that it can go on, so it leaves the variables
and functions of all scopes as they were. The operands are another matter: they are taken one
after another, and none is put back. So an operation on two operands that finds only one has
taken it (`Native.sub_takes_operand`). In every other case nothing has changed at all.

* `Native.Stopped`: the reasons to stop, with what has changed.
* `Native.invoke_stopped`: an operation that stops has done so for one of these reasons.
-/

set_option autoImplicit false

namespace TagScript

open Scope

variable {σ : Type} {e : Nat} {w w' : World σ} {f : Fault}

/-- An operation that was called in scope `e` has stopped with the fault `f`. -/
structure Native.Stopped (n : Native) (e : Nat) (w : World σ) (f : Fault) (w' : World σ) :
    Prop where
  /-- An operand was missing, or the range was too long. -/
  cause : f = .underflow n.name ∨ f = .underflowArity n.name 2 ∨
    ∃ low high, f = .rangeLimit low high maxRange
  /-- Every scope has its variables and functions. -/
  scopes : w'.tree.scopes = w.tree.scopes
  /-- Nothing at all has changed, or an operation on two operands has taken the only one that
  there was. -/
  taken : w' = w ∨ n.arity = 2 ∧ ∃ v, w.tree.operands e = [v] ∧ w'.tree.operands e = [] ∧
    w' = { w with tree := w.tree.drop e }

namespace Native

/-- An operation on two operands stops in front of the first or of the second. -/
private theorem ends_invoke_binary (op : Native.Binary) (args : List Value) :
    (op.1.invoke e args).Ends (fun _ _ => True) (op.1.Stopped e w) w := by
  have harity : op.1.arity = 2 := op.2
  rw [invoke_binary, harity, Run.ends_bind]
  refine Run.ends_pop e _ (fun b htop => ?_) (fun _ => ⟨Or.inr (Or.inl rfl), rfl, Or.inl rfl⟩)
  rw [Run.ends_bind]
  refine Run.ends_pop e _ (fun _ _ => trivial) fun hempty => ?_
  -- The operand that was taken had none below it, so it was the only one.
  have hnone : (w.tree.drop e).operands e = [] := List.head?_eq_none_iff.mp hempty
  obtain ⟨rest, hrest⟩ := List.head?_eq_some_iff.mp htop
  have htail := Tree.operands_drop w.tree e
  rw [hnone, hrest, List.tail_cons] at htail
  have honly : w.tree.operands e = [b] := by rw [hrest, ← htail]
  exact ⟨Or.inr (Or.inl rfl), Tree.scopes_drop w.tree e,
    Or.inr ⟨harity, b, honly, hnone, rfl⟩⟩

/-- **What a failed operation leaves.** Take any built-in operation, any scope in any state, and
any arguments. If the call stops with a fault, then an operand was missing or a range was too
long. Every scope has kept its variables and functions. Nothing at all has changed, unless an
operation on two operands found only one: this one has been taken, and the operand stack is
empty. -/
theorem invoke_stopped (n : Native) (args : List Value)
    (h : (n.invoke e args).run.run w = (.error f, w')) : n.Stopped e w f w' := by
  have hends : (n.invoke e args).Ends (fun _ _ => True) (n.Stopped e w) w := by
    cases n with
    | push => exact trivial
    | pop =>
        rw [invoke, Run.ends_bind]
        refine Run.ends_pop e _ (fun v _ => ?_) (fun _ => ⟨Or.inl rfl, rfl, Or.inl rfl⟩)
        cases v <;> exact trivial
    | set =>
        rw [invoke, Run.ends_bind]
        exact Run.ends_pop e _ (fun _ _ => trivial) fun _ => ⟨Or.inl rfl, rfl, Or.inl rfl⟩
    | range =>
        unfold invoke
        dsimp only
        cases hitems : rangeItems args with
        | error fault =>
            -- The length is looked at before the array is made.
            obtain ⟨low, high, hfault, -⟩ := rangeItems_eq_error hitems
            exact ⟨Or.inr (Or.inr ⟨low, high, hfault⟩), rfl, Or.inl rfl⟩
        | ok items => exact trivial
    | add | sub | mul | div | rem | eq | ne | lt | le | gt | ge | and | or =>
        exact ends_invoke_binary ⟨_, rfl⟩ args
  exact hends.of_error h

/-- Behind a boundary the operand stack is empty, although the stack before it is not. So `set`
stops, and the variable that it would have set is unbound as before. -/
theorem invoke_stopped_set :
    let t := (((Tree.root [] 0).push 0 (.bool true)).enter 0 true).2
    let w : World Unit := ⟨t, #[], (), 0⟩
    (Native.set.invoke 1 [.text "x"]).run.run w = (.error (.underflow "set"), w) ∧
      Native.set.Stopped 1 w (.underflow "set") w := by
  intro t w
  have hrun : (Native.set.invoke 1 [.text "x"]).run.run w = (.error (.underflow "set"), w) := rfl
  exact ⟨hrun, invoke_stopped .set [.text "x"] hrun⟩

/-- **A difference takes the only operand that there is.** The call fails because the second is
missing, and the operand stack is not as it was before. -/
theorem sub_takes_operand :
    let w : World Unit := ⟨(Tree.root [] 0).push 0 (.bool true), #[], (), 0⟩
    let after := (Native.sub.invoke 0 []).run.run w
    after.1 = .error (.underflowArity "sub" 2) ∧
      w.tree.operands 0 = [.bool true] ∧ after.2.tree.operands 0 = [] :=
  ⟨rfl, rfl, rfl⟩

end Native

end TagScript
