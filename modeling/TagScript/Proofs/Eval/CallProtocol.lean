import TagScript.Proofs.Eval.Confinement

/-!
# `TagScript.Proofs.Eval.CallProtocol`: a call pushes one value, or nothing at all

A call of a user function runs the function behind a boundary, on an operand stack of its
own. If the run gives a result, one value is moved to the caller's stack: the top of the
function's stack, or null if that is empty. If the run stops, at any depth and for any
reason, the calling scope is as it was before the call, its stack included
(`callUser_protocol`).

What the body did to other stacks does not enter the proof. A run behind a boundary is
confined to the scope behind it (`confinement_lawful`), and such a run leaves the operands
of every older scope alone (`Tree.Confined.operands_of_boundary`).
-/

set_option autoImplicit false

namespace TagScript

open Scope

variable {σ : Type} {e : Nat} {w : World σ}

/-- The function's own stack is empty when its run begins. -/
theorem operands_enter_boundary (t : Tree) (e : Nat) :
    (t.enter e true).2.operands t.scopes.size = [] := by
  rw [Tree.operands_eq, Tree.stackOf?, Tree.get?_enter_self, Tree.operandStacks_enter]
  simp [Tree.childOf]

/-- A run behind a boundary leaves the scope that entered it as it was, operands
included. -/
private theorem same_of_boundary {w' : World σ} (hw : w.tree.Reachable)
    (he : e < w.tree.scopes.size)
    (h : World.Confined w.tree.scopes.size (w.enter e true) w') :
    w'.tree.get? e = w.tree.get? e ∧ w'.tree.operands e = w.tree.operands e := by
  obtain ⟨-, hc⟩ := h.child hw he
  exact ⟨hc.get?_of_enter he, hc.operands_of_boundary hw.valid he⟩

/-- **The protocol of a call.** Take a call of any user function from a scope `e` of a
reachable tree. If the call gives a result, then the function ran behind a boundary, in a
scope with an empty operand stack of its own. After the call the operands of `e` are the
old ones with one value on top: what the run left on top of that stack, or null. If the
call stops with a fault, then `e` has the variables, functions and operands that it had
before. -/
theorem callUser_protocol (cfg : Setting σ) (budget : Nat) (f : UserFunction)
    (args : List Value) (w : World σ) (e : Nat) (hw : w.tree.Reachable)
    (he : e < w.tree.scopes.size) :
    (callUser cfg budget f e args).Ends
      (fun out w' => ∃ inner callee w₁, budget = inner + 1 ∧ callee = w.tree.scopes.size ∧
        (w.enter e true).tree.operands callee = [] ∧
        (runFunction cfg (callUser cfg inner) callee f args).run.run (w.enter e true)
          = (.ok out, w₁) ∧
        w'.tree.operands e = (w₁.tree.operands callee).headD .null :: w.tree.operands e)
      (fun _ w' =>
        w'.tree.get? e = w.tree.get? e ∧ w'.tree.operands e = w.tree.operands e) w := by
  have L := confinement_lawful cfg
  cases budget with
  | zero => exact ⟨rfl, rfl⟩
  | succ inner =>
      have run := L.runFunction (L.evalAll (L.callUser inner) w.tree.scopes.size f.body) args
        (w.enter e true)
      rw [Run.ends_callUser]
      split
      · -- The call goes too deep, and the body is not looked at.
        exact same_of_boundary hw he (World.Confined.of_tree_eq rfl)
      · apply Run.ends_of_run
        · intro out w₁ hrun
          refine ⟨inner, w.tree.scopes.size, w₁, rfl, rfl, operands_enter_boundary w.tree e,
            hrun, ?_⟩
          rw [World.Confined.operands_handBack hw he (run.of_ok hrun), Tree.top?]
          cases w₁.tree.operands w.tree.scopes.size <;> rfl
        · -- The run stopped somewhere inside, and nothing has been handed back.
          intro fault w₁ hrun
          exact same_of_boundary hw he (run.of_error hrun)

set_option maxRecDepth 4000 in
/-- The caller holds one operand. A function that pushes two values hands back the second,
which lies on the caller's operand then. A function that finds no operands on its own stack
stops, and takes none of the caller's. -/
theorem callUser_protocol_push :
    let push (s : String) : Node := .call (some (.text "push")) [some (.text s)]
    let two : UserFunction := ⟨"two", [], [push "a", push "b"]⟩
    let short : UserFunction := ⟨"short", [], [.call (some (.text "add")) []]⟩
    let w : World Unit := ⟨(Tree.root [] 0).push 0 (.text "x"), #[], (), 0⟩
    let after (f : UserFunction) := (callUser ⟨.discard, 10, false⟩ 11 f 0 []).run.run w
    w.tree.Reachable ∧ 0 < w.tree.scopes.size ∧
      (after two).2.tree.operands 0 = [.text "b", .text "x"] ∧
      (after short).1 = .error (.underflowArity "add" 2) ∧
      (after short).2.tree.operands 0 = [.text "x"] := by
  intro push two short w after
  have hw : w.tree.Reachable := .step (i := 0) (.root [] 0) (.push _ (.text "x"))
  have h0 : 0 < w.tree.scopes.size := by decide
  have protocol := fun f => callUser_protocol ⟨.discard, 10, false⟩ 11 f [] w 0 hw h0
  have htwo : (after two).2.tree.operands 0 = [.text "b", .text "x"] := by
    obtain ⟨inner, callee, w₁, hinner, rfl, -, hrun, hoperands⟩ := (protocol two).of_ok rfl
    obtain rfl : inner = 10 := by omega
    have htop : w₁.tree.operands 1 = [.text "b", .text "a"] :=
      (congrArg (fun after => after.2.tree.operands 1) hrun).symm
    exact hoperands.trans (congrArg (fun top => top.headD .null :: [.text "x"]) htop)
  obtain ⟨w', hshort⟩ : ∃ w', after short = (.error (.underflowArity "add" 2), w') := ⟨_, rfl⟩
  have hrest := ((protocol short).of_error hshort).2
  rw [hshort]
  exact ⟨hw, h0, htwo, rfl, hrest⟩

end TagScript
