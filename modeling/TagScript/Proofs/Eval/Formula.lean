import TagScript.Proofs.Eval.Outcome
import TagScript.Proofs.Scope.Operands

/-!
# `TagScript.Proofs.Eval.Formula`: expressions in postfix form

The operations on two operands take them from the operand stack and put the value there. So an
expression is written in postfix form: literals are pushed, and after the programs of its two
operands stands the call of the operation. `Formula` is an expression as a tree, `value` is
what it denotes in a scope, and `program` are the calls.

The program of a formula pushes the value of the formula, whatever the stack holds before, and
does nothing else (`quiet_program`). The induction is on the formula, with the state left open,
since the program of the second operand runs on top of the value of the first. `Quiet` says
that nodes one after another lead from a state to another and give no output; evaluations and
renderings follow it alike.

* `evaluate_formula`: the program of a formula computes the value of the formula.
-/

set_option autoImplicit false

namespace TagScript

open Log Scope

variable {σ : Type}

/-- The operations on two operands. -/
abbrev Native.Binary := { n : Native // n.arity = 2 }

/-- An expression over literals and the operations on two operands. -/
inductive Formula where
  | literal (l : Option Literal)
  | binary (op : Native.Binary) (left right : Formula)

namespace Formula

/-- The calls that compute a formula on the operand stack. -/
def program : Formula → List Node
  | .literal l => [.call (some (.text Native.push.name)) [l]]
  | .binary op left right =>
    left.program ++ (right.program ++ [.call (some (.text op.1.name)) []])

/-- What a formula denotes in a scope. -/
def value (t : Tree) (e : Nat) : Formula → Value
  | .literal l => t.valueOf e l
  | .binary op left right => op.1.apply (left.value t e) (right.value t e)

/-- A formula denotes the same, whatever the operand stacks hold. -/
theorem value_push (t : Tree) (e : Nat) (v : Value) (x : Formula) :
    x.value (t.push e v) e = x.value t e := by
  induction x with
  | literal l => exact Tree.valueOf_congr (Tree.lookup_push t e e v) l
  | binary op left right ihl ihr => rw [value, value, ihl, ihr]

end Formula

/-- A scope sees the built-in operations that formulas use under their names. No function of a
template stands in front of them. -/
def Scope.Tree.SeesOperations (t : Tree) (e : Nat) : Prop :=
  ∀ n : Native, n = .push ∨ n.arity = 2 → t.resolve e n.name = some (.native n)

/-! ### Nodes without output -/

/-- The nodes lead from a state to another, one after another, and none of them gives output.
They call no function of a template, so it does not matter what such calls mean. -/
inductive Quiet (cfg : Setting σ) (e : Nat) : List Node → World σ → World σ → Prop where
  | nil (w : World σ) : Quiet cfg e [] w w
  | cons {n : Node} {rest : List Node} {w w₁ w' : World σ}
      (h : ∀ caller, (evalNode cfg caller e n).run.run w = (.ok .none, w₁))
      (hrest : Quiet cfg e rest w₁ w') : Quiet cfg e (n :: rest) w w'

namespace Quiet

variable {cfg : Setting σ} {e : Nat} {nodes rest : List Node} {w w₁ w' : World σ}

/-- Such nodes may come one after another. -/
theorem append (h : Quiet cfg e nodes w w₁) (h' : Quiet cfg e rest w₁ w') :
    Quiet cfg e (nodes ++ rest) w w' := by
  induction h with
  | nil _ => exact h'
  | cons hn _ ih => exact .cons hn (ih h')

/-- Evaluated together, they leave no output and the state that they lead to. -/
theorem run_evalAll (h : Quiet cfg e nodes w w') (caller : Caller σ) :
    (evalAll cfg caller e nodes).run.run w
      = (.ok (List.replicate nodes.length .none), w') := by
  induction h with
  | nil _ => rfl
  | cons hn _ ih =>
      rw [evalAll, Run.run_bind, hn caller]
      dsimp only
      rw [Run.run_bind, ih]
      rfl

/-- Rendered, they append nothing. -/
theorem run_render (h : Quiet cfg e nodes w w') (parent : NodeRef) :
    (render cfg e parent nodes).run.run w = (.ok (), w') := by
  induction h with
  | nil _ => rfl
  | cons hn _ ih =>
      rw [render, Run.run_bind, eval, hn]
      dsimp only
      rw [Run.run_bind]
      exact ih

end Quiet

/-! ### The two kinds of calls -/

section

variable {cfg : Setting σ} {e : Nat} {w : World σ} {t : Tree}

/-- The state after a call that was logged and changed the tree. -/
private def called (w : World σ) (t : Tree) (name : String) (args : Nat) : World σ :=
  { w with
    tree := t
    log := w.log.push (.at .trace "call" [("name", .text name), ("args", .integer args)]) }

/-- A call of a built-in operation is logged, and the operation does the rest. -/
private theorem ends_call_native {Q : Result → World σ → Prop} {E : Fault → World σ → Prop}
    {caller : Caller σ} {n : Native} (h : w.tree.resolve e n.name = some (.native n))
    (args : List (Option Literal)) :
    (evalNode cfg caller e (.call (some (.text n.name)) args)).Ends Q E w
      ↔ (n.invoke e (args.map (w.tree.valueOf e))).Ends Q E
          (called w w.tree n.name (args.map (w.tree.valueOf e)).length) := by
  have hname : (w.tree.valueOf e (some (.text n.name))).toText = n.name := rfl
  simp only [evalNode, evalCall, Run.ends_bind, Run.ends_literal, Run.ends_get, hname, h,
    Run.ends_mapM_literal, Run.ends_note]
  rfl

/-- An operand that has just been pushed is taken off again. -/
private theorem ends_pop_push {Q : Value → World σ → Prop} {E : Fault → World σ → Prop}
    (hv : t.Valid) (he : e < t.scopes.size) {v : Value} (hw : w.tree = t.push e v)
    {fault : Fault} (hQ : Q v { w with tree := t }) :
    (Run.pop e fault : Run σ Value).Ends Q E w := by
  have htop : w.tree.top? e = some v := by rw [hw, Tree.top?_push hv he]
  apply Run.ends_pop
  · intro u hu
    rw [Option.some.inj (hu.symm.trans htop), hw, Tree.drop_push]
    exact hQ
  · intro hempty
    cases hempty.symm.trans htop

/-- All operations on two operands go the same way: the second operand is on top. -/
theorem invoke_binary (op : Native.Binary) (args : List Value) :
    (op.1.invoke e args : Run σ Result) = (do
      let b ← Run.pop e (.underflowArity op.1.name op.1.arity)
      let a ← Run.pop e (.underflowArity op.1.name op.1.arity)
      Run.push e (op.1.apply a b)
      return .none) := by
  obtain ⟨n, hn⟩ := op
  cases n with
  | push | pop | set | range => cases hn
  | _ => rfl

/-- The call of an operation takes two values off the stack and puts a third there. -/
private theorem quiet_binary (cfg : Setting σ) (op : Native.Binary) (hv : t.Valid)
    (he : e < t.scopes.size) (hop : t.resolve e op.1.name = some (.native op.1)) (a b : Value)
    (hw : w.tree = (t.push e a).push e b) :
    Quiet cfg e [.call (some (.text op.1.name)) []] w
      (called w (t.push e (op.1.apply a b)) op.1.name 0) := by
  refine .cons (fun caller => Run.Ends.run_eq ?_) (.nil _)
  have hsees : w.tree.resolve e op.1.name = some (.native op.1) := by
    rw [hw, Tree.resolve_push, Tree.resolve_push, hop]
  have hv' : (t.push e a).Valid := hv.step (.push t a)
  have he' : e < (t.push e a).scopes.size := by rwa [Tree.scopes_push]
  rw [ends_call_native hsees, invoke_binary, Run.ends_bind]
  -- The value on top is the second operand, and the first is below it.
  refine ends_pop_push (w := called w w.tree op.1.name 0) hv' he' hw ?_
  rw [Run.ends_bind]
  exact ends_pop_push hv he rfl ⟨rfl, rfl⟩

/-- The call of `push` puts the value of a literal on the stack. -/
private theorem quiet_push (cfg : Setting σ)
    (hpush : w.tree.resolve e Native.push.name = some (.native .push)) (l : Option Literal) :
    Quiet cfg e [.call (some (.text Native.push.name)) [l]] w
      (called w (w.tree.push e (w.tree.valueOf e l)) Native.push.name 1) := by
  refine .cons (fun caller => Run.Ends.run_eq ?_) (.nil _)
  rw [ends_call_native hpush]
  exact ⟨rfl, rfl⟩

end

/-- The program of a formula pushes the value of the formula and gives no output. -/
theorem quiet_program (cfg : Setting σ) {e : Nat} (x : Formula) {w : World σ}
    (hv : w.tree.Valid) (he : e < w.tree.scopes.size) (hsees : w.tree.SeesOperations e) :
    ∃ log, Quiet cfg e x.program w
      { w with tree := w.tree.push e (x.value w.tree e), log := log } := by
  induction x generalizing w with
  | literal l => exact ⟨_, quiet_push cfg (hsees .push (Or.inl rfl)) l⟩
  | binary op left right ihl ihr =>
      let a := left.value w.tree e
      let b := right.value w.tree e
      obtain ⟨log₁, hleft⟩ := ihl hv he hsees
      -- The second operand is computed on top of the value of the first.
      obtain ⟨log₂, hright⟩ :=
        @ihr { w with tree := w.tree.push e a, log := log₁ } (hv.step (.push _ a))
          (by rwa [Tree.scopes_push]) fun n hn => (Tree.resolve_push _ e e a _).trans (hsees n hn)
      rw [Formula.value_push] at hright
      have hcall := quiet_binary cfg op hv he (hsees op.1 (Or.inr op.2)) a b
        (w := { w with tree := (w.tree.push e a).push e b, log := log₂ }) rfl
      exact ⟨_, hleft.append (hright.append hcall)⟩

/-- **The program of a formula computes its value.** Take a formula, any state and a scope in
it that sees the operations under their names, with anything on the operand stack. Evaluating
the program of the formula succeeds, and so does rendering it; neither gives output or looks at
the sink. Both leave the same state. In it there is one value more on the operand stack, on top
of what was there: the value of the formula. Every scope has the variables and functions that
it had. -/
theorem evaluate_formula (cfg : Setting σ) (x : Formula) (w : World σ) (e : Nat)
    (hw : w.tree.Reachable) (he : e < w.tree.scopes.size) (hsees : w.tree.SeesOperations e) :
    ∃ w', (∀ caller : Caller σ, (evalAll cfg caller e x.program).run.run w
        = (.ok (List.replicate x.program.length .none), w')) ∧
      (∀ parent, (render cfg e parent x.program).run.run w = (.ok (), w')) ∧
      w'.sink = w.sink ∧ w'.tree = w.tree.push e (x.value w.tree e) ∧
      w'.tree.operands e = x.value w.tree e :: w.tree.operands e ∧
      ∀ i, w'.tree.get? i = w.tree.get? i := by
  obtain ⟨log, hquiet⟩ := quiet_program cfg x hw.valid he hsees
  refine ⟨_, hquiet.run_evalAll, hquiet.run_render, rfl, rfl, ?_, ?_⟩
  · exact Tree.operands_push hw.valid he _
  · exact fun i => Tree.get?_push w.tree e i _

set_option maxRecDepth 4000 in
/-- Texts are joined from left to right, on a stack that already holds a value. -/
theorem evaluate_formula_join :
    let text (s : String) : Formula := .literal (some (.text s))
    let add (x y : Formula) : Formula := .binary ⟨.add, rfl⟩ x y
    let joined := add (text "a") (add (text "b") (text "c"))
    let w : World Unit := ⟨(Tree.root [] 0).push 0 (.text "x"), #[], (), 0⟩
    w.tree.Reachable ∧ 0 < w.tree.scopes.size ∧ w.tree.SeesOperations 0 ∧
      ∃ w', (render ⟨.discard, 10, false⟩ 0 none joined.program).run.run w = (.ok (), w') ∧
        w'.tree.operands 0 = [.text "abc", .text "x"] := by
  intro text add joined w
  have hw : w.tree.Reachable := .step (i := 0) (.root [] 0) (.push _ (.text "x"))
  have hroot : 0 < w.tree.scopes.size := by decide
  have hsees : w.tree.SeesOperations 0 := by
    intro n _
    cases n <;> rfl
  obtain ⟨w', -, hrender, -, -, hoperands, -⟩ :=
    evaluate_formula ⟨.discard, 10, false⟩ joined w 0 hw hroot hsees
  exact ⟨hw, hroot, hsees, w', hrender none, hoperands⟩

end TagScript
