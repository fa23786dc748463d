import TagScript.Proofs.Eval.Contract
import TagScript.Proofs.Scope.Confined

/-!
# `TagScript.Proofs.Eval.Confinement`: what an evaluation leaves alone

An evaluation in a scope works on that scope, on its operand stack, and on scopes that it
enters itself. Every other scope keeps its variables and functions, and every other
operand stack its contents, whether the evaluation succeeds or stops with a fault
(`evalNode_frame`). Some nodes work on a scope of their own throughout, and leave even the
scope around them as it was: scopes with bindings, loops and calls of user functions.

The first part is the contract `confinement`. It also carries that the tree stays
reachable, because the rule for entered scopes needs the scopes to be where they seem to
be. The second part looks at the one place where each of the nodes enters its scope.
-/

set_option autoImplicit false

namespace TagScript

open Scope

variable {σ : Type}

/-- From `w` to `w'` the tree stays reachable, and its change is confined to scope `e`. -/
def World.Confined (e : Nat) (w w' : World σ) : Prop :=
  w.tree.Reachable → e < w.tree.scopes.size →
    w'.tree.Reachable ∧ Tree.Confined e w.tree w'.tree

/-- An evaluation in a scope may do what is confined to the scope. -/
def confinement (σ : Type) : Contract σ where
  yields e w _ w' := World.Confined e w w'
  stops e w _ w' := World.Confined e w w'

namespace World.Confined

variable {e : Nat} {w w₁ w₂ w' : World σ}

/-- What leaves the tree as it is is confined to any scope. -/
theorem of_tree_eq (h : w'.tree = w.tree) : Confined e w w' := by
  intro hw _
  rw [h]
  exact ⟨hw, .refl e w.tree⟩

/-- What is confined to a scope may come after what is confined to it. -/
theorem trans (h₁ : Confined e w₁ w₂) (h₂ : Confined e w₂ w') : Confined e w₁ w' := by
  intro hw he
  obtain ⟨hw₂, hc₁⟩ := h₁ hw he
  obtain ⟨hw', hc₂⟩ := h₂ hw₂ (Nat.lt_of_lt_of_le he hc₁.scopes_le)
  exact ⟨hw', hc₁.trans hc₂⟩

/-- So is a single step in the scope. -/
theorem of_step {t : Tree} (h : Tree.Step e w.tree t) : Confined e w { w with tree := t } :=
  fun hw _ => ⟨hw.step h, h.confined⟩

/-- What is confined to a scope entered from `e`, seen as a change of the tree around. -/
theorem child {boundary : Bool} (h : Confined w.tree.scopes.size (w.enter e boundary) w')
    (hw : w.tree.Reachable) (he : e < w.tree.scopes.size) :
    w'.tree.Reachable ∧ Tree.Confined w.tree.scopes.size (w.tree.enter e boundary).2 w'.tree := by
  refine h (hw.enter he boundary) ?_
  show w.tree.scopes.size < (w.tree.enter e boundary).2.scopes.size
  rw [Tree.size_scopes_enter]
  exact Nat.lt_succ_self _

/-- What is confined to a scope entered from `e` is confined to `e` as well. -/
theorem of_enter {boundary : Bool} (h : Confined w.tree.scopes.size (w.enter e boundary) w') :
    Confined e w w' := by
  intro hw he
  obtain ⟨hw', hc⟩ := h.child hw he
  exact ⟨hw', hc.of_enter he⟩

/-- Handing a value back from behind a boundary is work of the scope that entered. -/
theorem handBack (v : Value) (h : Confined w.tree.scopes.size (w.enter e true) w') :
    Confined e w { w' with tree := (w'.tree.drop w.tree.scopes.size).push e v } := by
  exact trans (of_enter (trans h (of_step (.drop w'.tree)))) (of_step (.push _ v))

/-- After a run behind a boundary, a value that is handed back lies on top of the old
operands. -/
theorem operands_handBack (hw : w.tree.Reachable) (he : e < w.tree.scopes.size)
    (h : Confined w.tree.scopes.size (w.enter e true) w') (v : Value) :
    ((w'.tree.drop w.tree.scopes.size).push e v).operands e = v :: w.tree.operands e := by
  have hdrop := h.trans (.of_step (.drop w'.tree))
  obtain ⟨hreach, hc⟩ := hdrop.child hw he
  have he' : e < (w'.tree.drop w.tree.scopes.size).scopes.size :=
    Nat.lt_of_lt_of_le he (hc.of_enter he).scopes_le
  rw [Tree.operands_push hreach.valid he', hc.operands_of_boundary hw.valid he]

end World.Confined

/-- Every evaluation, with any sink, is confined to its scope. -/
theorem confinement_lawful (cfg : Setting σ) : (confinement σ).Lawful cfg where
  refl _ _ := .of_tree_eq rfl
  append h₁ h₂ := h₁.trans h₂
  stop h₁ h₂ := World.Confined.trans h₁ h₂
  fault _ _ _ := .of_tree_eq rfl
  discard h := h
  none h := h
  scalar _ h := h
  list h := h
  note _ _ _ := .of_tree_eq rfl
  poll _ _ := .of_tree_eq rfl
  change h := .of_step h
  text _ _ _ := .of_tree_eq rfl
  element _ _ h := h
  element_stop _ _ h := h
  enter h := .of_enter h
  boundary v h := .handBack v h
  enter_stop _ h := .of_enter h

/-! ### Work in a new scope -/

section

variable {e : Nat} {w : World σ}

/-- A computation that enters a scope and is confined to that leaves every scope as it
was. -/
private theorem ends_sameScopes_of_enter {α : Type} {m : Nat → Run σ α}
    (hm : ∀ child, (confinement σ).Keeps child (fun _ => []) (m child))
    (hw : w.tree.Reachable) (he : e < w.tree.scopes.size) :
    (Run.enter e false >>= m).Ends (fun _ w' => w.tree.SameScopes w'.tree)
      (fun _ w' => w.tree.SameScopes w'.tree) w := by
  rw [Run.ends_bind, Run.ends_enter]
  refine (hm _ _).mono ?_ ?_
  · intro _ w' h i hi
    exact (World.Confined.child h hw he).2.get?_of_enter hi
  · intro _ w' h i hi
    exact (World.Confined.child h hw he).2.get?_of_enter hi

/-- A call of a user function leaves every scope as it was. -/
theorem callUser_sameScopes (cfg : Setting σ) (budget : Nat) (f : UserFunction)
    (args : List Value) (hw : w.tree.Reachable) (he : e < w.tree.scopes.size) :
    (callUser cfg budget f e args).Ends (fun _ w' => w.tree.SameScopes w'.tree)
      (fun _ w' => w.tree.SameScopes w'.tree) w := by
  have L := confinement_lawful cfg
  cases budget with
  | zero => exact fun i _ => rfl
  | succ budget =>
      rw [Run.ends_callUser]
      split
      · -- The call goes too deep. All that it did was to enter a scope.
        intro i hi
        exact Tree.get?_enter_of_lt w.tree true hi
      · have run := L.runFunction (L.evalAll (L.callUser budget) w.tree.scopes.size f.body) args
        refine (run _).mono ?_ ?_
        · -- The value is handed back by way of the stacks, which no scope holds.
          intro _ w' h i hi
          rw [Tree.get?_push, Tree.get?_drop]
          exact (World.Confined.child h hw he).2.get?_of_enter hi
        · intro _ w' h i hi
          exact (World.Confined.child h hw he).2.get?_of_enter hi

/-- The nodes that leave the scope around them as it was: they log, or they work in a
scope of their own. -/
def Node.KeepsScope (t : Tree) (e : Nat) : Node → Prop
  | .comment _ | .letIn _ _ | .forEach _ _ _ => True
  | .call function _ => ∃ f, t.resolve e (t.valueOf e function).toText = some (.user f)
  | _ => False

/-- An evaluation of such a node leaves every scope as it was. -/
theorem evalNode_sameScopes (cfg : Setting σ) (budget : Nat) {n : Node}
    (hn : n.KeepsScope w.tree e) (hw : w.tree.Reachable) (he : e < w.tree.scopes.size) :
    (evalNode cfg (callUser cfg budget) e n).Ends (fun _ w' => w.tree.SameScopes w'.tree)
      (fun _ w' => w.tree.SameScopes w'.tree) w := by
  have L := confinement_lawful cfg
  have body : ∀ child nodes, (confinement σ).Keeps child (fun rs => rs)
      (evalAll cfg (callUser cfg budget) child nodes) :=
    fun child nodes => L.evalAll (L.callUser budget) child nodes
  cases n with
  | comment nodes =>
      simp only [evalNode, evalComment, Run.ends_bind, Run.ends_note, Run.ends_pure]
      -- A comment only logs, so the tree is the one that it was.
      refine (Run.ends_mapM_commentValue e nodes w).mono ?_ ?_
      · rintro _ _ rfl i _
        rfl
      · rintro _ _ rfl i _
        rfl
  | letIn bindings nodes =>
      simp only [evalNode]
      exact ends_sameScopes_of_enter (fun child => L.letBody (body child nodes) bindings) hw he
  | forEach name sequence nodes =>
      simp only [evalNode, Run.ends_bind, Run.ends_literal]
      cases (w.tree.valueOf e sequence).elements? with
      | none => exact fun i _ => rfl
      | some items =>
          exact ends_sameScopes_of_enter
            (fun child => L.loopBody (body child nodes) _ items) hw he
  | call function args =>
      obtain ⟨f, hf⟩ := hn
      simp only [evalNode, evalCall, Run.ends_bind, Run.ends_literal, Run.ends_get, hf,
        Run.ends_mapM_literal, Run.ends_note]
      exact callUser_sameScopes cfg budget f _ hw he
  | _ => exact hn.elim

end

/-- **The frame of an evaluation.** Take a scope `e` of a reachable tree. An evaluation of
any node in `e`, with any sink, limit, budget and cancellation, leaves every other scope of
the tree as it was, with its variables and its functions, and the contents of every operand
stack but that of `e`. If the node logs, or works in a scope of its own, then `e` too holds
what it held before. All this is so whether the evaluation gives a result or stops with a
fault, and the tree is again a reachable one. -/
theorem evalNode_frame (cfg : Setting σ) (budget : Nat) (w : World σ) (e : Nat) (n : Node)
    (hw : w.tree.Reachable) (he : e < w.tree.scopes.size) :
    let after := ((evalNode cfg (callUser cfg budget) e n).run.run w).2.tree
    after.Reachable ∧
    (∀ i, i < w.tree.scopes.size → i ≠ e → after.get? i = w.tree.get? i) ∧
    (∀ k, k < w.tree.operandStacks.size → w.tree.stackOf? e ≠ some k →
      after.operandStacks[k]? = w.tree.operandStacks[k]?) ∧
    (n.KeepsScope w.tree e → after.get? e = w.tree.get? e) := by
  intro after
  have L := confinement_lawful cfg
  have hconfined : World.Confined e w ((evalNode cfg (callUser cfg budget) e n).run.run w).2 :=
    (L.evalNode (L.callUser budget) e n w).state
  obtain ⟨hreach, hc⟩ := hconfined hw he
  refine ⟨hreach, hc.scope, hc.stack, ?_⟩
  intro hn
  exact (evalNode_sameScopes cfg budget hn hw he).state e he

/-- In a scope below the root, a node binds a variable of its own, sets another from the
stack and defines a function. Neither the root nor the scope around the node is changed. -/
theorem evalNode_frame_letIn :
    let t := ((Tree.root [] 0).enter 0 false).2
    let n : Node := .letIn [some (.binding "x" (some (.bool true)))]
      [.call (some (.text "push")) [some (.var "x")], .call (some (.text "set")) [some (.text "y")],
        .define (some (.text "f")) [] []]
    let cfg : Setting Unit := ⟨.discard, 10, false⟩
    let after := ((evalNode cfg (callUser cfg 11) 1 n).run.run ⟨t, #[], (), 0⟩).2.tree
    t.Reachable ∧ 1 < t.scopes.size ∧ n.KeepsScope t 1 ∧
      after.get? 0 = t.get? 0 ∧ after.get? 1 = t.get? 1 := by
  intro t n cfg after
  have ht : t.Reachable := .enter (.root [] 0) (by decide) false
  have h1 : 1 < t.scopes.size := by decide
  obtain ⟨-, hscope, -, hown⟩ := evalNode_frame cfg 11 ⟨t, #[], (), 0⟩ 1 n ht h1
  exact ⟨ht, h1, trivial, hscope 0 (by decide) (by decide), hown trivial⟩

end TagScript
