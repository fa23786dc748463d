import TagScript.Proofs.Eval.Confinement
import TagScript.Proofs.Eval.Coupling
import TagScript.Proofs.Scope.Twin

/-!
# `TagScript.Proofs.Eval.Noninterference`: what a called function cannot tell

A user function runs behind a boundary. It sees its arguments, the functions that its
caller sees, and how deep the caller is. It does not see the caller's variables or operands:
two calls with the same arguments, from scopes that agree in what a function sees, give the
same result or stop with the same fault, hand the same value back, and leave the same log
and the same sink (`callUser_noninterference`). The sink is any, so one that records what is
asked of it has recorded the same.

The two runs are coupled (`twinning`). Their trees have grown in step since the calls
(`Outset.Twins`), and everything else in their states is equal.
-/

set_option autoImplicit false

namespace TagScript

open Log Scope

variable {σ : Type}

/-- Two states that differ in their scopes and operand stacks only. The identities that new
arrays get are no part of a scope. -/
structure World.SameButScopes (w₁ w₂ : World σ) : Prop where
  log : w₁.log = w₂.log
  sink : w₁.sink = w₂.sink
  polls : w₁.polls = w₂.polls
  fresh : w₁.tree.fresh = w₂.tree.fresh

/-- Handing values back changes operand stacks only. -/
private theorem World.SameButScopes.handBack {w₁ w₂ : World σ} (h : w₁.SameButScopes w₂)
    (c₁ c₂ e₁ e₂ : Nat) (v₁ v₂ : Value) :
    World.SameButScopes { w₁ with tree := (w₁.tree.drop c₁).push e₁ v₁ }
      { w₂ with tree := (w₂.tree.drop c₂).push e₂ v₂ } := by
  refine ⟨h.log, h.sink, h.polls, ?_⟩
  simpa only [Tree.fresh_push, Tree.fresh_drop] using h.fresh

/-- Two runs in step since the outset, seen from new scopes in step. Their results are
equal. -/
def twinning (σ : Type) (o : Outset) : Coupling σ σ where
  agree w₁ w₂ i j := o.Twins w₁.tree w₂.tree ∧ w₁.SameButScopes w₂ ∧
    ∃ n, i = o.new₁ n ∧ j = o.new₂ n ∧ o.new₁ n < w₁.tree.scopes.size
  results := Eq

section

variable {o : Outset} {w₁ w₂ w₁' w₂' : World σ}

/-- To move is to stay in step, with no scope taken away. -/
private theorem twinning_moves (ht : o.Twins w₁'.tree w₂'.tree) (hs : w₁'.SameButScopes w₂')
    (hle : w₁.tree.scopes.size ≤ w₁'.tree.scopes.size) :
    (twinning σ o).Moves w₁ w₂ w₁' w₂' := by
  rintro i j ⟨-, -, n, hi, hj, hn⟩
  exact ⟨ht, hs, n, hi, hj, Nat.lt_of_lt_of_le hn hle⟩

/-- What leaves the trees alone moves, if it does the same to the rest. -/
private theorem twinning_moves_of_trees {i j : Nat} (h : (twinning σ o).agree w₁ w₂ i j)
    (ht₁ : w₁'.tree = w₁.tree) (ht₂ : w₂'.tree = w₂.tree) (hlog : w₁'.log = w₂'.log)
    (hsink : w₁'.sink = w₂'.sink) (hpolls : w₁'.polls = w₂'.polls) :
    (twinning σ o).Moves w₁ w₂ w₁' w₂' := by
  obtain ⟨ht, hs, -⟩ := h
  refine twinning_moves ?_ ⟨hlog, hsink, hpolls, ?_⟩ (Nat.le_of_eq (by rw [ht₁]))
  · rw [ht₁, ht₂]
    exact ht
  · rw [ht₁, ht₂]
    exact hs.fresh

/-- All evaluations keep in step, if the scopes at the outset show the same functions. -/
theorem twinning_lawful (ho : o.Level) (cfg : Setting σ) :
    (twinning σ o).Lawful cfg cfg where
  limit := rfl
  canceled := rfl
  polls h := h.2.1.polls
  fresh h := h.2.1.fresh
  lookup h name := by
    obtain ⟨ht, -, n, rfl, rfl, hn⟩ := h
    exact ht.lookup_eq hn name
  resolve h name := by
    obtain ⟨ht, -, n, rfl, rfl, hn⟩ := h
    exact ht.resolve_eq ho hn name
  top h := by
    obtain ⟨ht, -, n, rfl, rfl, hn⟩ := h
    exact ht.top?_eq hn
  depth h := by
    obtain ⟨ht, -, n, rfl, rfl, hn⟩ := h
    exact ht.depth_eq hn
  none := rfl
  scalar _ := rfl
  list h := by
    have heq := List.forall₂_eq_eq_eq ▸ h
    exact congrArg Result.list heq
  note r h :=
    twinning_moves_of_trees h rfl rfl (congrArg (·.push r) h.2.1.log) h.2.1.sink h.2.1.polls
  poll h :=
    twinning_moves_of_trees h rfl rfl h.2.1.log h.2.1.sink (congrArg (· + 1) h.2.1.polls)
  change h hs := by
    obtain ⟨ht, hsame, n, rfl, rfl, hn⟩ := h
    have ht' := ht.step hn hs
    refine twinning_moves ht' ⟨hsame.log, hsame.sink, hsame.polls, ht'.fresh⟩ ?_
    exact Nat.le_of_eq hs.left.size_scopes.symm
  enter boundary h := by
    obtain ⟨ht, hsame, n, rfl, rfl, hn⟩ := h
    have ht' := ht.enter hn boundary
    refine twinning_moves ht' ⟨hsame.log, hsame.sink, hsame.polls, ht'.fresh⟩ ?_
    exact Tree.size_scopes_enter _ _ boundary ▸ Nat.le_succ _
  child boundary h := by
    obtain ⟨ht, hsame, n, rfl, rfl, hn⟩ := h
    have ht' := ht.enter hn boundary
    obtain ⟨m, hm₁, hm₂⟩ := ht.size_scopes
    refine ⟨ht', ⟨hsame.log, hsame.sink, hsame.polls, ht'.fresh⟩, m, hm₁, hm₂, ?_⟩
    rw [← hm₁]
    exact Tree.size_scopes_enter _ _ boundary ▸ Nat.lt_succ_self _
  text s h := by
    have hsink := h.2.1.sink
    have hnode := congrArg (fun state => Result.output (cfg.sink.text s state).1) hsink
    refine ⟨hnode, twinning_moves_of_trees h rfl rfl h.2.1.log ?_ h.2.1.polls⟩
    rw [hsink]
  element tag attributes h := by
    have hsink := h.2.1.sink
    have hnode := congrArg (fun state => Result.output (cfg.sink.element tag state).1) hsink
    refine ⟨hnode, twinning_moves_of_trees h rfl rfl h.2.1.log ?_ h.2.1.polls⟩
    rw [hsink]
  flatten h hn hr := by
    -- Results that correspond are equal, and so are their parents.
    have hsink := h.2.1.sink
    cases hn
    cases hr
    refine twinning_moves_of_trees h rfl rfl h.2.1.log ?_ h.2.1.polls
    rw [hsink]

/-- Two calls of a function end alike, and what they hand back is one value. -/
private theorem callUser_alike (cfg : Setting σ) (budget : Nat) (f : UserFunction)
    (args : List Value) (hw₁ : w₁.tree.Reachable) (hw₂ : w₂.tree.Reachable)
    (hsame : w₁.SameButScopes w₂) {e₁ e₂ : Nat} (ho : (Outset.mk w₁.tree w₂.tree e₁ e₂).Level) :
    (callUser cfg budget f e₁ args).EndsAlike (callUser cfg budget f e₂ args)
      (fun out₁ out₂ w₁' w₂' => out₁ = out₂ ∧ w₁'.SameButScopes w₂' ∧
        ∃ v, w₁'.tree.operands e₁ = v :: w₁.tree.operands e₁ ∧
          w₂'.tree.operands e₂ = v :: w₂.tree.operands e₂)
      World.SameButScopes w₁ w₂ := by
  cases budget with
  | zero => exact ⟨rfl, hsame⟩
  | succ budget =>
      -- The runs behind the boundaries, together and each by itself.
      have K := confinement_lawful cfg
      have L := twinning_lawful ho cfg
      have ht := Outset.Twins.enter_outset ho
      have hentered : (w₁.enter e₁ true).SameButScopes (w₂.enter e₂ true) :=
        ⟨hsame.log, hsame.sink, hsame.polls, ht.fresh⟩
      have hagree : (twinning σ ⟨w₁.tree, w₂.tree, e₁, e₂⟩).agree (w₁.enter e₁ true)
          (w₂.enter e₂ true) w₁.tree.scopes.size w₂.tree.scopes.size := by
        refine ⟨ht, hentered, 0, rfl, rfl, ?_⟩
        exact Tree.size_scopes_enter _ _ true ▸ Nat.lt_succ_self _
      have both := L.runFunction (L.evalAll (L.callUser budget) _ _ f.body) args _ _ hagree
      have one := fun child => K.runFunction (K.evalAll (K.callUser budget) child f.body) args
      refine Run.endsAlike_callUser cfg cfg budget f e₁ e₂ args rfl
        (congrArg (· + 1) ho.depth) hentered ?_
      refine (both.and (one _ _) (one _ _)).mono ?_ fun _ _ hmoves => (hmoves _ _ hagree).2.1
      rintro out _ v₁ v₂ ⟨⟨rfl, hmoves⟩, hc₁, hc₂⟩
      -- The stacks behind the boundaries have the same top, and that is handed back.
      have hdone := hmoves _ _ hagree
      rw [L.top hdone]
      exact ⟨rfl, hdone.2.1.handBack _ _ _ _ _ _, _,
        World.Confined.operands_handBack hw₁ ho.lt₁ hc₁ _,
        World.Confined.operands_handBack hw₂ ho.lt₂ hc₂ _⟩

end

/-- **A function cannot tell its callers apart.** Take two states that differ in their
scopes only, and in each a scope of a reachable tree. If the two scopes are at the same
depth and see the same functions, then a function called from one and from the other, with
the same arguments, gives the same result or stops with the same fault. After the calls the
states again differ in their scopes only: the logs are the same and so are the sinks. If the
calls give a result, then both callers have got the same value on top of their operands.
The two scopes may hold any variables and any operands. -/
theorem callUser_noninterference (cfg : Setting σ) (budget : Nat) (f : UserFunction)
    (args : List Value) (w₁ w₂ : World σ) (e₁ e₂ : Nat) (hw₁ : w₁.tree.Reachable)
    (hw₂ : w₂.tree.Reachable) (he₁ : e₁ < w₁.tree.scopes.size)
    (he₂ : e₂ < w₂.tree.scopes.size) (hsame : w₁.SameButScopes w₂)
    (hdepth : (w₁.tree.get? e₁).map (·.depth) = (w₂.tree.get? e₂).map (·.depth))
    (hresolve : ∀ name, w₁.tree.resolve e₁ name = w₂.tree.resolve e₂ name) :
    let after₁ := (callUser cfg budget f e₁ args).run.run w₁
    let after₂ := (callUser cfg budget f e₂ args).run.run w₂
    after₁.1 = after₂.1 ∧ after₁.2.SameButScopes after₂.2 ∧
    ∀ out, after₁.1 = .ok out → ∃ v,
      after₁.2.tree.operands e₁ = v :: w₁.tree.operands e₁ ∧
      after₂.2.tree.operands e₂ = v :: w₂.tree.operands e₂ := by
  intro after₁ after₂
  have hdepth' : ((w₁.tree.get? e₁).getD default).depth
      = ((w₂.tree.get? e₂).getD default).depth := by
    have heq := congrArg (·.getD (default : Frame).depth) hdepth
    simpa only [Option.getD_map] using heq
  have ho : (Outset.mk w₁.tree w₂.tree e₁ e₂).Level :=
    ⟨hw₁.valid, hw₂.valid, he₁, he₂, hdepth', hresolve, hsame.fresh⟩
  rcases (callUser_alike cfg budget f args hw₁ hw₂ hsame ho).cases with
    ⟨out, _, w₁', w₂', h₁, h₂, rfl, hsame', hvalue⟩ | ⟨fault, w₁', w₂', h₁, h₂, hsame'⟩
  · simp only [after₁, after₂, h₁, h₂]
    exact ⟨trivial, hsame', fun _ _ => hvalue⟩
  · simp only [after₁, after₂, h₁, h₂]
    exact ⟨trivial, hsame', fun _ hout => by cases hout⟩

set_option maxRecDepth 4000 in
/-- One caller has a variable and an operand, the other has neither. A function that shows
that variable, and pushes its value, shows and pushes the same for both. -/
theorem callUser_noninterference_variable :
    let f : UserFunction :=
      ⟨"f", [], [.value (some (.var "x")), .call (some (.text "push")) [some (.var "x")]]⟩
    let cfg : Setting Trace := ⟨.trace, 10, false⟩
    let w₁ : World Trace :=
      ⟨((Tree.root [] 0).set 0 "x" (.text "secret")).push 0 (.bool true), #[], default, 0⟩
    let w₂ : World Trace := ⟨Tree.root [] 0, #[], default, 0⟩
    let after₁ := (callUser cfg 11 f 0 []).run.run w₁
    let after₂ := (callUser cfg 11 f 0 []).run.run w₂
    w₁.tree.lookup 0 "x" = some (.text "secret") ∧ w₂.tree.lookup 0 "x" = none ∧
      after₁.1 = after₂.1 ∧ after₁.2.sink.calls = after₂.2.sink.calls ∧
      after₂.2.sink.calls = #[.text 1 "null"] := by
  intro f cfg w₁ w₂ after₁ after₂
  have hset : ((Tree.root [] 0).set 0 "x" (.text "secret")).Reachable :=
    .step (.root [] 0) (.set _ "x" (.text "secret"))
  have hw₁ : w₁.tree.Reachable := .step (i := 0) hset (.push _ (.bool true))
  have hw₂ : w₂.tree.Reachable := .root [] 0
  have hsame : w₁.SameButScopes w₂ := ⟨rfl, rfl, rfl, rfl⟩
  obtain ⟨hout, hafter, -⟩ := callUser_noninterference cfg 11 f [] w₁ w₂ 0 0 hw₁ hw₂
    (by decide) (by decide) hsame rfl (fun name => rfl)
  exact ⟨rfl, rfl, hout, congrArg (·.calls) hafter.sink, rfl⟩

end TagScript
