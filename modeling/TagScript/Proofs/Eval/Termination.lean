import TagScript.Proofs.Eval.Approximation
import TagScript.Proofs.Eval.Policy
import TagScript.Proofs.Scope.Growth

/-!
# `TagScript.Proofs.Eval.Termination`: a depth limit bounds every evaluation

Only a call of a user function leaves the template that is being evaluated. Its body may be
any, and may come back to the function itself. Calls have a budget, and a run whose budget is
used up stops with the fault `exhausted`, which is no part of the language. A run has come to
its end when it stops in any other way, or gives a value. More budget then changes nothing.

Under a depth limit every run comes to its end. A call goes one boundary deeper and has one
unit of the budget less. So if the budget exceeds what is left of the depth, it does so at
every call. The policies `bounded cfg budget`, one for each budget, carry this from call to
call, and with it that every boundary that is added lies within the limit.

* `callBudget_spares`: the budget that evaluations begin with exceeds what is left of the
  depth, so that it is not used up (`render_ne_exhausted`).
* `evaluation_bounded`: an evaluation comes to its end, every function body is evaluated
  within the limit, and a call runs its body exactly if that lies within the limit.
-/

set_option autoImplicit false

namespace TagScript

open Scope

variable {σ α : Type} {cfg : Setting σ} {e : Nat} {w : World σ}

/-- A run that began in `t` has stopped within the limit: either every boundary that it added
lies within, or so does every one but that of the last call, which was refused for that. -/
def Scope.Tree.StopsWithin (limit : Int) (t : Tree) (f : Fault) (t' : Tree) : Prop :=
  ∃ t₁, GrowsWithin limit t t₁ ∧
    (t' = t₁ ∨ ∃ function i, f = .depth function limit ∧
      limit < (t₁.depthOf i + 1 : Nat) ∧ t' = (t₁.enter i true).2)

/-- The budget exceeds what the limit leaves of the depth below a scope. -/
def Setting.Spares (cfg : Setting σ) (t : Tree) (e budget : Nat) : Prop :=
  0 < budget ∧ cfg.limit < (t.depthOf e + budget : Nat)

/-- An evaluation with a budget that exceeds what is left of the depth adds boundaries within
the limit, and never uses up the budget. -/
def bounded (cfg : Setting σ) (budget : Nat) : Policy σ where
  node _ := True
  admits e w := e < w.tree.scopes.size ∧ cfg.Spares w.tree e budget
  yields _ w _ w' := Tree.GrowsWithin cfg.limit w.tree w'.tree
  stops _ w f w' := f ≠ .exhausted ∧ Tree.StopsWithin cfg.limit w.tree f w'.tree

/-- What is within the limit may come before a stop within the limit. -/
theorem Scope.Tree.StopsWithin.after {limit : Int} {t t₁ t' : Tree} {f : Fault}
    (h : t.GrowsWithin limit t₁) (hs : t₁.StopsWithin limit f t') : t.StopsWithin limit f t' := by
  obtain ⟨t₂, hgrows, hlast⟩ := hs
  exact ⟨t₂, h.trans hgrows, hlast⟩

/-- To stop where one is, is to stop within every limit. -/
theorem Scope.Tree.StopsWithin.refl (limit : Int) (t : Tree) (f : Fault) :
    t.StopsWithin limit f t :=
  ⟨t, .refl limit t, Or.inl rfl⟩

/-- The policy is lawful, whatever the limit and the budget. -/
theorem bounded_lawful (cfg : Setting σ) (budget : Nat) : (bounded cfg budget).Lawful cfg where
  children _ _ := trivial
  body _ _ _ := trivial
  admits_after := by
    rintro e w rs w' ⟨he, hpos, hlt⟩ h
    refine ⟨Nat.lt_of_lt_of_le he h.scopes_le, hpos, ?_⟩
    rw [h.depthOf_eq he]
    exact hlt
  refl _ w := .refl cfg.limit w.tree
  append h h' := Tree.GrowsWithin.trans h h'
  stop h hs := ⟨hs.1, hs.2.after h⟩
  raise _ h := by
    refine ⟨?_, .refl _ _ _⟩
    rintro rfl
    -- Its form tells every other fault that is raised from that of a used up budget.
    cases h with
    | range args h =>
        obtain ⟨low, high, hf, -⟩ := Native.rangeItems_eq_error h
        cases hf
  canceled _ _ := ⟨by simp, .refl _ _ _⟩
  discard h := h
  none h := h
  scalar _ h := h
  list h := h
  note _ w _ := .refl cfg.limit w.tree
  poll _ w := .refl cfg.limit w.tree
  change h := .of_step h.step
  text _ w _ := .refl cfg.limit w.tree
  admits_element _ _ h := h
  element _ _ h := h
  element_stop _ _ h := h
  admits_enter := by
    rintro e w ⟨-, hpos, hlt⟩
    refine ⟨?_, hpos, ?_⟩
    · exact Tree.size_scopes_enter w.tree e false ▸ Nat.lt_succ_self _
    · show cfg.limit < ((w.tree.enter e false).2.depthOf w.tree.scopes.size + budget : Nat)
      -- The new scope is as deep as the one around it, so there is as much of the depth left.
      rw [Tree.depthOf_enter_self]
      exact hlt
  enter h := (Tree.GrowsWithin.enter _ _ false (by simp)).trans h
  enter_stop h := ⟨h.1, h.2.after (.enter _ _ false (by simp))⟩

/-- The budget of a body is smaller by one, and its scope is deeper by one. -/
theorem bounded_calls (hlimit : 0 < cfg.limit) (budget : Nat) :
    (bounded cfg (budget + 1)).Calls (bounded cfg budget) cfg := by
  -- A boundary that is not refused lies within the limit.
  have within : ∀ {t : Tree} {e : Nat}, ¬ cfg.Refuses t e →
      t.GrowsWithin cfg.limit (t.enter e true).2 := by
    intro t e hfits
    refine .enter t e true fun _ => Int.not_lt.mp fun hlt => hfits ⟨hlimit, hlt⟩
  refine ⟨fun h => h, ?_, ?_, ?_, ?_⟩
  · intro e w function _ hrefuses
    exact ⟨by simp, w.tree, .refl _ _, Or.inr ⟨function, e, rfl, hrefuses.2, rfl⟩⟩
  · rintro e w ⟨-, -, hlt⟩ hfits
    have hdepth : (w.enter e true).tree.depthOf w.tree.scopes.size = w.tree.depthOf e + 1 :=
      Tree.depthOf_enter_self w.tree e true
    have hfits' : ¬ cfg.limit < (w.tree.depthOf e + 1 : Nat) := fun h => hfits ⟨hlimit, h⟩
    refine ⟨?_, ?_, ?_⟩
    · exact Tree.size_scopes_enter w.tree e true ▸ Nat.lt_succ_self _
    · omega
    · rw [hdepth]
      omega
  · intro e w rs w' v _ hfits h
    refine ((within hfits).trans h).trans ?_
    exact (Tree.GrowsWithin.of_step (.drop _)).trans (.of_step (.push _ v))
  · intro e w f w' _ hfits h
    exact ⟨h.1, h.2.after (within hfits)⟩

/-- Every call keeps within the limit, with a budget that exceeds what is left of the depth. -/
theorem callUser_bounded (hlimit : 0 < cfg.limit) (budget : Nat) (f : UserFunction) (e : Nat)
    (args : List Value) :
    (bounded cfg budget).Keeps e (fun r => [r]) (callUser cfg budget f e args) :=
  Policy.callUser (bounded_lawful cfg) (bounded_calls hlimit)
    (fun _ _ h => absurd h.2.1 (Nat.lt_irrefl 0)) budget f e args fun _ _ => trivial

/-- The budget that evaluations begin with exceeds what is left of the depth below any
scope. -/
theorem callBudget_spares (hlimit : 0 < cfg.limit) (t : Tree) (e : Nat) :
    cfg.Spares t e (callBudget cfg.limit) := by
  rw [callBudget, if_pos hlimit]
  exact ⟨Nat.succ_pos _, by omega⟩

/-! ### The budget does not matter -/

/-- A computation that keeps within the limit does not stop for want of budget. -/
private theorem not_exhausted {budget : Nat} {results : α → List Result} {m : Run σ α}
    (h : (bounded cfg budget).Keeps e results m) (he : e < w.tree.scopes.size)
    (hspares : cfg.Spares w.tree e budget) (f : Fault) (hf : f = .exhausted) :
    (m.run.run w).1 ≠ .error f := by
  intro heq
  have hm : m.run.run w = (.error f, (m.run.run w).2) := Prod.ext heq rfl
  exact ((h w ⟨he, hspares⟩).of_error hm).1 hf

/-- A rendering under a limit does not stop for want of budget. -/
theorem render_ne_exhausted (hlimit : 0 < cfg.limit) (he : e < w.tree.scopes.size)
    (parent : NodeRef) (nodes : List Node) :
    ((render cfg e parent nodes).run.run w).1 ≠ .error .exhausted := by
  have hkeeps := (bounded_lawful cfg _).render
    (fun f e args _ => callUser_bounded hlimit (callBudget cfg.limit) f e args)
    (fun _ h => h) e parent nodes fun _ _ => trivial
  exact not_exhausted hkeeps he (callBudget_spares hlimit w.tree e) _ rfl

/-- Two budgets that both exceed what is left of the depth give the same evaluation. -/
theorem evalAll_budget (hlimit : 0 < cfg.limit) (nodes : List Node) {budget budget' : Nat}
    (he : e < w.tree.scopes.size) (h : cfg.Spares w.tree e budget)
    (h' : cfg.Spares w.tree e budget') :
    (evalAll cfg (callUser cfg budget) e nodes).run.run w
      = (evalAll cfg (callUser cfg budget') e nodes).run.run w := by
  have of_le : ∀ {b b' : Nat}, b ≤ b' → cfg.Spares w.tree e b →
      (evalAll cfg (callUser cfg b) e nodes).run.run w
        = (evalAll cfg (callUser cfg b') e nodes).run.run w := by
    intro b b' hle hb
    have happrox := evalAll_approximates cfg cfg.limit (callUser_approximates_of_le cfg hle)
      e nodes
    have hkeeps := (bounded_lawful cfg b).evalAll
      (fun f e args _ => callUser_bounded hlimit b f e args) e nodes fun _ _ => trivial
    exact happrox.run_eq (not_exhausted hkeeps he hb)
  rcases Nat.le_total budget budget' with hle | hle
  · exact of_le hle h
  · exact (of_le hle h').symm

/-- The same for the run of a function. -/
private theorem runFunction_budget (hlimit : 0 < cfg.limit) (f : UserFunction)
    (args : List Value) {budget budget' : Nat} (hle : budget ≤ budget')
    (he : e < w.tree.scopes.size) (h : cfg.Spares w.tree e budget) :
    (runFunction cfg (callUser cfg budget) e f args).run.run w
      = (runFunction cfg (callUser cfg budget') e f args).run.run w := by
  have L := bounded_lawful cfg budget
  have hbody := L.evalAll (fun f e args _ => callUser_bounded hlimit budget f e args) e f.body
    fun _ _ => trivial
  have happrox := runFunction_approximates cfg cfg.limit (callUser_approximates_of_le cfg hle)
    e f args
  exact happrox.run_eq (not_exhausted (L.runFunction hbody args) he h)

/-- A call that lies within the limit runs the function's body behind a boundary, and the
calls in it have the same meaning as the call itself: under a limit the budget is not seen. -/
theorem run_callUser_within (hlimit : 0 < cfg.limit)
    (hfits : (w.tree.depthOf e + 1 : Nat) ≤ cfg.limit) (f : UserFunction) (args : List Value) :
    (callUser cfg (callBudget cfg.limit) f e args).run.run w
      = (do
          let out ← runFunction cfg (callUser cfg (callBudget cfg.limit)) w.tree.scopes.size f args
          handBack w.tree.scopes.size e
          return out : Run σ Result).run.run (w.enter e true) := by
  have hbudget : callBudget cfg.limit = cfg.limit.toNat + 1 := by rw [callBudget, if_pos hlimit]
  have hchild : w.tree.scopes.size < (w.enter e true).tree.scopes.size :=
    Tree.size_scopes_enter w.tree e true ▸ Nat.lt_succ_self _
  -- The body is one deeper, so one unit less of the budget is enough for it.
  have hspares : cfg.Spares (w.enter e true).tree w.tree.scopes.size cfg.limit.toNat :=
    ⟨by omega, by
      rw [show (w.enter e true).tree.depthOf w.tree.scopes.size = w.tree.depthOf e + 1 from
        Tree.depthOf_enter_self w.tree e true]
      omega⟩
  have hrun := runFunction_budget hlimit f args (Nat.le_succ cfg.limit.toNat) hchild hspares
  have hdeep : ¬ (0 < cfg.limit ∧ cfg.limit < Run.calleeDepth w.tree e) := by
    rintro ⟨-, hlt⟩
    exact absurd hfits (Int.not_le.mpr hlt)
  rw [hbudget, Run.run_callUser, if_neg hdeep, Run.run_bind, Run.run_bind, hrun]

/-- A call that would go beyond the limit is refused. It has entered a scope and does nothing
in it. -/
theorem run_callUser_beyond (hlimit : 0 < cfg.limit)
    (hdeep : cfg.limit < (w.tree.depthOf e + 1 : Nat)) (f : UserFunction) (args : List Value) :
    (callUser cfg (callBudget cfg.limit) f e args).run.run w
      = (.error (.depth f.name cfg.limit), w.enter e true) := by
  rw [callBudget, if_pos hlimit, Run.run_callUser]
  exact if_pos ⟨hlimit, hdeep⟩

/-- A run that is not cancelled runs a function by binding its parameters and evaluating its
body. -/
private theorem run_runFunction_live {caller : Caller σ}
    (hlive : cfg.canceled.isCanceledAt w.polls = false) (f : UserFunction) (args : List Value)
    (k : Result → Run σ α) :
    (do let out ← runFunction cfg caller e f args; k out : Run σ α).run.run w
      = (do
          bindParams e f.params args
          let out ← evalBody cfg caller e f.body
          k out : Run σ α).run.run { w with polls := w.polls + 1 } := by
  rw [runFunction]
  simp only [bind_assoc]
  rw [Run.run_bind, Run.run_checkCanceled, hlive]
  rfl

/-- **A depth limit bounds every evaluation.** Take any state, a scope in it, and a limit of
at least one. The functions that the scopes hold may be any, and may call each other without
end.

An evaluation of any nodes comes to its end: it gives a value or stops with a fault of the
language, and a budget of calls that exceeds what is left of the depth does not matter to it.
Every boundary that it has added, and so every scope in which a function body was evaluated,
lies within the limit. If the last call would have gone deeper, then its boundary is there
too, as it was entered, and the evaluation has stopped for that reason.

A call that would go deeper than the limit stops so without a look at the body. Any other
call in a run that is not cancelled evaluates the body, in a scope that is one deeper than the
calling one, and hands its value back. -/
theorem evaluation_bounded (cfg : Setting σ) (hlimit : 1 ≤ cfg.limit) (w : World σ) (e : Nat)
    (he : e < w.tree.scopes.size) :
    (∀ (nodes : List Node) (budget : Nat), cfg.Spares w.tree e budget →
      (evalAll cfg (callUser cfg budget) e nodes).run.run w
        = (evalAll cfg (callUser cfg (callBudget cfg.limit)) e nodes).run.run w ∧
      (evalAll cfg (callUser cfg budget) e nodes).Ends
        (fun _ w' => w.tree.GrowsWithin cfg.limit w'.tree)
        (fun f w' => f ≠ .exhausted ∧ w.tree.StopsWithin cfg.limit f w'.tree) w) ∧
    cfg.Spares w.tree e (callBudget cfg.limit) ∧
    ∀ (f : UserFunction) (args : List Value),
      let caller := callUser cfg (callBudget cfg.limit)
      let child := w.tree.scopes.size
      let entered := w.enter e true
      (cfg.limit < (w.tree.depthOf e + 1 : Nat) →
        (caller f e args).run.run w = (.error (.depth f.name cfg.limit), entered)) ∧
      ((w.tree.depthOf e + 1 : Nat) ≤ cfg.limit →
        cfg.canceled.isCanceledAt w.polls = false →
        entered.tree.depthOf child = w.tree.depthOf e + 1 ∧
        (caller f e args).run.run w
          = (do
              bindParams child f.params args
              let out ← evalBody cfg caller child f.body
              handBack child e
              return out : Run σ Result).run.run { entered with polls := w.polls + 1 }) := by
  have hpos : 0 < cfg.limit := hlimit
  refine ⟨fun nodes budget hspares => ⟨?_, ?_⟩, callBudget_spares hpos w.tree e, ?_⟩
  · exact evalAll_budget hpos nodes he hspares (callBudget_spares hpos w.tree e)
  · exact (bounded_lawful cfg budget).evalAll
      (fun f e args _ => callUser_bounded hpos budget f e args) e nodes (fun _ _ => trivial) w
      ⟨he, hspares⟩
  · intro f args caller child entered
    -- Either way the boundary is entered first. A call that goes too deep stops with it there.
    refine ⟨fun hdeep => run_callUser_beyond hpos hdeep f args, fun hfits hlive => ⟨?_, ?_⟩⟩
    · exact Tree.depthOf_enter_self w.tree e true
    · rw [run_callUser_within hpos hfits]
      exact run_runFunction_live (w := entered) hlive f args _

set_option maxRecDepth 4000 in
/-- A function that only calls itself, under a limit of two. Its body is evaluated twice, one
and two deep. The third call is refused, and it makes no difference that the budget is more
than the limit asks for. -/
theorem evaluation_bounded_recursion :
    let self : Node := .call (some (.text "f")) []
    let cfg : Setting Unit := ⟨.discard, 2, false⟩
    let w : World Unit :=
      ⟨(Tree.root [] 0).define 0 "f" (.user ⟨"f", [], [self]⟩), #[], (), 0⟩
    let after (budget : Nat) := (evalAll cfg (callUser cfg budget) 0 [self]).run.run w
    1 ≤ cfg.limit ∧ 0 < w.tree.scopes.size ∧ cfg.Spares w.tree 0 10 ∧
      after 10 = after (callBudget 2) ∧ (after 10).1 = .error (.depth "f" 2) ∧
      w.tree.StopsWithin 2 (.depth "f" 2) (after 10).2.tree ∧
      (after 10).2.tree.scopes.toList.map (·.depth) = [0, 1, 2, 3] := by
  intro self cfg w after
  have hlimit : 1 ≤ cfg.limit := by decide
  have hroot : 0 < w.tree.scopes.size := by decide
  have hspares : cfg.Spares w.tree 0 10 := ⟨by decide, by decide⟩
  obtain ⟨hevaluation, -⟩ := evaluation_bounded cfg hlimit w 0 hroot
  obtain ⟨hbudget, hends⟩ := hevaluation [self] 10 hspares
  obtain ⟨w', hafter, hdepths⟩ : ∃ w', after 10 = (.error (.depth "f" 2), w') ∧
      w'.tree.scopes.toList.map (·.depth) = [0, 1, 2, 3] := ⟨_, rfl, by decide +kernel⟩
  have hstops := (hends.of_error hafter).2
  refine ⟨hlimit, hroot, hspares, hbudget, ?_⟩
  rw [hafter]
  exact ⟨rfl, hstops, hdepths⟩

end TagScript
