import TagScript.Markup.Forest
import TagScript.Proofs.Eval.Recording
import TagScript.Proofs.Eval.Termination

/-!
# `TagScript.Proofs.Eval.DepthGuard`: a depth limit that is not hit is not seen

A rendering under a limit and the same rendering under a looser one go alike up to the first
call that the stricter limit refuses (`render_approximates`). That call stops the rendering,
since no fault is ever caught. So a rendering that did not stop for this reason was not
touched by its limit, and no looser limit changes anything about it: not its outcome, not the
requests to the sink, not the log and not the scopes.

* `render_transparent`: the two renderings as runs are equal.
* `render_limit_transparent`: the same, with the requests to the sink.
-/

set_option autoImplicit false

namespace TagScript

open Markup Scope

variable {σ : Type}

/-- Whether a rendering ended in another way than that a call would have gone too deep. -/
def notTooDeep : Except Fault Unit → Bool
  | .ok _ => true
  | .error f => !f.toFailure.isA (.known .maxDepthExceeded)

/-- The limit `limit'` allows whatever `limit` does: it is no smaller, or there is none. Limits
are integers of 64 bits. -/
def LooserLimit (limit limit' : Int) : Prop :=
  limit ≤ limit' ∨ limit' ≤ 0 ∧ limit ≤ maxLimit

/-- A looser limit comes with a budget of calls that is no smaller. -/
theorem LooserLimit.callBudget_le {limit limit' : Int} (hpos : 0 < limit)
    (h : LooserLimit limit limit') : callBudget limit ≤ callBudget limit' := by
  unfold LooserLimit at h
  unfold callBudget
  rw [if_pos hpos]
  split <;> omega

/-- A rendering that did not go too deep goes the same way under a looser limit. -/
theorem render_transparent {cfg : Setting σ} {limit : Int} {e : Nat} {parent : NodeRef}
    {nodes : List Node} {w : World σ} (hpos : 0 < cfg.limit)
    (hloose : LooserLimit cfg.limit limit) (he : e < w.tree.scopes.size)
    (hfine : notTooDeep ((render cfg e parent nodes).run.run w).1 = true) :
    (render (cfg.withLimit limit) e parent nodes).run.run w
      = (render cfg e parent nodes).run.run w := by
  -- The stricter rendering may give up where a call is too deep for it.
  let gaveUp (f : Fault) : Prop := f = .exhausted ∨ ∃ function, f = .depth function cfg.limit
  have hlimit : cfg.Looser gaveUp limit :=
    Or.inr ⟨hpos, hloose.imp id And.left, fun function => Or.inr ⟨function, rfl⟩⟩
  have happrox := @render_approximates σ gaveUp cfg limit (Or.inl rfl) hlimit
    (hloose.callBudget_le hpos) e parent nodes
  refine (happrox.run_eq ?_).symm
  rintro f (rfl | ⟨function, rfl⟩) hstopped
  · exact render_ne_exhausted hpos he parent nodes hstopped
  · rw [hstopped] at hfine
    cases hfine

/-- **A depth limit that is not hit is not seen.** Take a rendering of any nodes, in any scope
of any state and with any sink, under a limit. If it does not fail because a call would have
gone too deep, then under every looser limit, and under none, it has the same outcome, success
or the same fault, and leaves the same state: the sink, the log, and the scopes with their
variables, functions and operand stacks. The requests to the sink are the same too. -/
theorem render_limit_transparent (cfg : Setting σ) (limit : Int) (e : Nat) (parent : NodeRef)
    (nodes : List Node) (w : World σ) (hpos : 0 < cfg.limit)
    (hloose : LooserLimit cfg.limit limit) (he : e < w.tree.scopes.size)
    (hfine : notTooDeep ((render cfg e parent nodes).run.run w).1 = true) :
    (render (cfg.withLimit limit) e parent nodes).run.run w
      = (render cfg e parent nodes).run.run w ∧
    renderCalls (cfg.withLimit limit) e parent nodes w = renderCalls cfg e parent nodes w := by
  refine ⟨render_transparent hpos hloose he hfine, ?_⟩
  -- The rendering with a sink that records has the same outcome, so it did not go too deep.
  have hrecorded := (render_recorded cfg e parent nodes w).1
  rw [hrecorded] at hfine
  exact congrArg (·.2.sink.2) (@render_transparent _ cfg.recorded limit e parent nodes w.recorded
    hpos hloose he hfine)

/-- A function that puts out a text is called once, and under a limit of one that is not too
deep. So without a limit the rendering succeeds as well, and the sink is asked for the same. -/
theorem render_limit_transparent_call :
    let nodes : List Node :=
      [.define (some (.text "f")) [] [.value (some (.text "x"))], .call (some (.text "f")) []]
    let w : World Forest := ⟨Tree.root [] 0, #[], (Forest.empty.create .fragment).2, 0⟩
    let cfg : Setting Forest := ⟨.html, 1, false⟩
    0 < cfg.limit ∧ LooserLimit cfg.limit 0 ∧ 0 < w.tree.scopes.size ∧
      notTooDeep ((render cfg 0 (some 0) nodes).run.run w).1 = true ∧
      ((render (cfg.withLimit 0) 0 (some 0) nodes).run.run w).1.toOption = some () ∧
      renderCalls (cfg.withLimit 0) 0 (some 0) nodes w
        = [.text (some 1) "x", .append (some 0) (some 1)] := by
  intro nodes w cfg
  have hpos : 0 < cfg.limit := by decide
  have hloose : LooserLimit cfg.limit 0 := Or.inr ⟨by decide, by decide⟩
  have hroot : 0 < w.tree.scopes.size := by decide
  have hfine : notTooDeep ((render cfg 0 (some 0) nodes).run.run w).1 = true := by
    decide +kernel
  obtain ⟨hrun, hcalls⟩ := render_limit_transparent cfg 0 0 (some 0) nodes w hpos hloose hroot hfine
  refine ⟨hpos, hloose, hroot, hfine, ?_, ?_⟩
  · rw [hrun]
    decide +kernel
  · rw [hcalls]
    decide +kernel

end TagScript
