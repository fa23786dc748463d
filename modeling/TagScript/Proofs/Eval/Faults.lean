import TagScript.Markup.Render
import TagScript.Proofs.Eval.Termination
import TagScript.Proofs.Markup.Source
import TagScript.Proofs.Scope.Functions
import TagScript.Proofs.Scope.Operands

/-!
# `TagScript.Proofs.Eval.Faults`: for which reasons a rendering stops

A rendering stops at the first fault. `Fault.Due` lists the faults with which it may stop in a
state, each with what the state shows of its reason: an operand stack that is empty, a scope
that is deeper than the limit, a range that is too long, or a run that was told that it is
cancelled. That a node has no meaning is not among them.

The policy `accounted` is about known nodes in a tree that holds functions with known bodies
only. Its evaluations keep the tree so, and stop with faults that are due. A template that is
read from markup is known, and a new tree holds no functions of templates at all. So it is the
policy of every rendering of such a template (`render_accounted`).

What a template may lack is no reason to stop: a function or a variable that is not there, an
argument that is not given, a sequence that is none. `Forgives` lists what happens instead.
-/

set_option autoImplicit false

namespace TagScript

open Log Markup Scope

variable {σ : Type} {cfg : Setting σ} {e : Nat} {w w' : World σ}

/-- Every function of a template that the tree holds has a known body. -/
def Scope.Tree.HoldsKnown (t : Tree) : Prop :=
  t.Holds fun f => ∀ n ∈ f.body, n.known = true

/-- The faults with which a run may have stopped in a state. -/
inductive Fault.Due (cfg : Setting σ) (w : World σ) : Fault → Prop where
  | underflow (function : String) {i : Nat} (hi : i < w.tree.scopes.size)
      (h : w.tree.top? i = none) : Due cfg w (.underflow function)
  | arity (function : String) (n : Nat) {i : Nat} (hi : i < w.tree.scopes.size)
      (h : w.tree.top? i = none) : Due cfg w (.underflowArity function n)
  | depth (function : String) {i : Nat} (hi : i < w.tree.scopes.size) (hpos : 0 < cfg.limit)
      (h : cfg.limit < w.tree.depthOf i) : Due cfg w (.depth function cfg.limit)
  | range {low high : Float} (h : ceiling (high - low) > Float.ofNat maxRange) :
      Due cfg w (.rangeLimit low high maxRange)
  | canceled {k : Nat} (hk : k < w.polls) (h : cfg.canceled.isCanceledAt k = true) :
      Due cfg w .canceled

/-- Evaluations of known nodes. Without a depth limit the budget of calls may be used up. -/
def accounted (cfg : Setting σ) : Policy σ where
  node n := n.known = true
  admits e w := e < w.tree.scopes.size ∧ w.tree.HoldsKnown
  yields _ w _ w' := w.tree.scopes.size ≤ w'.tree.scopes.size ∧
    (w.tree.HoldsKnown → w'.tree.HoldsKnown)
  stops _ _ f w' := f = .exhausted ∨ f.Due cfg w'

/-- An evaluation that meets known nodes only defines known functions. -/
private theorem holdsKnown_edit {t t' : Tree}
    (h : Tree.Edit (fun n => n.known = true) e t t') (ht : t.HoldsKnown) : t'.HoldsKnown := by
  cases h with
  | set name v => exact Tree.Holds.set ht name v
  | define name params body hbody => exact Tree.Holds.define ht name hbody
  | push v => exact Tree.Holds.push ht v
  | drop => exact Tree.Holds.drop ht
  | renew => exact ht

/-- What an evaluation that meets known nodes only raises is due. -/
private theorem due_of_raises {f : Fault} (he : e < w.tree.scopes.size)
    (h : Raises (fun n => n.known = true) w.tree e f) : f.Due cfg w := by
  cases h with
  | underflow function h => exact .underflow function he h
  | arity function n h => exact .arity function n he h
  | range args h =>
      obtain ⟨low, high, rfl, hlong⟩ := Native.rangeItems_eq_error h
      exact .range hlong
  -- A node without meaning is not known, so it is not met.
  | foreign type h => cases h
  | missing h => cases h

/-- The policy is lawful: a known node has known nodes below it, and a fault is due when it is
raised. -/
theorem accounted_lawful (cfg : Setting σ) : (accounted cfg).Lawful cfg where
  children h hc := Node.known_of_mem_children h hc
  body hw hf hn := hw.2.resolve hf _ hn
  admits_after hw h := ⟨Nat.lt_of_lt_of_le hw.1 h.1, h.2 hw.2⟩
  refl _ _ := ⟨Nat.le_refl _, id⟩
  append h h' := ⟨Nat.le_trans h.1 h'.1, h'.2 ∘ h.2⟩
  stop _ hs := hs
  raise hw h := Or.inr (due_of_raises hw.1 h)
  canceled _ h := Or.inr (.canceled (Nat.lt_succ_self _) h)
  discard h := h
  none h := h
  scalar _ h := h
  list h := h
  note _ _ _ := ⟨Nat.le_refl _, id⟩
  poll _ _ := ⟨Nat.le_refl _, id⟩
  change h := ⟨Nat.le_of_eq h.step.size_scopes.symm, holdsKnown_edit h⟩
  text _ _ _ := ⟨Nat.le_refl _, id⟩
  admits_element _ _ h := h
  element _ _ h := h
  element_stop _ _ h := h
  admits_enter hw :=
    ⟨Tree.size_scopes_enter _ _ false ▸ Nat.lt_succ_self _, Tree.Holds.enter hw.2 false⟩
  enter h := by
    refine ⟨Nat.le_trans ?_ h.1, fun ht => h.2 (Tree.Holds.enter ht false)⟩
    exact Tree.size_scopes_enter _ _ false ▸ Nat.le_succ _
  enter_stop h := h

/-- It is the policy of the bodies of functions as well. -/
theorem accounted_calls (cfg : Setting σ) : (accounted cfg).Calls (accounted cfg) cfg where
  node h := h
  refuse {e w} function _ hrefuses := by
    have hnew : w.tree.scopes.size < (w.enter e true).tree.scopes.size :=
      Tree.size_scopes_enter w.tree e true ▸ Nat.lt_succ_self _
    -- The refused call has entered its scope, which shows how deep it would have gone.
    refine Or.inr (.depth function hnew hrefuses.1 ?_)
    show cfg.limit < ((w.tree.enter e true).2.depthOf w.tree.scopes.size : Nat)
    rw [Tree.depthOf_enter_self]
    exact hrefuses.2
  admits_boundary hw _ :=
    ⟨Tree.size_scopes_enter _ _ true ▸ Nat.lt_succ_self _, Tree.Holds.enter hw.2 true⟩
  boundary {e w rs w'} v _ _ h := by
    refine ⟨?_, fun ht => Tree.Holds.push (Tree.Holds.drop (h.2 (Tree.Holds.enter ht true))) v⟩
    show w.tree.scopes.size ≤ ((w'.tree.drop w.tree.scopes.size).push e v).scopes.size
    rw [Tree.scopes_push, Tree.scopes_drop]
    exact Nat.le_trans (Tree.size_scopes_enter w.tree e true ▸ Nat.le_succ _) h.1
  boundary_stop _ _ h := h

/-- A rendering of known nodes stops with a fault that is due, or for want of budget. -/
theorem render_accounted (cfg : Setting σ) (e : Nat) (parent : NodeRef) {nodes : List Node}
    (hnodes : ∀ n ∈ nodes, n.known = true) :
    (accounted cfg).Keeps e (fun _ => []) (render cfg e parent nodes) :=
  (accounted_lawful cfg).render
    (Policy.callUser (fun _ => accounted_lawful cfg) (fun _ => accounted_calls cfg)
      (fun _ _ _ => Or.inl rfl) _)
    (fun _ h => h) e parent nodes hnodes

/-! ### The errors behind the faults -/

/-- The error behind a fault is the given known error, and no other one. -/
def Fault.IsOnly (f : Fault) (s : Sentinel) : Prop :=
  ∀ s', f.toFailure.isA (.known s') = decide (s' = s)

/-- A fault that is due has one of three errors behind it, unless the run was cancelled. -/
theorem Fault.Due.classified {f : Fault} (h : f.Due cfg w) :
    (∃ s ∈ [Sentinel.stackUnderflow, .maxDepthExceeded, .rangeLimit], f.IsOnly s) ∨
    f.toFailure = .known .canceled ∧ ∃ k < w.polls, cfg.canceled.isCanceledAt k = true := by
  cases h with
  | underflow function hi h =>
      refine Or.inl ⟨.stackUnderflow, by simp, fun s' => ?_⟩
      cases s' <;> rfl
  | arity function n hi h =>
      refine Or.inl ⟨.stackUnderflow, by simp, fun s' => ?_⟩
      cases s' <;> rfl
  | depth function hi hpos h =>
      refine Or.inl ⟨.maxDepthExceeded, by simp, fun s' => ?_⟩
      cases s' <;> rfl
  | range h =>
      refine Or.inl ⟨.rangeLimit, by simp, fun s' => ?_⟩
      cases s' <;> rfl
  | canceled hk h => exact Or.inr ⟨rfl, _, hk, h⟩

/-! ### What a template may lack -/

/-- How many operands an operation looks for on the stack, as operands of its own or as the
value that it takes. -/
def Native.operandCount : Native → Nat
  | .pop | .set => 1
  | n => n.arity

/-- In a state where there is an operand it is taken. -/
private theorem ends_pop_of_operand {Q : Value → World σ → Prop} {fault : Fault}
    (h : 0 < (w.tree.operands e).length)
    (hQ : ∀ v, Q v { w with tree := w.tree.drop e }) :
    (Run.pop e fault : Run σ Value).Ends Q (fun _ _ => False) w := by
  refine Run.ends_pop e fault (fun v _ => hQ v) fun hempty => ?_
  have hnil := List.head?_eq_none_iff.mp hempty
  rw [hnil] at h
  exact Nat.lt_irrefl 0 h

/-- With enough operands no operation stops because its arguments are missing. -/
theorem Native.ends_invoke_of_missing (n : Native) {args : List Value}
    (hoperands : n.operandCount ≤ (w.tree.operands e).length) (hargs : args.length < 2) :
    (n.invoke e args).Ends (fun _ _ => True) (fun _ _ => False) w := by
  -- What is left after one operand has been taken.
  have hlast : ∀ {m : Nat}, m + 1 ≤ (w.tree.operands e).length →
      m ≤ ((w.tree.drop e).operands e).length := by
    intro m hm
    rw [Tree.operands_drop, List.length_tail]
    omega
  have binary : ∀ (name : String) (f : Value → Value → Value),
      2 ≤ (w.tree.operands e).length → (do
        let b ← Run.pop e (.underflowArity name 2)
        let a ← Run.pop e (.underflowArity name 2)
        Run.push e (f a b)
        return .none : Run σ Result).Ends (fun _ _ => True) (fun _ _ => False) w := by
    intro name f htwo
    rw [Run.ends_bind]
    refine ends_pop_of_operand (by omega) fun b => ?_
    rw [Run.ends_bind]
    exact ends_pop_of_operand (hlast htwo) fun a => trivial
  cases n with
  | push => exact trivial
  | pop =>
      unfold Native.invoke
      rw [Run.ends_bind]
      refine ends_pop_of_operand hoperands fun v => ?_
      cases v <;> exact trivial
  | set =>
      unfold Native.invoke
      rw [Run.ends_bind]
      exact ends_pop_of_operand hoperands fun v => trivial
  | range =>
      unfold Native.invoke
      match args, hargs with
      | [], _ => exact trivial
      | [a], _ => exact trivial
  | add | sub | mul | div | rem | eq | ne | lt | le | gt | ge | and | or =>
      exact binary _ _ hoperands

/-- What a template may lack. In no case does the evaluation stop for it. -/
structure Forgives (cfg : Setting σ) (caller : Caller σ) (e : Nat) (w : World σ) : Prop where
  /-- A call of a function that is not there is logged, and leaves nothing. -/
  unresolved : ∀ function args,
    w.tree.resolve e (w.tree.valueOf e function).toText = none →
    (evalNode cfg caller e (.call function args)).Ends
      (fun r w' => r = .none ∧
        w' = { w with
          log := w.log.push (.at .warn "function not found"
            [("name", .text (w.tree.valueOf e function).toText)]) })
      (fun _ _ => False) w
  /-- A variable that is not there is null. -/
  unbound : ∀ name, w.tree.lookup e name = none →
    (Run.literal e (some (.var name)) : Run σ Value).Ends (fun v w' => v = .null ∧ w' = w)
      (fun _ _ => False) w
  /-- A loop over what is no sequence is logged, and leaves nothing. -/
  notIterable : ∀ name sequence body,
    (w.tree.valueOf e sequence).elements? = none →
    (evalNode cfg caller e (.forEach name sequence body)).Ends
      (fun r w' => r = .none ∧
        w' = { w with
          log := w.log.push (.at .warn "value is not iterable"
            [("name", .text (w.tree.valueOf e name).toText),
              ("type", .text (w.tree.valueOf e sequence).typeName)]) })
      (fun _ _ => False) w
  /-- Parameters without an argument stay unbound. -/
  params : ∀ params args,
    (bindParams e params args : Run σ Unit).Ends
      (fun _ w' => w' = { w with
        tree := (params.zip args).foldl (fun t p => t.set e p.1 p.2) w.tree })
      (fun _ _ => False) w
  /-- An operation does without its arguments. -/
  args : ∀ (n : Native) (args : List Value), n.operandCount ≤ (w.tree.operands e).length →
    args.length < 2 → (n.invoke e args).Ends (fun _ _ => True) (fun _ _ => False) w

/-- Parameters are bound as long as there are arguments. -/
private theorem ends_bindParams (params : List String) (args : List Value) :
    (bindParams e params args : Run σ Unit).Ends
      (fun _ w' => w' = { w with
        tree := (params.zip args).foldl (fun t p => t.set e p.1 p.2) w.tree })
      (fun _ _ => False) w := by
  induction params generalizing args w with
  | nil => rfl
  | cons param params ih =>
      cases args with
      | nil => rfl
      | cons arg args =>
          rw [bindParams, Run.ends_bind]
          exact ih args

/-- Every state forgives. -/
theorem forgives (cfg : Setting σ) (caller : Caller σ) (e : Nat) (w : World σ) :
    Forgives cfg caller e w where
  unresolved function args h := by
    simp only [evalNode, evalCall, Run.ends_bind, Run.ends_literal, Run.ends_get, h,
      Run.ends_note, Run.ends_pure, and_self]
  unbound name h := by
    rw [Run.ends_literal, Tree.valueOf, Tree.literalValue, h]
    exact ⟨rfl, rfl⟩
  notIterable name sequence body h := by
    simp only [evalNode, Run.ends_bind, Run.ends_literal, h, Run.ends_note, Run.ends_pure,
      and_self]
  params params args := ends_bindParams params args
  args n _ hoperands hargs := n.ends_invoke_of_missing hoperands hargs

/-- **The errors of a rendering.** Take a template that was read from any trees of markup, any
globals, any sink, and a depth limit under which the rendering comes to its end; with a limit
above zero it always does. The rendering succeeds, or it stops with a fault that is due. The
error is then exactly one of three, stack underflow, too deep a call or too long a range, or
the run was told that it is cancelled, and the error is that of the cancellation. What the
template lacks is no reason to stop, in any scope and state. -/
theorem render_faults (cfg : Setting σ) (trees : List Html) (nodes : List Node)
    (hnodes : Source.ofTrees trees = .ok nodes) (globals : List (String × Value)) (fresh : Nat)
    (s : σ) (parent : NodeRef)
    (hterm : cfg.limit ≤ 0 →
      ((render cfg 0 parent nodes).run.run (World.initial globals fresh s)).1
        ≠ .error .exhausted) :
    (render cfg 0 parent nodes).Ends (fun _ _ => True)
      (fun f w' => f.Due cfg w' ∧
        ((∃ s ∈ [Sentinel.stackUnderflow, .maxDepthExceeded, .rangeLimit], f.IsOnly s) ∨
          f.toFailure = .known .canceled ∧
            ∃ k < w'.polls, cfg.canceled.isCanceledAt k = true))
      (World.initial globals fresh s) ∧
    ∀ (caller : Caller σ) (e : Nat) (w : World σ), Forgives cfg caller e w := by
  refine ⟨?_, fun caller e w => forgives cfg caller e w⟩
  have hroot : 0 < (World.initial globals fresh s).tree.scopes.size := Nat.zero_lt_one
  have hknown : (World.initial globals fresh s).tree.HoldsKnown := Tree.holds_root _ _
  have hended : ((render cfg 0 parent nodes).run.run (World.initial globals fresh s)).1
      ≠ .error .exhausted := by
    rcases Int.lt_or_le 0 cfg.limit with hpos | hle
    · -- The budget of calls outlasts a limit.
      exact render_ne_exhausted hpos hroot parent nodes
    · exact hterm hle
  have hkeeps := render_accounted cfg 0 parent (Source.ofTrees_known hnodes) _ ⟨hroot, hknown⟩
  refine Run.ends_of_run (fun _ _ _ => trivial) ?_
  intro f w' hrun
  rcases hkeeps.of_error hrun with rfl | hdue
  · exact absurd (congrArg Prod.fst hrun) hended
  · exact ⟨hdue, hdue.classified⟩

set_option maxRecDepth 8000 in
/-- A template with two calls. The function of the first is not there, which is logged. The
second adds two operands, and there are none: the error is that of an underflow. -/
theorem render_faults_underflow :
    let call (name : String) : Html := .element "do" "" [⟨"", name, ""⟩] []
    let nodes : List Node := [.call (some (.text "f")) [], .call (some (.text "add")) []]
    let cfg : Setting Unit := ⟨.discard, 10, false⟩
    Source.ofTrees [call "f", call "add"] = .ok nodes ∧
      ∃ f w', (render cfg 0 none nodes).run.run (World.initial [] 0 ()) = (.error f, w') ∧
        w'.log.size = 2 ∧ f.Due cfg w' ∧ f.IsOnly .stackUnderflow := by
  intro call nodes cfg
  have hnodes : Source.ofTrees [call "f", call "add"] = .ok nodes := rfl
  have hterm : ¬ cfg.limit ≤ 0 := by decide
  obtain ⟨hends, -⟩ := render_faults cfg _ nodes hnodes [] 0 () none (absurd · hterm)
  obtain ⟨w', hrun, hlog⟩ : ∃ w', (render cfg 0 none nodes).run.run (World.initial [] 0 ())
      = (.error (.underflowArity "add" 2), w') ∧ w'.log.size = 2 := ⟨_, rfl, by decide +kernel⟩
  refine ⟨hnodes, _, w', hrun, hlog, (hends.of_error hrun).1, fun s => ?_⟩
  cases s <;> rfl

end TagScript
