import TagScript.Proofs.Eval.Outcome

/-!
# `TagScript.Proofs.Eval.Conditional`: which branch of a conditional is taken

The children of a conditional are walked in order. A child decides if it is an else, or an if
whose condition holds when its turn comes (`Node.branch?`). The children before the first one
that decides are evaluated like those of any body, and what they leave for the output is
dropped. They may bind variables, so whether a child decides is a question about the state that
the children before it have left.

`PassesOver` says that an evaluation gets past a list of children none of which decides, and
`CondEnds` says with it how a conditional ends. There are three ways: a branch is taken, the
children run out, or a child that does not decide stops with a fault.

* `run_evalCond_append`: children that are passed over leave the rest the state that they leave
  a body.
* `evalNode_cond`: a conditional ends as `CondEnds` says, and in no other way.
-/

set_option autoImplicit false

namespace TagScript

open Log Scope

variable {σ : Type}

/-- The body of the branch that a child is, if the child decides in the tree. -/
def Node.branch? (t : Tree) (e : Nat) : Node → Option (List Node)
  | .orElse body => some body
  | .ifThen conditions body => if t.holds e conditions then some body else none
  | _ => none

section

variable (cfg : Setting σ) (caller : Caller σ) (e : Nat)

/-- The evaluation of the children comes from `w` to `w'`, and none of them decides when its
turn comes. -/
structure PassesOver (w : World σ) (children : List Node) (w' : World σ) : Prop where
  evaluated : ∃ rs, (evalAll cfg caller e children).run.run w = (.ok rs, w')
  undecided : ∀ before n after rs w₁, children = before ++ n :: after →
    (evalAll cfg caller e before).run.run w = (.ok rs, w₁) → n.branch? w₁.tree e = none

/-- How a conditional over the children ends that begins in `w`. -/
inductive CondEnds (w : World σ) (children : List Node) : Except Fault Result × World σ → Prop where
  /-- A child decides. Its body gives the result, and the children behind it are not looked
  at. -/
  | branch {passed later body : List Node} {n : Node} {w₁ : World σ}
      (hsplit : children = passed ++ n :: later) (hpassed : PassesOver cfg caller e w passed w₁)
      (hn : n.branch? w₁.tree e = some body) :
      CondEnds w children ((evalBody cfg caller e body).run.run w₁)
  /-- No child decides. There is no output. -/
  | nothing {w₁ : World σ} (hpassed : PassesOver cfg caller e w children w₁) :
      CondEnds w children (.ok .none, w₁)
  /-- A child that does not decide stops with a fault, and so does the conditional. -/
  | fault {passed later : List Node} {n : Node} {w₁ w₂ : World σ} {f : Fault}
      (hsplit : children = passed ++ n :: later) (hpassed : PassesOver cfg caller e w passed w₁)
      (hn : n.branch? w₁.tree e = none)
      (hf : (evalNode cfg caller e n).run.run w₁ = (.error f, w₂)) :
      CondEnds w children (.error f, w₂)

end

variable {cfg : Setting σ} {caller : Caller σ} {e : Nat} {w w₁ w' : World σ} {n : Node}
  {body children passed rest : List Node} {out : Except Fault Result × World σ}

/-! ### One child -/

/-- An if decides where its condition holds. -/
theorem Node.branch?_ifThen_eq_none {t : Tree} {conditions : List (Option Literal)} :
    (Node.ifThen conditions body).branch? t e = none ↔ t.holds e conditions = false := by
  simp [Node.branch?]

/-- A child that decides gives its body. -/
theorem run_evalCond_of_branch (h : n.branch? w.tree e = some body) :
    (evalCond cfg caller e (n :: rest)).run.run w = (evalBody cfg caller e body).run.run w := by
  cases n with
  | orElse _ =>
      cases h
      rw [evalCond, evalBody]
  | ifThen conditions _ =>
      rw [Node.branch?] at h
      split at h
      · next hholds =>
          cases h
          rw [evalCond, Run.run_bind, Run.run_holds, hholds]
          rfl
      · cases h
  | _ => cases h

/-- A child that does not decide is evaluated, and what it leaves for the output is dropped. -/
theorem run_evalCond_of_undecided (h : n.branch? w.tree e = none) :
    (evalCond cfg caller e (n :: rest)).run.run w
      = (do
          let _ ← evalNode cfg caller e n
          evalCond cfg caller e rest : Run σ Result).run.run w := by
  cases n with
  | orElse _ => cases h
  | ifThen conditions _ =>
      -- The walk tests the condition first, and the evaluation of the child tests it again.
      rw [evalCond, Run.run_bind, Run.run_holds, Node.branch?_ifThen_eq_none.mp h]
      rfl
  | _ => simp only [evalCond]

/-- An if that does not decide does nothing when it is evaluated. -/
theorem run_ifThen_of_undecided {conditions : List (Option Literal)}
    (h : (Node.ifThen conditions body).branch? w.tree e = none) :
    (evalNode cfg caller e (.ifThen conditions body)).run.run w = (.ok .none, w) := by
  rw [evalNode, Run.run_bind, Run.run_holds, Node.branch?_ifThen_eq_none.mp h]
  rfl

/-! ### Children that are passed over -/

/-- Nodes succeed one after another when the first does and the others do behind it. -/
theorem run_evalAll_cons_eq_ok_iff {rs : List Result} :
    (evalAll cfg caller e (n :: rest)).run.run w = (.ok rs, w')
      ↔ ∃ r w₁ rs₁, (evalNode cfg caller e n).run.run w = (.ok r, w₁) ∧
        (evalAll cfg caller e rest).run.run w₁ = (.ok rs₁, w') ∧ rs = r :: rs₁ := by
  rw [evalAll]
  constructor
  · intro h
    obtain ⟨r, w₁, hr, h⟩ := Run.run_bind_eq_ok_iff.mp h
    obtain ⟨rs₁, w₂, hrs, h⟩ := Run.run_bind_eq_ok_iff.mp h
    cases h
    exact ⟨r, w₁, rs₁, hr, hrs, rfl⟩
  · rintro ⟨r, w₁, rs₁, hr, hrs, rfl⟩
    exact Run.run_bind_eq_ok_iff.mpr ⟨r, w₁, hr, Run.run_bind_eq_ok_iff.mpr ⟨rs₁, w', hrs, rfl⟩⟩

/-- Where there are no children, nothing is done to get past them. -/
theorem passesOver_nil : PassesOver cfg caller e w [] w' ↔ w' = w := by
  constructor
  · intro h
    obtain ⟨rs, hrs⟩ := h.evaluated
    rw [evalAll] at hrs
    cases hrs
    rfl
  · rintro rfl
    refine ⟨⟨[], by rw [evalAll]; rfl⟩, ?_⟩
    intro before n after _ _ hsplit
    cases before <;> cases hsplit

/-- The first child is passed over if it does not decide and gives a result. The rest is passed
over from there on. -/
theorem passesOver_cons :
    PassesOver cfg caller e w (n :: rest) w' ↔ n.branch? w.tree e = none ∧
      ∃ r w₁, (evalNode cfg caller e n).run.run w = (.ok r, w₁) ∧
        PassesOver cfg caller e w₁ rest w' := by
  constructor
  · intro h
    obtain ⟨rs, hrs⟩ := h.evaluated
    obtain ⟨r, w₁, rs₁, hr, hrs₁, -⟩ := run_evalAll_cons_eq_ok_iff.mp hrs
    -- The empty prefix speaks about the first child, and the longer ones about the rest.
    refine ⟨h.undecided [] n rest [] w rfl (by rw [evalAll]; rfl), r, w₁, hr, ⟨rs₁, hrs₁⟩, ?_⟩
    intro before m after rs₂ w₂ hsplit hbefore
    exact h.undecided (n :: before) m after (r :: rs₂) w₂ (by rw [hsplit, List.cons_append])
      (run_evalAll_cons_eq_ok_iff.mpr ⟨r, w₁, rs₂, hr, hbefore, rfl⟩)
  · rintro ⟨hn, r, w₁, hr, hrest⟩
    obtain ⟨rs₁, hrs₁⟩ := hrest.evaluated
    refine ⟨⟨_, run_evalAll_cons_eq_ok_iff.mpr ⟨r, w₁, rs₁, hr, hrs₁, rfl⟩⟩, ?_⟩
    intro before m after rs₂ w₂ hsplit hbefore
    cases before with
    | nil =>
        -- The child is the first one, and its turn is at the start.
        cases hsplit
        rw [evalAll] at hbefore
        cases hbefore
        exact hn
    | cons _ before =>
        cases hsplit
        obtain ⟨r', w₁', rs₃, hr', hbefore', -⟩ := run_evalAll_cons_eq_ok_iff.mp hbefore
        rw [hr] at hr'
        cases hr'
        exact hrest.undecided before m after rs₃ w₂ rfl hbefore'

/-- Children that are passed over leave the rest the state that they leave a body. -/
theorem run_evalCond_append (h : PassesOver cfg caller e w passed w₁) :
    (evalCond cfg caller e (passed ++ rest)).run.run w
      = (evalCond cfg caller e rest).run.run w₁ := by
  -- Each child is passed over in the state that the ones before it have left.
  induction passed generalizing w with
  | nil => rw [List.nil_append, passesOver_nil.mp h]
  | cons n passed ih =>
      obtain ⟨hn, r, w₂, hr, hpassed⟩ := passesOver_cons.mp h
      rw [List.cons_append, run_evalCond_of_undecided hn, Run.run_bind, hr]
      exact ih hpassed

/-! ### The conditional -/

/-- How a conditional ends where the first child is passed over. -/
theorem CondEnds.cons {r : Result} (hn : n.branch? w.tree e = none)
    (hr : (evalNode cfg caller e n).run.run w = (.ok r, w₁))
    (h : CondEnds cfg caller e w₁ rest out) : CondEnds cfg caller e w (n :: rest) out := by
  have more : ∀ {nodes w₂}, PassesOver cfg caller e w₁ nodes w₂ →
      PassesOver cfg caller e w (n :: nodes) w₂ :=
    fun hp => passesOver_cons.mpr ⟨hn, r, w₁, hr, hp⟩
  cases h with
  | branch hsplit hpassed hm =>
      exact .branch (congrArg (n :: ·) hsplit) (more hpassed) hm
  | nothing hpassed => exact .nothing (more hpassed)
  | fault hsplit hpassed hm hf =>
      exact .fault (congrArg (n :: ·) hsplit) (more hpassed) hm hf

/-- A conditional ends in one of the three ways. -/
theorem condEnds_run (children : List Node) (w : World σ) :
    CondEnds cfg caller e w children ((evalCond cfg caller e children).run.run w) := by
  induction children generalizing w with
  | nil =>
      rw [evalCond]
      exact .nothing (passesOver_nil.mpr rfl)
  | cons n rest ih =>
      have start : PassesOver cfg caller e w [] w := passesOver_nil.mpr rfl
      cases hn : n.branch? w.tree e with
      | some body =>
          rw [run_evalCond_of_branch hn]
          exact .branch rfl start hn
      | none =>
          rw [run_evalCond_of_undecided hn, Run.run_bind]
          rcases hr : (evalNode cfg caller e n).run.run w with ⟨f | r, w₁⟩
          · exact .fault rfl start hn hr
          · exact (ih w₁).cons hn hr

/-- The three ways exclude each other: there is only one end. -/
theorem CondEnds.run_eq (h : CondEnds cfg caller e w children out) :
    (evalCond cfg caller e children).run.run w = out := by
  cases h with
  | branch hsplit hpassed hn =>
      rw [hsplit, run_evalCond_append hpassed, run_evalCond_of_branch hn]
  | nothing hpassed =>
      rw [← List.append_nil children, run_evalCond_append hpassed, evalCond]
      rfl
  | fault hsplit hpassed hn hf =>
      rw [hsplit, run_evalCond_append hpassed, run_evalCond_of_undecided hn, Run.run_bind, hf]

/-- **Conditionals.** A conditional over any children, evaluated in any scope, with any sink and
any meaning of user calls, ends as `CondEnds` says, and in no other way. The children before the
first that decides are evaluated in order, and their results dropped. Then the result is that of
the body of the deciding branch, or none if the children run out, or the fault of a child that
was to be passed over. An if that is passed over has no effect and no result. -/
theorem evalNode_cond (cfg : Setting σ) (caller : Caller σ) (e : Nat) (children : List Node)
    (w : World σ) :
    (∀ out, (evalNode cfg caller e (.cond children)).run.run w = out
      ↔ CondEnds cfg caller e w children out) ∧
    ∀ conditions body w₁, (Node.ifThen conditions body).branch? w₁.tree e = none →
      (evalNode cfg caller e (.ifThen conditions body)).run.run w₁ = (.ok .none, w₁) := by
  constructor
  · intro out
    rw [evalNode]
    constructor
    · rintro rfl
      exact condEnds_run children w
    · exact CondEnds.run_eq
  · intro _ _ _ h
    exact run_ifThen_of_undecided h

/-- An if whose condition does not hold at the start has no effect there. Behind children that
bind its variable it decides. -/
theorem evalNode_cond_set :
    let cfg : Setting Unit := ⟨.discard, 10, false⟩
    let w : World Unit := ⟨.root [] 0, #[], (), 0⟩
    let passed : List Node := [.call (some (.text "push")) [some (.bool true)],
      .call (some (.text "set")) [some (.text "x")]]
    let body : List Node := [.value (some (.var "x"))]
    let check : Node := .ifThen [some (.var "x")] body
    check.branch? w.tree 0 = none ∧
      (evalNode cfg (callUser cfg 11) 0 check).run.run w = (.ok .none, w) ∧
      (evalNode cfg (callUser cfg 11) 0 (.cond (passed ++ check :: [.orElse []]))).run.run w
        = (evalBody cfg (callUser cfg 11) 0 body).run.run
            ((evalAll cfg (callUser cfg 11) 0 passed).run.run w).2 := by
  intro cfg w passed body check
  obtain ⟨hcond, hundecided⟩ :=
    evalNode_cond cfg (callUser cfg 11) 0 (passed ++ check :: [.orElse []]) w
  refine ⟨rfl, hundecided _ _ w rfl, (hcond _).mpr (.branch rfl ?_ rfl)⟩
  exact passesOver_cons.mpr ⟨rfl, _, _, rfl,
    passesOver_cons.mpr ⟨rfl, _, _, rfl, passesOver_nil.mpr rfl⟩⟩

end TagScript
