import TagScript.Proofs.Eval.Outcome

/-!
# `TagScript.Proofs.Eval.Approximation`: runs that go alike until one of them gives up

A call of a user function may give up: its budget of nested calls is used up, or it would go
deeper than the limit. `Run.Approximates gaveUp m₁ m₂` says that from every state the two
computations do the same, with the same value or fault and the same state afterwards, unless
`m₁` stops with a fault in `gaveUp`. No operation of a run catches a fault. So the relation
carries over from the lines of a block to the block (`Approximates.bind`), and from the
meaning of user calls to evaluations (`evalNode_approximates`).

An evaluation looks at the depth limit and at the budget nowhere but in calls. A call with a
smaller budget and a stricter limit approximates one with a greater budget and a looser limit
(`callUser_approximates`), and so does a rendering (`render_approximates`).
-/

set_option autoImplicit false

namespace TagScript

variable {σ α β : Type}

/-- From every state `m₁` does what `m₂` does, unless it stops with a fault in `gaveUp`. -/
def Run.Approximates (gaveUp : Fault → Prop) (m₁ m₂ : Run σ α) : Prop :=
  ∀ w, m₁.run.run w = m₂.run.run w ∨ ∃ f w', m₁.run.run w = (.error f, w') ∧ gaveUp f

/-- The setting with another depth limit. -/
def Setting.withLimit (cfg : Setting σ) (limit : Int) : Setting σ :=
  { cfg with limit }

namespace Run.Approximates

variable {gaveUp : Fault → Prop}

/-- A computation approximates itself. -/
theorem refl (m : Run σ α) : m.Approximates gaveUp m :=
  fun _ => Or.inl rfl

/-- A computation that gives up approximates every other. -/
theorem throw {f : Fault} (hf : gaveUp f) (m : Run σ α) :
    (MonadExcept.throw f : Run σ α).Approximates gaveUp m :=
  fun w => Or.inr ⟨f, w, rfl, hf⟩

/-- Where the first computation has not given up, the two do the same. -/
theorem run_eq {m₁ m₂ : Run σ α} (h : m₁.Approximates gaveUp m₂) {w : World σ}
    (hw : ∀ f, gaveUp f → (m₁.run.run w).1 ≠ .error f) : m₁.run.run w = m₂.run.run w := by
  rcases h w with heq | ⟨f, w', hf, hgave⟩
  · exact heq
  · exact absurd (congrArg Prod.fst hf) (hw f hgave)

/-- Two blocks go alike if their first lines do, and their rests on every value. -/
theorem bind {m₁ m₂ : Run σ α} {k₁ k₂ : α → Run σ β} (hm : m₁.Approximates gaveUp m₂)
    (hk : ∀ a, (k₁ a).Approximates gaveUp (k₂ a)) :
    (m₁ >>= k₁).Approximates gaveUp (m₂ >>= k₂) := by
  intro w
  rw [Run.run_bind, Run.run_bind]
  rcases hm w with heq | ⟨f, w', hf, hgave⟩
  · rw [heq]
    rcases m₂.run.run w with ⟨f | a, w'⟩
    · exact Or.inl rfl
    · exact hk a w'
  · rw [hf]
    exact Or.inr ⟨f, w', rfl, hgave⟩

/-- Two branchings on one condition go alike if their branches do. -/
theorem ite {c : Prop} [Decidable c] {m₁ m₂ n₁ n₂ : Run σ α} (hm : m₁.Approximates gaveUp m₂)
    (hn : n₁.Approximates gaveUp n₂) :
    (if c then m₁ else n₁).Approximates gaveUp (if c then m₂ else n₂) := by
  split
  · exact hm
  · exact hn

/-- Two loops over one list go alike if their rounds do. -/
theorem mapM {f₁ f₂ : α → Run σ β} (hf : ∀ a, (f₁ a).Approximates gaveUp (f₂ a))
    (xs : List α) : (xs.mapM f₁).Approximates gaveUp (xs.mapM f₂) := by
  induction xs with
  | nil => exact refl _
  | cons x xs ih =>
      simp only [List.mapM_cons]
      exact bind (hf x) fun _ => bind ih fun _ => refl _

end Run.Approximates

/-! ### Evaluations over two meanings of user calls -/

section

open Run

variable {gaveUp : Fault → Prop} {cfg : Setting σ} {caller₁ caller₂ : Caller σ}

/-- The results of two bodies become one result each, in the same way. -/
private theorem approximates_body {m₁ m₂ : Run σ (List Result)}
    (h : m₁.Approximates gaveUp m₂) :
    (do return bodyResult (← m₁) : Run σ Result).Approximates gaveUp
      (do return bodyResult (← m₂)) :=
  .bind h fun _ => .refl _

/-- Calls by name do as the calls of user functions do that they come to. -/
private theorem approximates_call
    (hcaller : ∀ f e args, (caller₁ f e args).Approximates gaveUp (caller₂ f e args))
    (e : Nat) (function : Option Literal) (args : List (Option Literal)) :
    (evalCall caller₁ e function args).Approximates gaveUp (evalCall caller₂ e function args) := by
  refine .bind (.refl _) fun v => .bind (.refl _) fun w => ?_
  cases w.tree.resolve e v.toText with
  | none => exact .refl _
  | some f =>
      refine .bind (.refl _) fun vs => .bind (.refl _) fun _ => ?_
      cases f with
      | user f => exact hcaller f e vs
      | native n => exact .refl _

mutual

/-- Evaluations of a node go alike if calls of user functions do. The limit does not
matter. -/
theorem evalNode_approximates (cfg : Setting σ) (limit : Int)
    (hcaller : ∀ f e args, (caller₁ f e args).Approximates gaveUp (caller₂ f e args)) (e : Nat) :
    (n : Node) → (evalNode cfg caller₁ e n).Approximates gaveUp
      (evalNode (cfg.withLimit limit) caller₂ e n)
  | .value l => by
      simp only [evalNode]
      exact .refl _
  | .comment body => by
      simp only [evalNode]
      exact .refl _
  | .define name params body => by
      simp only [evalNode]
      exact .refl _
  | .letIn bindings body => by
      simp only [evalNode]
      -- Entering the scope and binding call nothing, so only the body can make a difference.
      refine .bind (.refl _) fun child => .bind (.refl _) fun _ => ?_
      exact approximates_body (evalAll_approximates cfg limit hcaller child body)
  | .cond body => by
      simp only [evalNode]
      exact evalCond_approximates cfg limit hcaller e body
  | .ifThen conditions body => by
      simp only [evalNode]
      refine .bind (.refl _) fun b => .ite ?_ (.refl _)
      exact approximates_body (evalAll_approximates cfg limit hcaller e body)
  | .orElse body => by
      simp only [evalNode]
      exact approximates_body (evalAll_approximates cfg limit hcaller e body)
  | .forEach name sequence body => by
      simp only [evalNode]
      -- Both look the sequence up before the first round, and go through the same items.
      refine .bind (.refl _) fun nameValue => .bind (.refl _) fun v => ?_
      cases v.elements? with
      | none => exact .refl _
      | some items =>
          refine .bind (.refl _) fun child => .bind (.mapM (fun item => ?_) items) fun _ => .refl _
          refine .bind (.refl _) fun _ => .bind (.refl _) fun _ => ?_
          exact approximates_body (evalAll_approximates cfg limit hcaller child body)
  | .call function args => by
      simp only [evalNode]
      exact approximates_call hcaller e function args
  | .element tag attributes body => by
      simp only [evalNode]
      refine .bind (.refl _) fun node => ?_
      exact .bind (evalAll_approximates cfg limit hcaller e body) fun rs => .refl _
  | .foreign type => by
      simp only [evalNode]
      exact .refl _
  | .missing => by
      simp only [evalNode]
      exact .refl _

/-- The same for a list of nodes. -/
theorem evalAll_approximates (cfg : Setting σ) (limit : Int)
    (hcaller : ∀ f e args, (caller₁ f e args).Approximates gaveUp (caller₂ f e args)) (e : Nat) :
    (nodes : List Node) → (evalAll cfg caller₁ e nodes).Approximates gaveUp
      (evalAll (cfg.withLimit limit) caller₂ e nodes)
  | [] => by
      simp only [evalAll]
      exact .refl _
  | n :: rest => by
      simp only [evalAll]
      refine .bind (evalNode_approximates cfg limit hcaller e n) fun r => ?_
      exact .bind (evalAll_approximates cfg limit hcaller e rest) fun rs => .refl _

/-- The same for the branches of a conditional. -/
theorem evalCond_approximates (cfg : Setting σ) (limit : Int)
    (hcaller : ∀ f e args, (caller₁ f e args).Approximates gaveUp (caller₂ f e args)) (e : Nat) :
    (nodes : List Node) → (evalCond cfg caller₁ e nodes).Approximates gaveUp
      (evalCond (cfg.withLimit limit) caller₂ e nodes)
  | [] => by
      simp only [evalCond]
      exact .refl _
  | n :: rest => by
      have hrest := evalCond_approximates cfg limit hcaller e rest
      -- A child that does not decide is evaluated all the same, and the walk goes on behind it.
      have passed : (do
          let _ ← evalNode cfg caller₁ e n
          evalCond cfg caller₁ e rest : Run σ Result).Approximates gaveUp (do
          let _ ← evalNode (cfg.withLimit limit) caller₂ e n
          evalCond (cfg.withLimit limit) caller₂ e rest) :=
        .bind (evalNode_approximates cfg limit hcaller e n) fun _ => hrest
      cases n with
      | orElse body =>
          simp only [evalCond]
          exact approximates_body (evalAll_approximates cfg limit hcaller e body)
      | ifThen conditions body =>
          simp only [evalCond]
          refine .bind (.refl _) fun b => .ite ?_ passed
          exact approximates_body (evalAll_approximates cfg limit hcaller e body)
      | _ =>
          simp only [evalCond]
          exact passed

end

/-- Runs of a function go alike if calls of user functions do. -/
theorem runFunction_approximates (cfg : Setting σ) (limit : Int)
    (hcaller : ∀ f e args, (caller₁ f e args).Approximates gaveUp (caller₂ f e args))
    (e : Nat) (f : UserFunction) (args : List Value) :
    (runFunction cfg caller₁ e f args).Approximates gaveUp
      (runFunction (cfg.withLimit limit) caller₂ e f args) := by
  refine .bind (.refl _) fun _ => .bind (.refl _) fun _ => ?_
  exact approximates_body (evalAll_approximates cfg limit hcaller e f.body)

/-- When giving up makes up for the difference between two limits: there is none, or every
call that the second refuses is refused by the first, and refused calls have given up. -/
def Setting.Looser (gaveUp : Fault → Prop) (cfg : Setting σ) (limit : Int) : Prop :=
  limit = cfg.limit ∨
    0 < cfg.limit ∧ (cfg.limit ≤ limit ∨ limit ≤ 0) ∧ ∀ function, gaveUp (.depth function cfg.limit)

/-- A call with a budget approximates one with a greater budget and a looser limit. -/
theorem callUser_approximates {limit : Int} (hspent : gaveUp .exhausted)
    (hlimit : cfg.Looser gaveUp limit) {budget budget' : Nat} (hle : budget ≤ budget')
    (f : UserFunction) (e : Nat) (args : List Value) :
    (callUser cfg budget f e args).Approximates gaveUp
      (callUser (cfg.withLimit limit) budget' f e args) := by
  induction budget generalizing budget' f e args with
  | zero => exact .throw hspent _
  | succ budget ih =>
      obtain ⟨budget', rfl⟩ : ∃ b, budget' = b + 1 := ⟨budget' - 1, by omega⟩
      have body := fun child => runFunction_approximates cfg limit
        (fun f e args => ih (Nat.le_of_succ_le_succ hle) f e args) child f args
      intro w
      rw [run_callUser, run_callUser]
      by_cases hdeep : 0 < cfg.limit ∧ cfg.limit < calleeDepth w.tree e
      · rw [if_pos hdeep]
        rcases hlimit with rfl | ⟨-, -, hgave⟩
        · -- Both calls go too deep.
          exact Or.inl (if_pos hdeep).symm
        · exact Or.inr ⟨_, _, rfl, hgave f.name⟩
      · -- What the stricter limit lets pass, the looser one does.
        have hfits : ¬ (0 < limit ∧ limit < calleeDepth w.tree e) := by
          rcases hlimit with rfl | ⟨hpos, hloose, -⟩
          · exact hdeep
          · omega
        have hblock := Approximates.bind (body w.tree.scopes.size) fun out =>
          .refl (do handBack w.tree.scopes.size e; return out)
        rw [if_neg hdeep, show (cfg.withLimit limit).limit = limit from rfl, if_neg hfits]
        exact hblock _

/-- Under one limit a call goes as it goes with a greater budget, unless the budget is used
up. -/
theorem callUser_approximates_of_le (cfg : Setting σ) {budget budget' : Nat}
    (hle : budget ≤ budget') (f : UserFunction) (e : Nat) (args : List Value) :
    (callUser cfg budget f e args).Approximates (· = .exhausted)
      (callUser cfg budget' f e args) :=
  @callUser_approximates σ (· = .exhausted) cfg cfg.limit rfl (Or.inl rfl) _ _ hle f e args

/-- A rendering approximates one with a greater budget and a looser limit. -/
theorem render_approximates {limit : Int} (hspent : gaveUp .exhausted)
    (hlimit : cfg.Looser gaveUp limit) (hbudget : callBudget cfg.limit ≤ callBudget limit)
    (e : Nat) (parent : NodeRef) (nodes : List Node) :
    (render cfg e parent nodes).Approximates gaveUp
      (render (cfg.withLimit limit) e parent nodes) := by
  induction nodes with
  | nil => exact .refl _
  | cons n rest ih =>
      have hnode := evalNode_approximates cfg limit
        (callUser_approximates hspent hlimit hbudget) e n
      exact .bind hnode fun r => .bind (.refl _) fun _ => ih

end

end TagScript
