import TagScript.Proofs.Eval.Policy

/-!
# `TagScript.Proofs.Eval.Contract`: what every evaluation of every node keeps

A `Contract` says what an evaluation in a scope may do: from which state it may come to
which state with which results left over, and in which state it may stop with a fault.
`Contract.Lawful` lists what a contract owes: it allows doing nothing, it is closed under
doing one thing after another, and it allows each single thing that an evaluation does.
That list has one entry for each operation of a run, and one for each way in which a scope
or an element encloses a body.

A contract is a policy that makes no difference between nodes, states to set out from,
faults and budgets (`Contract.policy`), and a lawful contract is a lawful policy. So
`Lawful.evalNode` and `Lawful.callUser` hold: every evaluation of every node keeps to a
lawful contract, with any budget of nested calls, and so does every call of a user function.
A property of all evaluations is then a contract, and its proof the list of laws.
-/

set_option autoImplicit false

namespace TagScript

open Log Scope

variable {σ α : Type}

/-- What an evaluation in a scope may do. -/
structure Contract (σ : Type) where
  /-- `yields e w rs w'`: from `w` it may come to `w'` and leave the results `rs`. -/
  yields : Nat → World σ → List Result → World σ → Prop
  /-- `stops e w f w'`: begun in `w`, it may stop with the fault `f` in `w'`. -/
  stops : Nat → World σ → Fault → World σ → Prop

namespace Contract

variable {C : Contract σ} {cfg : Setting σ} {caller : Caller σ} {e : Nat}

/-- A computation for scope `e` keeps to the contract. Its value stands for the results
that it leaves. -/
def Keeps (C : Contract σ) (e : Nat) (results : α → List Result) (m : Run σ α) : Prop :=
  ∀ w, m.Ends (fun a w' => C.yields e w (results a) w') (C.stops e w) w

/-- What a contract owes to hold of every evaluation. -/
structure Lawful (C : Contract σ) (cfg : Setting σ) : Prop where
  /-- Doing nothing is allowed. -/
  refl : ∀ e w, C.yields e w [] w
  /-- One thing may be done after another; the results add up. -/
  append : ∀ {e w₁ w₂ w₃ rs rs'}, C.yields e w₁ rs w₂ → C.yields e w₂ rs' w₃ →
    C.yields e w₁ (rs ++ rs') w₃
  /-- A fault may come after anything. -/
  stop : ∀ {e w₁ w₂ w₃ rs f}, C.yields e w₁ rs w₂ → C.stops e w₂ f w₃ → C.stops e w₁ f w₃
  fault : ∀ e w f, C.stops e w f w
  /-- Results may be dropped. -/
  discard : ∀ {e w rs w'}, C.yields e w rs w' → C.yields e w [] w'
  none : ∀ {e w w'}, C.yields e w [] w' → C.yields e w [.none] w'
  scalar : ∀ {e w w'} (v : Value), C.yields e w [] w' → C.yields e w [.scalar v] w'
  /-- Results may be put into a list. -/
  list : ∀ {e w rs w'}, C.yields e w rs w' → C.yields e w [.list rs] w'
  note : ∀ e w (r : Record), C.yields e w [] { w with log := w.log.push r }
  poll : ∀ e w, C.yields e w [] { w with polls := w.polls + 1 }
  change : ∀ {e w} {t : Tree}, Tree.Step e w.tree t → C.yields e w [] { w with tree := t }
  text : ∀ e w (s : String),
    C.yields e w [.output (cfg.sink.text s w.sink).1]
      { w with sink := (cfg.sink.text s w.sink).2 }
  /-- An element may be created around a body, whose results go into it. -/
  element : ∀ {e w rs w'} (tag : String) (attributes : List Attribute),
    C.yields e
      { w with
        sink := cfg.sink.dress (cfg.sink.element tag w.sink).1 attributes
          (cfg.sink.element tag w.sink).2 } rs w' →
    C.yields e w [.output (cfg.sink.element tag w.sink).1]
      { w' with
        sink := (bodyResult rs).flatten cfg.sink (cfg.sink.element tag w.sink).1 w'.sink }
  element_stop : ∀ {e w f w'} (tag : String) (attributes : List Attribute),
    C.stops e
      { w with
        sink := cfg.sink.dress (cfg.sink.element tag w.sink).1 attributes
          (cfg.sink.element tag w.sink).2 } f w' → C.stops e w f w'
  /-- What may be done in a new scope may be done where it is entered. -/
  enter : ∀ {e w rs w'}, C.yields w.tree.scopes.size (w.enter e false) rs w' →
    C.yields e w rs w'
  /-- Behind a boundary too, and a value may be handed back to the scope that entered. -/
  boundary : ∀ {e w rs w'} (v : Value), C.yields w.tree.scopes.size (w.enter e true) rs w' →
    C.yields e w rs { w' with tree := (w'.tree.drop w.tree.scopes.size).push e v }
  enter_stop : ∀ {e w f w'} (boundary : Bool),
    C.stops w.tree.scopes.size (w.enter e boundary) f w' → C.stops e w f w'

/-- The policy that asks of every evaluation to keep to the contract, from any state. -/
def policy (C : Contract σ) : Policy σ where
  node _ := True
  admits _ _ := True
  yields := C.yields
  stops := C.stops

/-- To keep to the policy of a contract is to keep to the contract. -/
theorem keeps_policy {results : α → List Result} {m : Run σ α} :
    C.policy.Keeps e results m ↔ C.Keeps e results m :=
  ⟨fun h w => h w trivial, fun h w _ => h w⟩

namespace Lawful

/-- The policy of a lawful contract is lawful. -/
theorem policy (L : C.Lawful cfg) : C.policy.Lawful cfg where
  children _ _ := trivial
  body _ _ _ := trivial
  admits_after _ _ := trivial
  refl := L.refl
  append := L.append
  stop := L.stop
  raise _ _ := L.fault _ _ _
  canceled _ _ := L.stop (L.poll _ _) (L.fault _ _ _)
  discard := L.discard
  none := L.none
  scalar := L.scalar
  list := L.list
  note := L.note
  poll := L.poll
  change h := L.change h.step
  text := L.text
  admits_element _ _ _ := trivial
  element := L.element
  element_stop := L.element_stop
  admits_enter _ := trivial
  enter := L.enter
  enter_stop := L.enter_stop false

/-- It fits itself, so that one contract serves for all budgets. -/
theorem calls (L : C.Lawful cfg) : C.policy.Calls C.policy cfg where
  node _ := trivial
  refuse _ _ _ := L.enter_stop true (L.fault _ _ _)
  admits_boundary _ _ := trivial
  boundary v _ _ := L.boundary v
  boundary_stop _ _ := L.enter_stop true

/-- The body of a scope with bindings keeps to the contract of that scope. -/
theorem letBody (L : C.Lawful cfg) {body : List Node}
    (hbody : C.Keeps e (fun rs => rs) (TagScript.evalAll cfg caller e body))
    (bindings : List (Option Literal)) :
    C.Keeps e (fun r => [r]) (do
      TagScript.bindAll e bindings
      return bodyResult (← TagScript.evalAll cfg caller e body)) :=
  keeps_policy.mp (L.policy.letBody (keeps_policy.mpr hbody) bindings)

/-- The rounds of a loop keep to the contract of the loop's scope. -/
theorem loopBody (L : C.Lawful cfg) {body : List Node}
    (hbody : C.Keeps e (fun rs => rs) (TagScript.evalAll cfg caller e body)) (name : String)
    (items : List Value) :
    C.Keeps e (fun r => [r]) (do
      let results ← items.mapM fun item => do
        checkCanceled cfg
        Run.setVar e name item
        return bodyResult (← TagScript.evalAll cfg caller e body)
      return .list results) :=
  keeps_policy.mp (L.policy.loopBody (keeps_policy.mpr hbody) name items)

/-- The run of a function keeps to the contract of the function's scope. -/
theorem runFunction (L : C.Lawful cfg) {f : UserFunction}
    (hbody : C.Keeps e (fun rs => rs) (TagScript.evalAll cfg caller e f.body))
    (args : List Value) :
    C.Keeps e (fun r => [r]) (TagScript.runFunction cfg caller e f args) :=
  keeps_policy.mp (L.policy.runFunction (keeps_policy.mpr hbody) args)

/-- Every evaluation of a node keeps to a lawful contract, if calls of user functions
do. -/
theorem evalNode (L : C.Lawful cfg)
    (hcaller : ∀ f e args, C.Keeps e (fun r => [r]) (caller f e args)) (e : Nat) (n : Node) :
    C.Keeps e (fun r => [r]) (TagScript.evalNode cfg caller e n) := by
  have hpolicy := fun f e args (_ : ∀ n ∈ f.body, True) => keeps_policy.mpr (hcaller f e args)
  exact keeps_policy.mp (L.policy.evalNode hpolicy e n trivial)

/-- The same for a list of nodes; the results of the nodes add up. -/
theorem evalAll (L : C.Lawful cfg)
    (hcaller : ∀ f e args, C.Keeps e (fun r => [r]) (caller f e args)) (e : Nat)
    (nodes : List Node) : C.Keeps e (fun rs => rs) (TagScript.evalAll cfg caller e nodes) := by
  have hpolicy := fun f e args (_ : ∀ n ∈ f.body, True) => keeps_policy.mpr (hcaller f e args)
  exact keeps_policy.mp (L.policy.evalAll hpolicy e nodes fun _ _ => trivial)

/-- Every call of a user function keeps to a lawful contract, with any budget. -/
theorem callUser (L : C.Lawful cfg) (budget : Nat) (f : UserFunction) (e : Nat)
    (args : List Value) : C.Keeps e (fun r => [r]) (TagScript.callUser cfg budget f e args) := by
  have hpolicy := Policy.callUser (fun _ => L.policy) (fun _ => L.calls)
    (fun e w _ => L.fault e w _) budget f e args fun _ _ => trivial
  exact keeps_policy.mp hpolicy

end Lawful

end Contract

end TagScript
