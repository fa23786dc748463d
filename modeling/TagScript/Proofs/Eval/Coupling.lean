import Mathlib.Data.List.Forall2
import TagScript.Proofs.Eval.Outcome

/-!
# `TagScript.Proofs.Eval.Coupling`: one induction for two evaluations in step

A `Coupling` says when two states correspond, seen from a scope of each, and when two
results do. The states may have different trees, and even different sinks.
`Coupling.Lawful` lists what a coupling owes. Scopes that correspond show the same to an
evaluation: the same variables, functions, top operand and depth. The correspondence
survives each thing that an evaluation does, when it is done on both sides.

`Lawful.evalNode`, `Lawful.callUser` and `Lawful.render` are what comes of it: two
evaluations of one node in scopes that correspond end alike. Both give results, which
correspond, or both stop with the same fault, and the states correspond again. The induction
over nodes and budgets is done here once, as it is for one run in
`TagScript.Proofs.Eval.Contract`. A property of two runs is then a coupling, and its proof
the list of laws.
-/

set_option autoImplicit false

namespace TagScript

open Log Scope

variable {σ τ α β γ δ : Type}

/-- When two runs correspond. -/
structure Coupling (σ τ : Type) where
  /-- `agree w₁ w₂ i j`: the states correspond, seen from scope `i` of the first and scope
  `j` of the second. -/
  agree : World σ → World τ → Nat → Nat → Prop
  results : Result → Result → Prop

namespace Coupling

variable {C : Coupling σ τ} {cfg₁ : Setting σ} {cfg₂ : Setting τ} {caller₁ : Caller σ}
  {caller₂ : Caller τ} {w₁ : World σ} {w₂ : World τ} {i j : Nat}

/-- From `w₁` and `w₂` to `w₁'` and `w₂'`, scopes that correspond go on to do so. -/
def Moves (C : Coupling σ τ) (w₁ : World σ) (w₂ : World τ) (w₁' : World σ) (w₂' : World τ) :
    Prop :=
  ∀ i j, C.agree w₁ w₂ i j → C.agree w₁' w₂' i j

/-- Two computations for scopes `i` and `j` end alike wherever these correspond. Their
values are in `rel`. -/
def Alike (C : Coupling σ τ) (i j : Nat) (rel : α → β → Prop) (m₁ : Run σ α)
    (m₂ : Run τ β) : Prop :=
  ∀ w₁ w₂, C.agree w₁ w₂ i j →
    m₁.EndsAlike m₂ (fun a b w₁' w₂' => rel a b ∧ C.Moves w₁ w₂ w₁' w₂') (C.Moves w₁ w₂) w₁ w₂

/-- What a coupling owes to hold of all evaluations. -/
structure Lawful (C : Coupling σ τ) (cfg₁ : Setting σ) (cfg₂ : Setting τ) : Prop where
  limit : cfg₁.limit = cfg₂.limit
  canceled : cfg₁.canceled = cfg₂.canceled
  polls : ∀ {w₁ w₂ i j}, C.agree w₁ w₂ i j → w₁.polls = w₂.polls
  fresh : ∀ {w₁ w₂ i j}, C.agree w₁ w₂ i j → w₁.tree.fresh = w₂.tree.fresh
  /-- Scopes that correspond see the same variables. -/
  lookup : ∀ {w₁ w₂ i j}, C.agree w₁ w₂ i j → ∀ name,
    w₁.tree.lookup i name = w₂.tree.lookup j name
  /-- They see the same functions. -/
  resolve : ∀ {w₁ w₂ i j}, C.agree w₁ w₂ i j → ∀ name,
    w₁.tree.resolve i name = w₂.tree.resolve j name
  top : ∀ {w₁ w₂ i j}, C.agree w₁ w₂ i j → w₁.tree.top? i = w₂.tree.top? j
  depth : ∀ {w₁ w₂ i j}, C.agree w₁ w₂ i j →
    ((w₁.tree.get? i).getD default).depth = ((w₂.tree.get? j).getD default).depth
  none : C.results .none .none
  scalar : ∀ v, C.results (.scalar v) (.scalar v)
  list : ∀ {rs₁ rs₂}, List.Forall₂ C.results rs₁ rs₂ → C.results (.list rs₁) (.list rs₂)
  note : ∀ {w₁ w₂ i j} (r : Record), C.agree w₁ w₂ i j →
    C.Moves w₁ w₂ { w₁ with log := w₁.log.push r } { w₂ with log := w₂.log.push r }
  poll : ∀ {w₁ w₂ i j}, C.agree w₁ w₂ i j →
    C.Moves w₁ w₂ { w₁ with polls := w₁.polls + 1 } { w₂ with polls := w₂.polls + 1 }
  /-- The same step may be taken in scopes that correspond. -/
  change : ∀ {w₁ w₂ i j} {t₁ t₂ : Tree}, C.agree w₁ w₂ i j →
    Tree.SameStep i j w₁.tree w₂.tree t₁ t₂ →
    C.Moves w₁ w₂ { w₁ with tree := t₁ } { w₂ with tree := t₂ }
  enter : ∀ {w₁ w₂ i j} (boundary : Bool), C.agree w₁ w₂ i j →
    C.Moves w₁ w₂ (w₁.enter i boundary) (w₂.enter j boundary)
  /-- Scopes entered from scopes that correspond do so themselves. -/
  child : ∀ {w₁ w₂ i j} (boundary : Bool), C.agree w₁ w₂ i j →
    C.agree (w₁.enter i boundary) (w₂.enter j boundary) w₁.tree.scopes.size
      w₂.tree.scopes.size
  text : ∀ {w₁ w₂ i j} (s : String), C.agree w₁ w₂ i j →
    C.results (.output (cfg₁.sink.text s w₁.sink).1) (.output (cfg₂.sink.text s w₂.sink).1) ∧
    C.Moves w₁ w₂ { w₁ with sink := (cfg₁.sink.text s w₁.sink).2 }
      { w₂ with sink := (cfg₂.sink.text s w₂.sink).2 }
  element : ∀ {w₁ w₂ i j} (tag : String) (attributes : List Attribute), C.agree w₁ w₂ i j →
    C.results (.output (cfg₁.sink.element tag w₁.sink).1)
      (.output (cfg₂.sink.element tag w₂.sink).1) ∧
    C.Moves w₁ w₂
      { w₁ with
        sink := cfg₁.sink.dress (cfg₁.sink.element tag w₁.sink).1 attributes
          (cfg₁.sink.element tag w₁.sink).2 }
      { w₂ with
        sink := cfg₂.sink.dress (cfg₂.sink.element tag w₂.sink).1 attributes
          (cfg₂.sink.element tag w₂.sink).2 }
  flatten : ∀ {w₁ w₂ i j n₁ n₂ r₁ r₂}, C.agree w₁ w₂ i j →
    C.results (.output n₁) (.output n₂) → C.results r₁ r₂ →
    C.Moves w₁ w₂ { w₁ with sink := r₁.flatten cfg₁.sink n₁ w₁.sink }
      { w₂ with sink := r₂.flatten cfg₂.sink n₂ w₂.sink }

/-! ### Blocks and loops in step -/

/-- Scopes that correspond do so when nothing is done. -/
theorem Moves.refl (C : Coupling σ τ) (w₁ : World σ) (w₂ : World τ) : C.Moves w₁ w₂ w₁ w₂ :=
  fun _ _ h => h

/-- They go on to do so when one thing is done after another. -/
theorem Moves.trans {w₁' w₁'' : World σ} {w₂' w₂'' : World τ} (h : C.Moves w₁ w₂ w₁' w₂')
    (h' : C.Moves w₁' w₂' w₁'' w₂'') : C.Moves w₁ w₂ w₁'' w₂'' :=
  fun i j hij => h' i j (h i j hij)

/-- Two blocks are alike if their first lines are, and their rests on values that are
related. -/
theorem alike_bind {rel : α → β → Prop} {rel' : γ → δ → Prop} {m₁ : Run σ α} {m₂ : Run τ β}
    {k₁ : α → Run σ γ} {k₂ : β → Run τ δ} (hm : C.Alike i j rel m₁ m₂)
    (hk : ∀ a b, rel a b → C.Alike i j rel' (k₁ a) (k₂ b)) :
    C.Alike i j rel' (m₁ >>= k₁) (m₂ >>= k₂) := by
  intro w₁ w₂ hw
  refine Run.EndsAlike.bind ((hm w₁ w₂ hw).mono ?_ (fun _ _ he => he))
  rintro a b w₁' w₂' ⟨hab, hmoves⟩
  refine (hk a b hab w₁' w₂' (hmoves i j hw)).mono ?_ ?_
  · rintro c d w₁'' w₂'' ⟨hcd, hmoves'⟩
    exact ⟨hcd, hmoves.trans hmoves'⟩
  · intro w₁'' w₂'' hmoves'
    exact hmoves.trans hmoves'

/-- The same when the first lines give equal values. -/
theorem alike_let {rel : β → γ → Prop} {m₁ : Run σ α} {m₂ : Run τ α} {k₁ : α → Run σ β}
    {k₂ : α → Run τ γ} (hm : C.Alike i j Eq m₁ m₂) (hk : ∀ a, C.Alike i j rel (k₁ a) (k₂ a)) :
    C.Alike i j rel (m₁ >>= k₁) (m₂ >>= k₂) := by
  refine alike_bind hm ?_
  rintro a _ rfl
  exact hk a

/-- The same when the first lines give nothing. -/
theorem alike_seq {rel : α → β → Prop} {m₁ : Run σ Unit} {m₂ : Run τ Unit} {k₁ : Run σ α}
    {k₂ : Run τ β} (hm : C.Alike i j Eq m₁ m₂) (hk : C.Alike i j rel k₁ k₂) :
    C.Alike i j rel (do m₁; k₁) (do m₂; k₂) :=
  alike_let hm fun _ => hk

/-- Two computations that do nothing are alike if their values are related. -/
theorem alike_pure {rel : α → β → Prop} {a : α} {b : β} (h : rel a b) :
    C.Alike i j rel (pure a) (pure b) :=
  fun w₁ w₂ _ => ⟨h, .refl C w₁ w₂⟩

/-- Two computations that stop with the same fault are alike. -/
theorem alike_throw {rel : α → β → Prop} (f : Fault) : C.Alike i j rel (throw f) (throw f) :=
  fun w₁ w₂ _ => ⟨rfl, .refl C w₁ w₂⟩

/-- Two runs that look at their states see states that correspond. -/
theorem alike_get : C.Alike i j (fun w₁ w₂ => C.agree w₁ w₂ i j) get get :=
  fun w₁ w₂ hw => ⟨hw, .refl C w₁ w₂⟩

/-- Two loops over the same list are alike if their bodies are. -/
theorem alike_mapM {rel : β → γ → Prop} {f₁ : α → Run σ β} {f₂ : α → Run τ γ}
    (hf : ∀ a, C.Alike i j rel (f₁ a) (f₂ a)) (xs : List α) :
    C.Alike i j (List.Forall₂ rel) (xs.mapM f₁) (xs.mapM f₂) := by
  induction xs with
  | nil => exact alike_pure .nil
  | cons x xs ih =>
      simp only [List.mapM_cons]
      refine alike_bind (hf x) fun b c hbc => ?_
      exact alike_bind ih fun bs cs hbcs => alike_pure (.cons hbc hbcs)

/-- The same when the bodies give equal values. -/
private theorem alike_mapM_eq {f₁ : α → Run σ β} {f₂ : α → Run τ β}
    (hf : ∀ a, C.Alike i j Eq (f₁ a) (f₂ a)) (xs : List α) :
    C.Alike i j Eq (xs.mapM f₁) (xs.mapM f₂) := by
  have h := alike_mapM hf xs
  rw [List.forall₂_eq_eq_eq] at h
  exact h

namespace Lawful

/-! ### The parts of an evaluation that contain no nodes -/

/-- Both runs may log the same. -/
private theorem alike_note (L : C.Lawful cfg₁ cfg₂) (severity : Severity) (message : String)
    (fields : List Field) :
    C.Alike i j Eq (Run.note severity message fields) (Run.note severity message fields) :=
  fun _ _ hw => ⟨rfl, L.note _ hw⟩

/-- A literal means the same in scopes that correspond. -/
private theorem alike_literal (L : C.Lawful cfg₁ cfg₂) (l : Option Literal) :
    C.Alike i j Eq (Run.literal i l) (Run.literal j l) :=
  fun w₁ w₂ hw => ⟨Tree.valueOf_congr (L.lookup hw) l, .refl C w₁ w₂⟩

/-- The same variable gets the same value. -/
private theorem alike_setVar (L : C.Lawful cfg₁ cfg₂) (name : String) (v : Value) :
    C.Alike i j Eq (Run.setVar i name v) (Run.setVar j name v) :=
  fun _ _ hw => ⟨rfl, L.change hw (.set name v)⟩

/-- Both stacks get the same operand. -/
private theorem alike_push (L : C.Lawful cfg₁ cfg₂) (v : Value) :
    C.Alike i j Eq (Run.push i v) (Run.push j v) :=
  fun _ _ hw => ⟨rfl, L.change hw (.push v)⟩

/-- Both stacks lose their top. -/
private theorem alike_drop (L : C.Lawful cfg₁ cfg₂) :
    C.Alike i j Eq (Run.changeTree (·.drop i)) (Run.changeTree (·.drop j)) :=
  fun _ _ hw => ⟨rfl, L.change hw .drop⟩

/-- Both stacks have the same top, or both are empty. -/
private theorem alike_pop (L : C.Lawful cfg₁ cfg₂) (fault : Fault) :
    C.Alike i j Eq (Run.pop i fault) (Run.pop j fault) := by
  refine alike_bind alike_get fun w₁ w₂ hw => ?_
  rw [L.top hw]
  cases w₂.tree.top? j with
  | none => exact alike_throw fault
  | some v => exact alike_seq L.alike_drop (alike_pure rfl)

/-- Both runs are at the same question, and are told the same. -/
private theorem alike_checkCanceled (L : C.Lawful cfg₁ cfg₂) :
    C.Alike i j Eq (checkCanceled cfg₁) (checkCanceled cfg₂) := by
  intro w₁ w₂ hw
  -- The counters agree, so both put the same question and both count on from there.
  have hpoll := L.poll hw
  unfold checkCanceled
  refine Run.EndsAlike.bind ?_
  rw [Run.endsAlike_get]
  refine Run.EndsAlike.bind ?_
  show Run.EndsAlike (if cfg₁.canceled.isCanceledAt w₁.polls then throw .canceled else pure ())
    (if cfg₂.canceled.isCanceledAt w₂.polls then throw .canceled else pure ()) _ _
    { w₁ with polls := w₁.polls + 1 } { w₂ with polls := w₂.polls + 1 }
  rw [L.polls hw] at hpoll ⊢
  rw [L.canceled]
  split
  · exact ⟨rfl, hpoll⟩
  · exact ⟨rfl, hpoll⟩

/-- The arrays that the two runs make are one value, because the identities that they get
are the same. -/
private theorem alike_pushRange (L : C.Lawful cfg₁ cfg₂) (items : List Value) :
    C.Alike i j Eq (Native.pushRange i items) (Native.pushRange j items) := by
  intro w₁ w₂ hw
  refine ⟨rfl, ?_⟩
  have hrenew := L.change hw .renew
  have push : ∀ v₁ v₂, v₁ = v₂ → C.Moves w₁ w₂
      { w₁ with tree := { w₁.tree with fresh := w₁.tree.fresh + 1 }.push i v₁ }
      { w₂ with tree := { w₂.tree with fresh := w₂.tree.fresh + 1 }.push j v₂ } := by
    rintro v _ rfl
    exact hrenew.trans (L.change (hrenew i j hw) (.push v))
  exact push _ _ (by rw [L.fresh hw])

/-- Every built-in operation does the same on both sides. -/
theorem native (L : C.Lawful cfg₁ cfg₂) (n : Native) (args : List Value) :
    C.Alike i j C.results (n.invoke i args) (n.invoke j args) := by
  -- The operations of arity two differ in the value that they push and in nothing else.
  have binary : ∀ (fault : Fault) (f : Value → Value → Value),
      C.Alike i j C.results
        (do
          let b ← Run.pop i fault
          let a ← Run.pop i fault
          Run.push i (f a b)
          return .none)
        (do
          let b ← Run.pop j fault
          let a ← Run.pop j fault
          Run.push j (f a b)
          return .none) := by
    intro fault f
    refine alike_let (L.alike_pop fault) fun b => ?_
    refine alike_let (L.alike_pop fault) fun a => ?_
    exact alike_seq (L.alike_push _) (alike_pure L.none)
  cases n with
  | push => exact alike_seq (L.alike_push _) (alike_pure L.none)
  | pop =>
      refine alike_let (L.alike_pop _) fun v => ?_
      cases v with
      | null => exact alike_pure L.none
      | _ => exact alike_pure (L.scalar _)
  | set =>
      refine alike_let (L.alike_pop _) fun v => ?_
      exact alike_seq (L.alike_setVar _ _) (alike_pure L.none)
  | range =>
      unfold Native.invoke
      cases Native.rangeItems args with
      | error fault => exact alike_throw fault
      | ok items =>
          exact alike_seq (L.alike_pushRange items) (alike_pure L.none)
  | add | sub | mul | div | rem | eq | ne | lt | le | gt | ge | and | or => exact binary _ _

/-- Both runs log the same comment. -/
private theorem comment (L : C.Lawful cfg₁ cfg₂) (body : List Node) :
    C.Alike i j C.results (evalComment i body) (evalComment j body) := by
  have value : ∀ n, C.Alike i j Eq (commentValue i n) (commentValue j n) := by
    intro n
    cases n with
    | value l => exact L.alike_literal l
    | foreign type => exact alike_throw _
    | missing => exact alike_throw _
    | _ => exact alike_pure rfl
  refine alike_let (alike_mapM_eq value body) fun vs => ?_
  exact alike_seq (L.alike_note _ _ _) (alike_pure L.none)

/-- Both scopes get the same function. -/
private theorem define (L : C.Lawful cfg₁ cfg₂) (name : Option Literal)
    (params : List (Option Literal)) (body : List Node) :
    C.Alike i j C.results (evalDefine i name params body) (evalDefine j name params body) := by
  have text : ∀ p : Option Literal, C.Alike i j Eq (do return (← Run.literal i p).toText)
      (do return (← Run.literal j p).toText) := by
    intro p
    refine alike_let (L.alike_literal p) fun v => ?_
    exact alike_pure rfl
  refine alike_let (L.alike_literal name) fun v => ?_
  refine alike_let (alike_mapM_eq text params) fun texts => ?_
  refine alike_seq (alike_seq (L.alike_note _ _ _) ?_) (alike_pure L.none)
  intro w₁ w₂ hw
  exact ⟨rfl, L.change hw (.define _ _)⟩

/-- Both scopes get the same bindings. -/
theorem bindAll (L : C.Lawful cfg₁ cfg₂) (bindings : List (Option Literal)) :
    C.Alike i j Eq (bindAll i bindings) (bindAll j bindings) := by
  unfold TagScript.bindAll
  induction bindings with
  | nil => exact alike_pure rfl
  | cons l ls ih =>
      refine alike_seq ?_ ih
      rcases l with _ | l
      · exact alike_pure rfl
      · cases l with
        | binding name value =>
            refine alike_let (L.alike_literal _) fun v => ?_
            exact L.alike_setVar name v
        | _ => exact alike_pure rfl

/-- Both scopes get the same parameters. -/
theorem bindParams (L : C.Lawful cfg₁ cfg₂) (params : List String) (args : List Value) :
    C.Alike i j Eq (bindParams i params args) (bindParams j params args) := by
  induction params generalizing args with
  | nil => exact alike_pure rfl
  | cons param params ih =>
      cases args with
      | nil => exact alike_pure rfl
      | cons arg args => exact alike_seq (L.alike_setVar param arg) (ih args)

/-- Calls by name are alike if calls of user functions are: both scopes find the same
function. -/
private theorem call (L : C.Lawful cfg₁ cfg₂)
    (hcaller : ∀ f i j args, C.Alike i j C.results (caller₁ f i args) (caller₂ f j args))
    (function : Option Literal) (args : List (Option Literal)) :
    C.Alike i j C.results (evalCall caller₁ i function args)
      (evalCall caller₂ j function args) := by
  refine alike_let (L.alike_literal function) fun v => ?_
  refine alike_bind alike_get fun w₁ w₂ hw => ?_
  rw [L.resolve hw]
  cases w₂.tree.resolve j v.toText with
  | none => exact alike_seq (L.alike_note _ _ _) (alike_pure L.none)
  | some f =>
      refine alike_let (alike_mapM_eq L.alike_literal args) fun vs => ?_
      refine alike_seq (L.alike_note _ _ _) ?_
      cases f with
      | user f => exact hcaller f i j vs
      | native n => exact L.native n vs

/-! ### Nodes

The statements are proved together, along the recursion of the evaluation, with both scopes
left open. -/

/-- Results that correspond one by one become one result each, and these correspond. -/
private theorem body (L : C.Lawful cfg₁ cfg₂) {rs₁ rs₂ : List Result}
    (h : List.Forall₂ C.results rs₁ rs₂) : C.results (bodyResult rs₁) (bodyResult rs₂) := by
  cases h with
  | nil => exact L.none
  | cons h hs => exact L.list (.cons h hs)

/-- Two bodies are alike if their nodes are. -/
private theorem alike_body (L : C.Lawful cfg₁ cfg₂) {m₁ : Run σ (List Result)}
    {m₂ : Run τ (List Result)} (hm : C.Alike i j (List.Forall₂ C.results) m₁ m₂) :
    C.Alike i j C.results (do return bodyResult (← m₁)) (do return bodyResult (← m₂)) :=
  alike_bind hm fun _ _ h => alike_pure (L.body h)

/-- Two runs of a function are alike if the bodies are. -/
theorem runFunction (L : C.Lawful cfg₁ cfg₂) {f : UserFunction}
    (hbody : C.Alike i j (List.Forall₂ C.results) (evalAll cfg₁ caller₁ i f.body)
      (evalAll cfg₂ caller₂ j f.body)) (args : List Value) :
    C.Alike i j C.results (TagScript.runFunction cfg₁ caller₁ i f args)
      (TagScript.runFunction cfg₂ caller₂ j f args) := by
  refine alike_seq L.alike_checkCanceled ?_
  exact alike_seq (L.bindParams f.params args) (L.alike_body hbody)

/-- Computations in new scopes are alike where they are entered. -/
private theorem inside (L : C.Lawful cfg₁ cfg₂) {rel : α → β → Prop} {m₁ : Nat → Run σ α}
    {m₂ : Nat → Run τ β} (hm : ∀ c d, C.Alike c d rel (m₁ c) (m₂ d)) :
    C.Alike i j rel (Run.enter i false >>= m₁) (Run.enter j false >>= m₂) := by
  intro w₁ w₂ hw
  refine Run.EndsAlike.bind ?_
  rw [Run.endsAlike_enter]
  have henter := L.enter false hw
  refine (hm _ _ _ _ (L.child false hw)).mono ?_ ?_
  · rintro a b w₁' w₂' ⟨hab, hmoves⟩
    exact ⟨hab, henter.trans hmoves⟩
  · intro w₁' w₂' hmoves
    exact henter.trans hmoves

/-- The rounds of two loops are alike if the bodies are. -/
private theorem loopBody (L : C.Lawful cfg₁ cfg₂) {body : List Node}
    (hbody : C.Alike i j (List.Forall₂ C.results) (evalAll cfg₁ caller₁ i body)
      (evalAll cfg₂ caller₂ j body)) (name : String) (items : List Value) :
    C.Alike i j C.results
      (do
        let results ← items.mapM fun item => do
          checkCanceled cfg₁
          Run.setVar i name item
          return bodyResult (← evalAll cfg₁ caller₁ i body)
        return .list results)
      (do
        let results ← items.mapM fun item => do
          checkCanceled cfg₂
          Run.setVar j name item
          return bodyResult (← evalAll cfg₂ caller₂ j body)
        return .list results) := by
  refine alike_bind (alike_mapM (fun item => ?_) items) fun _ _ h => alike_pure (L.list h)
  refine alike_seq L.alike_checkCanceled ?_
  exact alike_seq (L.alike_setVar name item) (L.alike_body hbody)

/-- Both sinks make the same element. -/
private theorem alike_createElement (L : C.Lawful cfg₁ cfg₂) (tag : String)
    (attributes : List Attribute) :
    C.Alike i j (fun n₁ n₂ => C.results (.output n₁) (.output n₂))
      (Run.createElement cfg₁.sink tag attributes)
      (Run.createElement cfg₂.sink tag attributes) :=
  fun _ _ hw => L.element tag attributes hw

/-- What corresponds is appended to parents that correspond. -/
private theorem alike_flatten (L : C.Lawful cfg₁ cfg₂) {n₁ n₂ : NodeRef} {r₁ r₂ : Result}
    (hn : C.results (.output n₁) (.output n₂)) (hr : C.results r₁ r₂) :
    C.Alike i j Eq (Run.flatten cfg₁.sink n₁ r₁) (Run.flatten cfg₂.sink n₂ r₂) :=
  fun _ _ hw => ⟨rfl, L.flatten hw hn hr⟩

/-- A condition holds in both scopes or in neither. -/
private theorem alike_holds (L : C.Lawful cfg₁ cfg₂) (conditions : List (Option Literal)) :
    C.Alike i j Eq (holds i conditions) (holds j conditions) := by
  cases conditions with
  | nil => exact alike_pure rfl
  | cons c _ => exact alike_let (L.alike_literal c) fun v => alike_pure rfl

mutual

/-- Two evaluations of a node are alike, if calls of user functions are. -/
theorem evalNode (L : C.Lawful cfg₁ cfg₂)
    (hcaller : ∀ f i j args, C.Alike i j C.results (caller₁ f i args) (caller₂ f j args))
    (i j : Nat) :
    (n : Node) → C.Alike i j C.results (TagScript.evalNode cfg₁ caller₁ i n)
      (TagScript.evalNode cfg₂ caller₂ j n)
  | .value l => alike_let (L.alike_literal l) fun v _ _ hw => L.text v.toText hw
  | .comment body => L.comment body
  | .define name params body => L.define name params body
  | .letIn bindings body => by
      simp only [TagScript.evalNode]
      refine L.inside fun c d => alike_seq (L.bindAll bindings) ?_
      exact L.alike_body (evalAll L hcaller c d body)
  | .cond body => by
      simp only [TagScript.evalNode]
      exact evalCond L hcaller i j body
  | .ifThen conditions body => by
      simp only [TagScript.evalNode]
      -- Both sides take the branch, or neither does.
      refine alike_let (L.alike_holds conditions) fun b => ?_
      cases b with
      | true => exact L.alike_body (evalAll L hcaller i j body)
      | false => exact alike_pure L.none
  | .orElse body => by
      simp only [TagScript.evalNode]
      exact L.alike_body (evalAll L hcaller i j body)
  | .forEach name sequence body => by
      simp only [TagScript.evalNode]
      refine alike_let (L.alike_literal name) fun nameValue => ?_
      -- The sequences are one value, so the loops go through the same items.
      refine alike_let (L.alike_literal sequence) fun v => ?_
      cases v.elements? with
      | none => exact alike_seq (L.alike_note _ _ _) (alike_pure L.none)
      | some items => exact L.inside fun c d => L.loopBody (evalAll L hcaller c d body) _ items
  | .call function args => L.call hcaller function args
  | .element tag attributes body => by
      simp only [TagScript.evalNode]
      refine alike_bind (L.alike_createElement tag attributes) fun n₁ n₂ hn => ?_
      refine alike_bind (evalAll L hcaller i j body) fun rs₁ rs₂ hrs => ?_
      exact alike_seq (L.alike_flatten hn (L.body hrs)) (alike_pure hn)
  | .foreign type => alike_throw _
  | .missing => alike_throw _

/-- The same for a list of nodes. -/
theorem evalAll (L : C.Lawful cfg₁ cfg₂)
    (hcaller : ∀ f i j args, C.Alike i j C.results (caller₁ f i args) (caller₂ f j args))
    (i j : Nat) :
    (nodes : List Node) → C.Alike i j (List.Forall₂ C.results)
      (TagScript.evalAll cfg₁ caller₁ i nodes) (TagScript.evalAll cfg₂ caller₂ j nodes)
  | [] => alike_pure .nil
  | n :: rest => by
      simp only [TagScript.evalAll]
      refine alike_bind (evalNode L hcaller i j n) fun r₁ r₂ hr => ?_
      exact alike_bind (evalAll L hcaller i j rest) fun _ _ hrs => alike_pure (.cons hr hrs)

/-- The same for the branches of a conditional: both sides take the same branch. -/
theorem evalCond (L : C.Lawful cfg₁ cfg₂)
    (hcaller : ∀ f i j args, C.Alike i j C.results (caller₁ f i args) (caller₂ f j args))
    (i j : Nat) :
    (nodes : List Node) → C.Alike i j C.results (TagScript.evalCond cfg₁ caller₁ i nodes)
      (TagScript.evalCond cfg₂ caller₂ j nodes)
  | [] => alike_pure L.none
  | n :: rest => by
      -- A child that does not decide is evaluated on both sides, and both go on behind it.
      have passed : C.Alike i j C.results
          (do
            let _ ← TagScript.evalNode cfg₁ caller₁ i n
            TagScript.evalCond cfg₁ caller₁ i rest)
          (do
            let _ ← TagScript.evalNode cfg₂ caller₂ j n
            TagScript.evalCond cfg₂ caller₂ j rest) :=
        alike_bind (evalNode L hcaller i j n) fun _ _ _ => evalCond L hcaller i j rest
      cases n with
      | orElse body => exact L.alike_body (evalAll L hcaller i j body)
      | ifThen conditions body =>
          simp only [TagScript.evalCond]
          refine alike_let (L.alike_holds conditions) fun b => ?_
          cases b with
          | true => exact L.alike_body (evalAll L hcaller i j body)
          | false => exact passed
      | _ => exact passed

end

/-- Two calls of a user function from scopes that correspond are alike, with any budget. -/
theorem callUser (L : C.Lawful cfg₁ cfg₂) (budget : Nat) (f : UserFunction) (i j : Nat)
    (args : List Value) :
    C.Alike i j C.results (TagScript.callUser cfg₁ budget f i args)
      (TagScript.callUser cfg₂ budget f j args) := by
  induction budget generalizing f i j args with
  | zero => exact alike_throw _
  | succ budget ih =>
      intro w₁ w₂ hw
      have hc := L.child true hw
      have henter := L.enter true hw
      have hdepth := congrArg (· + 1) (L.depth hw)
      -- The calls inside the body have one unit of the budget less.
      have run := L.runFunction (L.evalAll ih _ _ f.body) args _ _ hc
      refine Run.endsAlike_callUser cfg₁ cfg₂ budget f i j args L.limit hdepth henter ?_
      refine run.mono ?_ fun _ _ hmoves => henter.trans hmoves
      rintro out₁ out₂ w₁' w₂' ⟨hout, hmoves⟩
      -- The scopes behind the boundaries still correspond, and so do the callers.
      have hmoved := henter.trans hmoves
      have hdrop := L.change (hmoves _ _ hc) .drop
      have hpush := fun v => L.change (hdrop i j (hmoved i j hw)) (.push v)
      rw [L.top (hmoves _ _ hc)]
      exact ⟨hout, (hmoved.trans hdrop).trans (hpush _)⟩

/-- Two renderings are alike, into parents that correspond. -/
theorem render (L : C.Lawful cfg₁ cfg₂) {root₁ root₂ : NodeRef}
    (hroot : C.results (.output root₁) (.output root₂)) (i j : Nat) (nodes : List Node) :
    C.Alike i j Eq (TagScript.render cfg₁ i root₁ nodes)
      (TagScript.render cfg₂ j root₂ nodes) := by
  induction nodes with
  | nil => exact alike_pure rfl
  | cons n nodes ih =>
      have hnode : C.Alike i j C.results (eval cfg₁ i n) (eval cfg₂ j n) := by
        unfold eval
        rw [L.limit]
        exact L.evalNode (L.callUser _) i j n
      refine alike_bind hnode fun r₁ r₂ hr => ?_
      exact alike_seq (L.alike_flatten hroot hr) ih

end Lawful

end Coupling

end TagScript
