import TagScript.Proofs.Eval.Outcome

/-!
# `TagScript.Proofs.Eval.Policy`: one induction for how every evaluation goes

A `Policy` says how evaluations go: which nodes they meet, in which states they set out, what
they do and why they stop. `Policy.Lawful` lists what a policy owes. A node that an evaluation
may meet has only such nodes below it, and so has every function that a scope sees. A policy
allows doing nothing, it is closed under doing one thing after another, and it allows each
single thing that an evaluation does. The list has one entry for each operation of a run, and
one for each way in which a scope or an element encloses a body. What the operations can do
to a tree is `Tree.Edit`, and the faults that they can raise are `Raises`.

A call of a user function leaves the template, and its body has a smaller budget of nested
calls. So the policy of the body may be another one than that of the caller. `Policy.Calls`
is what the two owe to each other.

`Lawful.evalNode` and `Policy.callUser` are what comes of it. Every evaluation of a node that
may be met keeps to a lawful policy if calls of user functions do, and they do if the
policies, one for each budget, fit together. The induction over nodes and budgets is done
here once. A property of all evaluations is then a policy, and its proof the list of laws.
Renderings follow (`Lawful.render`) where the policy does not look at the sink.
-/

set_option autoImplicit false

namespace TagScript

open Log Scope

variable {σ α β : Type}

/-- What an evaluation does in scope `e` of a tree. Of functions it defines only those of a
template, and their bodies consist of nodes that may be met. -/
inductive Scope.Tree.Edit (node : Node → Prop) (e : Nat) (t : Tree) : Tree → Prop where
  | set (name : String) (v : Value) : Edit node e t (t.set e name v)
  | define (name : String) (params : List String) (body : List Node) (h : ∀ n ∈ body, node n) :
      Edit node e t (t.define e name (.user ⟨name, params, body⟩))
  | push (v : Value) : Edit node e t (t.push e v)
  | drop : Edit node e t (t.drop e)
  | renew : Edit node e t { t with fresh := t.fresh + 1 }

/-- Whatever an evaluation does in a scope is a step in it. -/
theorem Scope.Tree.Edit.step {node : Node → Prop} {e : Nat} {t t' : Tree}
    (h : Tree.Edit node e t t') : Tree.Step e t t' := by
  cases h with
  | set name v => exact .set t name v
  | define name params body _ => exact .define t name _
  | push v => exact .push t v
  | drop => exact .drop t
  | renew => exact .renew t _ (Nat.le_succ _)

/-- A range raises one fault, and raises it because it would be too long. -/
theorem Native.rangeItems_eq_error {args : List Value} {f : Fault}
    (h : Native.rangeItems args = .error f) :
    ∃ low high, f = .rangeLimit low high maxRange ∧ ceiling (high - low) > Float.ofNat maxRange := by
  unfold Native.rangeItems at h
  split at h
  · dsimp only at h
    split at h
    · cases h
    · split at h
      · next hlong =>
          cases h
          exact ⟨_, _, rfl, hlong⟩
      · cases h
  · cases h

/-- The faults that an evaluation raises in scope `e` of a tree: an operand is missing, a range
is too long, or a node is met that has no meaning. -/
inductive Raises (node : Node → Prop) (t : Tree) (e : Nat) : Fault → Prop where
  | underflow (function : String) (h : t.top? e = none) : Raises node t e (.underflow function)
  | arity (function : String) (n : Nat) (h : t.top? e = none) :
      Raises node t e (.underflowArity function n)
  | range (args : List Value) {f : Fault} (h : Native.rangeItems args = .error f) :
      Raises node t e f
  | foreign (type : String) (h : node (.foreign type)) : Raises node t e (.unknownNode type)
  | missing (h : node .missing) : Raises node t e (.unknownNode "null")

/-- A call from scope `e` would go deeper than the limit. -/
def Setting.Refuses (cfg : Setting σ) (t : Tree) (e : Nat) : Prop :=
  0 < cfg.limit ∧ cfg.limit < Run.calleeDepth t e

/-- How evaluations go. -/
structure Policy (σ : Type) where
  /-- The nodes that are met. -/
  node : Node → Prop
  /-- `admits e w`: an evaluation in scope `e` may set out from `w`. -/
  admits : Nat → World σ → Prop
  /-- `yields e w rs w'`: from `w` it may come to `w'` and leave the results `rs`. -/
  yields : Nat → World σ → List Result → World σ → Prop
  /-- `stops e w f w'`: begun in `w`, it may stop with the fault `f` in `w'`. -/
  stops : Nat → World σ → Fault → World σ → Prop

namespace Policy

variable {P : Policy σ} {cfg : Setting σ} {caller : Caller σ} {e : Nat} {w w₁ : World σ}

/-- A computation for scope `e` keeps to the policy wherever it may set out. Its value stands
for the results that it leaves. -/
def Keeps (P : Policy σ) (e : Nat) (results : α → List Result) (m : Run σ α) : Prop :=
  ∀ w, P.admits e w → m.Ends (fun a w' => P.yields e w (results a) w') (P.stops e w) w

/-- What a policy owes to hold of every evaluation, calls of user functions apart. -/
structure Lawful (P : Policy σ) (cfg : Setting σ) : Prop where
  /-- The nodes below a node that is met are met too. -/
  children : ∀ {n c}, P.node n → c ∈ n.children → P.node c
  /-- So are those of the functions that a scope sees. -/
  body : ∀ {e w name f n}, P.admits e w → w.tree.resolve e name = some (.user f) →
    n ∈ f.body → P.node n
  /-- From where an evaluation has come to, another may set out. -/
  admits_after : ∀ {e w rs w'}, P.admits e w → P.yields e w rs w' → P.admits e w'
  /-- Doing nothing is allowed. -/
  refl : ∀ e w, P.yields e w [] w
  /-- One thing may be done after another; the results add up. -/
  append : ∀ {e w₁ w₂ w₃ rs rs'}, P.yields e w₁ rs w₂ → P.yields e w₂ rs' w₃ →
    P.yields e w₁ (rs ++ rs') w₃
  /-- A fault may come after anything. -/
  stop : ∀ {e w₁ w₂ w₃ rs f}, P.yields e w₁ rs w₂ → P.stops e w₂ f w₃ → P.stops e w₁ f w₃
  raise : ∀ {e w f}, P.admits e w → Raises P.node w.tree e f → P.stops e w f w
  canceled : ∀ {e w}, P.admits e w → cfg.canceled.isCanceledAt w.polls = true →
    P.stops e w .canceled { w with polls := w.polls + 1 }
  /-- Results may be dropped. -/
  discard : ∀ {e w rs w'}, P.yields e w rs w' → P.yields e w [] w'
  none : ∀ {e w w'}, P.yields e w [] w' → P.yields e w [.none] w'
  scalar : ∀ {e w w'} (v : Value), P.yields e w [] w' → P.yields e w [.scalar v] w'
  /-- Results may be put into a list. -/
  list : ∀ {e w rs w'}, P.yields e w rs w' → P.yields e w [.list rs] w'
  note : ∀ e w (r : Record), P.yields e w [] { w with log := w.log.push r }
  poll : ∀ e w, P.yields e w [] { w with polls := w.polls + 1 }
  change : ∀ {e w} {t : Tree}, Tree.Edit P.node e w.tree t →
    P.yields e w [] { w with tree := t }
  text : ∀ e w (s : String),
    P.yields e w [.output (cfg.sink.text s w.sink).1]
      { w with sink := (cfg.sink.text s w.sink).2 }
  /-- The body of an element sets out from where the element has been created. -/
  admits_element : ∀ {e w} (tag : String) (attributes : List Attribute), P.admits e w →
    P.admits e
      { w with
        sink := cfg.sink.dress (cfg.sink.element tag w.sink).1 attributes
          (cfg.sink.element tag w.sink).2 }
  /-- An element may be created around a body, whose results go into it. -/
  element : ∀ {e w rs w'} (tag : String) (attributes : List Attribute),
    P.yields e
      { w with
        sink := cfg.sink.dress (cfg.sink.element tag w.sink).1 attributes
          (cfg.sink.element tag w.sink).2 } rs w' →
    P.yields e w [.output (cfg.sink.element tag w.sink).1]
      { w' with
        sink := (bodyResult rs).flatten cfg.sink (cfg.sink.element tag w.sink).1 w'.sink }
  element_stop : ∀ {e w f w'} (tag : String) (attributes : List Attribute),
    P.stops e
      { w with
        sink := cfg.sink.dress (cfg.sink.element tag w.sink).1 attributes
          (cfg.sink.element tag w.sink).2 } f w' → P.stops e w f w'
  /-- The body of a new scope sets out from where the scope has been entered. -/
  admits_enter : ∀ {e w}, P.admits e w → P.admits w.tree.scopes.size (w.enter e false)
  /-- What may be done in a new scope may be done where it is entered. -/
  enter : ∀ {e w rs w'}, P.yields w.tree.scopes.size (w.enter e false) rs w' →
    P.yields e w rs w'
  enter_stop : ∀ {e w f w'}, P.stops w.tree.scopes.size (w.enter e false) f w' →
    P.stops e w f w'

/-- What a policy for calls and a policy for the bodies behind them owe to each other. -/
structure Calls (P inner : Policy σ) (cfg : Setting σ) : Prop where
  node : ∀ {n}, P.node n → inner.node n
  /-- A call goes too deep. All that it did was to enter a scope. -/
  refuse : ∀ {e w} (function : String), P.admits e w → cfg.Refuses w.tree e →
    P.stops e w (.depth function cfg.limit) (w.enter e true)
  /-- Else the body sets out behind the boundary. -/
  admits_boundary : ∀ {e w}, P.admits e w → ¬ cfg.Refuses w.tree e →
    inner.admits w.tree.scopes.size (w.enter e true)
  /-- What the body does may be done where it is called, and a value is handed back. -/
  boundary : ∀ {e w rs w'} (v : Value), P.admits e w → ¬ cfg.Refuses w.tree e →
    inner.yields w.tree.scopes.size (w.enter e true) rs w' →
    P.yields e w rs { w' with tree := (w'.tree.drop w.tree.scopes.size).push e v }
  boundary_stop : ∀ {e w f w'}, P.admits e w → ¬ cfg.Refuses w.tree e →
    inner.stops w.tree.scopes.size (w.enter e true) f w' → P.stops e w f w'

namespace Lawful

/-- What is allowed from `w₁` on is allowed from `w` on, if the way from `w` to `w₁`
is. -/
theorem after (L : P.Lawful cfg) {rs : List Result} {results : α → List Result} {m : Run σ α}
    (h : P.yields e w rs w₁)
    (hm : m.Ends (fun a w' => P.yields e w₁ (results a) w') (P.stops e w₁) w₁) :
    m.Ends (fun a w' => P.yields e w (rs ++ results a) w') (P.stops e w) w₁ :=
  hm.mono (fun _ _ hy => L.append h hy) (fun _ _ hs => L.stop h hs)

/-- Two computations one after the other keep to the policy if both do. The first leaves no
results. -/
theorem keeps_bind (L : P.Lawful cfg) {m : Run σ α} {k : α → Run σ β}
    {results : β → List Result} (hm : P.Keeps e (fun _ => []) m)
    (hk : ∀ a, P.Keeps e results (k a)) : P.Keeps e results (m >>= k) := by
  intro w hw
  rw [Run.ends_bind]
  refine (hm w hw).mono ?_ (fun _ _ hs => hs)
  intro a w₁ h
  exact L.after h (hk a w₁ (L.admits_after hw h))

/-- A loop keeps to the policy if its rounds do. The results of the rounds add up. -/
theorem keeps_mapM (L : P.Lawful cfg) {f : α → Run σ β} {results : β → List Result}
    (xs : List α) (hf : ∀ a ∈ xs, P.Keeps e results (f a)) :
    P.Keeps e (fun bs => bs.flatMap results) (xs.mapM f) := by
  induction xs with
  | nil => exact fun w _ => L.refl e w
  | cons x xs ih =>
      intro w hw
      simp only [List.mapM_cons, Run.ends_bind, Run.ends_pure]
      refine (hf x List.mem_cons_self w hw).mono ?_ (fun _ _ hs => hs)
      intro b w₁ h
      have rest := ih fun a ha => hf a (List.mem_cons_of_mem x ha)
      exact L.after h (rest w₁ (L.admits_after hw h))

/-! ### The parts of an evaluation that contain no nodes -/

/-- Setting a variable is an edit. -/
private theorem keeps_setVar (L : P.Lawful cfg) (name : String) (v : Value) :
    P.Keeps e (fun _ => []) (Run.setVar e name v : Run σ Unit) :=
  fun _ _ => L.change (.set name v)

/-- So is pushing an operand. -/
private theorem keeps_push (L : P.Lawful cfg) (v : Value) :
    P.Keeps e (fun _ => []) (Run.push e v : Run σ Unit) :=
  fun _ _ => L.change (.push v)

/-- Taking the top off the stack is one as well, or else the fault is raised that a missing operand
raises. -/
private theorem keeps_pop (L : P.Lawful cfg) {fault : Fault}
    (hfault : ∀ t : Tree, t.top? e = Option.none → Raises P.node t e fault) :
    P.Keeps e (fun _ => []) (Run.pop e fault : Run σ Value) :=
  fun w hw => Run.ends_pop e fault (fun _ _ => L.change .drop)
    (fun hempty => L.raise hw (hfault w.tree hempty))

/-- Asking whether the run is cancelled leaves nothing, or stops the run. -/
private theorem keeps_checkCanceled (L : P.Lawful cfg) :
    P.Keeps e (fun _ => []) (checkCanceled cfg) := by
  intro w hw
  rw [Run.ends_checkCanceled]
  split
  · next hcanceled => exact L.canceled hw hcanceled
  · exact L.poll e w

/-- Doing nothing leaves no output. -/
private theorem keeps_none (L : P.Lawful cfg) :
    P.Keeps e (fun r => [r]) (pure .none : Run σ Result) :=
  fun w _ => L.none (L.refl e w)

/-- Every built-in operation keeps to the policy. -/
theorem native (L : P.Lawful cfg) (n : Native) (args : List Value) :
    P.Keeps e (fun r => [r]) (n.invoke e args) := by
  -- The operations of arity two differ in the value that they push and in nothing else.
  have binary : ∀ (name : String) (arity : Nat) (f : Value → Value → Value),
      P.Keeps e (fun r => [r]) (do
        let b ← Run.pop e (.underflowArity name arity)
        let a ← Run.pop e (.underflowArity name arity)
        Run.push e (f a b)
        return .none : Run σ Result) := by
    intro name arity f
    refine L.keeps_bind (L.keeps_pop fun _ => .arity name arity) fun b => ?_
    refine L.keeps_bind (L.keeps_pop fun _ => .arity name arity) fun a => ?_
    exact L.keeps_bind (L.keeps_push _) fun _ => L.keeps_none
  cases n with
  | push => exact L.keeps_bind (L.keeps_push _) fun _ => L.keeps_none
  | pop =>
      refine L.keeps_bind (L.keeps_pop fun _ => .underflow "pop") fun v => ?_
      cases v with
      | null => exact L.keeps_none
      | _ => exact fun w _ => L.scalar _ (L.refl e w)
  | set =>
      refine L.keeps_bind (L.keeps_pop fun _ => .underflow "set") fun v => ?_
      exact L.keeps_bind (L.keeps_setVar _ _) fun _ => L.keeps_none
  | range =>
      unfold Native.invoke
      dsimp only
      cases hitems : Native.rangeItems args with
      | error fault => exact fun w hw => L.raise hw (.range args hitems)
      | ok items =>
          -- The identity of the new array is used up before the array is pushed.
          refine L.keeps_bind (fun w _ => ?_) fun _ => L.keeps_none
          have hfresh := L.change (w := w) (.renew (e := e))
          exact L.append hfresh (L.change (.push _))
  | add | sub | mul | div | rem | eq | ne | lt | le | gt | ge | and | or => exact binary _ _ _

/-- A comment only looks, or stops at a node that has no meaning, and writes to the log. -/
private theorem comment (L : P.Lawful cfg) {body : List Node} (hbody : ∀ n ∈ body, P.node n) :
    P.Keeps e (fun r => [r]) (evalComment e body : Run σ Result) := by
  have value : ∀ n ∈ body, P.Keeps e (fun _ => []) (commentValue e n) := by
    intro n hn
    cases n with
    | foreign type => exact fun w hw => L.raise hw (.foreign type (hbody _ hn))
    | missing => exact fun w hw => L.raise hw (.missing (hbody _ hn))
    | _ => exact fun w _ => L.refl e w
  have values := L.keeps_mapM body value
  have hnothing : ∀ vs : List Value, vs.flatMap (fun _ => ([] : List Result)) = [] := by simp
  simp only [hnothing] at values
  refine L.keeps_bind values fun vs => ?_
  exact L.keeps_bind (fun w _ => L.note e w _) fun _ => L.keeps_none

/-- Defining a function is an edit if its body consists of nodes that may be met. -/
private theorem define (L : P.Lawful cfg) (name : Option Literal)
    (params : List (Option Literal)) {body : List Node} (hbody : ∀ n ∈ body, P.node n) :
    P.Keeps e (fun r => [r]) (evalDefine e name params body : Run σ Result) := by
  intro w _
  simp only [evalDefine, Run.defineFunc, Run.ends_bind, Run.ends_literal, Run.ends_mapM_text,
    Run.ends_note, Run.ends_changeTree, Run.ends_pure]
  exact L.none (L.append (L.note e w _) (L.change (.define _ _ body hbody)))

/-- The bindings of a scope are set one after another. -/
theorem bindAll (L : P.Lawful cfg) (bindings : List (Option Literal)) :
    P.Keeps e (fun _ => []) (bindAll e bindings : Run σ Unit) := by
  unfold TagScript.bindAll
  induction bindings with
  | nil => exact fun w _ => L.refl e w
  | cons l ls ih =>
      refine L.keeps_bind ?_ fun _ => ih
      -- Only bindings bind. Anything else in the list is passed over.
      rcases l with _ | l
      · exact fun w _ => L.refl e w
      · cases l with
        | binding name value => exact fun w _ => L.change (.set _ _)
        | _ => exact fun w _ => L.refl e w

/-- The parameters of a function are set one after another. -/
theorem bindParams (L : P.Lawful cfg) (params : List String) (args : List Value) :
    P.Keeps e (fun _ => []) (bindParams e params args : Run σ Unit) := by
  induction params generalizing args with
  | nil => exact fun w _ => L.refl e w
  | cons param params ih =>
      cases args with
      | nil => exact fun w _ => L.refl e w
      | cons arg args => exact L.keeps_bind (L.keeps_setVar param arg) fun _ => ih args

/-- A call keeps to the policy if calls of user functions do. -/
private theorem call (L : P.Lawful cfg)
    (hcaller : ∀ f e args, (∀ n ∈ f.body, P.node n) →
      P.Keeps e (fun r => [r]) (caller f e args))
    (function : Option Literal) (args : List (Option Literal)) :
    P.Keeps e (fun r => [r]) (evalCall caller e function args) := by
  intro w hw
  simp only [evalCall, Run.ends_bind, Run.ends_literal, Run.ends_get]
  cases hf : w.tree.resolve e (w.tree.valueOf e function).toText with
  | none => exact L.none (L.note e w _)
  | some f =>
      simp only [Run.ends_bind, Run.ends_mapM_literal, Run.ends_note]
      refine L.after (L.note e w _) ?_
      have hnoted := fun r => L.admits_after hw (L.note e w r)
      cases f with
      | user f => exact hcaller f e _ (fun n hn => L.body hw hf hn) _ (hnoted _)
      | native n => exact L.native n _ _ (hnoted _)

/-! ### Nodes

The three statements below are proved together, along the recursion of the evaluation: over
the nodes of a template, with the scope left open, because a body runs in the scope around it
or in a new one. -/

/-- The results of a body, put together, keep to the policy if the body does. -/
private theorem keeps_body (L : P.Lawful cfg) {m : Run σ (List Result)}
    (hm : P.Keeps e (fun rs => rs) m) :
    P.Keeps e (fun r => [r]) (do return bodyResult (← m)) := by
  intro w hw
  rw [Run.ends_bind]
  refine (hm w hw).mono ?_ (fun _ _ hs => hs)
  intro rs w₁ hy
  cases rs with
  | nil => exact L.none hy
  | cons r rs => exact L.list hy

/-- The body of a scope with bindings keeps to the policy of that scope. -/
theorem letBody (L : P.Lawful cfg) {body : List Node}
    (hbody : P.Keeps e (fun rs => rs) (TagScript.evalAll cfg caller e body))
    (bindings : List (Option Literal)) :
    P.Keeps e (fun r => [r]) (do
      TagScript.bindAll e bindings
      return bodyResult (← TagScript.evalAll cfg caller e body)) :=
  L.keeps_bind (L.bindAll bindings) fun _ => L.keeps_body hbody

/-- The rounds of a loop keep to the policy of the loop's scope. -/
theorem loopBody (L : P.Lawful cfg) {body : List Node}
    (hbody : P.Keeps e (fun rs => rs) (TagScript.evalAll cfg caller e body)) (name : String)
    (items : List Value) :
    P.Keeps e (fun r => [r]) (do
      let results ← items.mapM fun item => do
        checkCanceled cfg
        Run.setVar e name item
        return bodyResult (← TagScript.evalAll cfg caller e body)
      return .list results) := by
  have round : ∀ item ∈ items, P.Keeps e (fun r => [r]) (do
      checkCanceled cfg
      Run.setVar e name item
      return bodyResult (← TagScript.evalAll cfg caller e body)) := by
    intro item _
    refine L.keeps_bind L.keeps_checkCanceled fun _ => ?_
    exact L.keeps_bind (L.keeps_setVar _ _) fun _ => L.keeps_body hbody
  have rounds := L.keeps_mapM items round
  simp only [List.flatMap_singleton'] at rounds
  intro w hw
  rw [Run.ends_bind]
  exact (rounds w hw).mono (fun _ _ hy => L.list hy) (fun _ _ hs => hs)

/-- The run of a function keeps to the policy of the function's scope. -/
theorem runFunction (L : P.Lawful cfg) {f : UserFunction}
    (hbody : P.Keeps e (fun rs => rs) (TagScript.evalAll cfg caller e f.body))
    (args : List Value) :
    P.Keeps e (fun r => [r]) (TagScript.runFunction cfg caller e f args) := by
  refine L.keeps_bind L.keeps_checkCanceled fun _ => ?_
  exact L.keeps_bind (L.bindParams f.params args) fun _ => L.keeps_body hbody

/-- A body that runs in a new scope keeps to the policy of the scope around it. -/
private theorem inside (L : P.Lawful cfg) {m : Nat → Run σ α} {results : α → List Result}
    (hm : ∀ child, P.Keeps child results (m child)) :
    P.Keeps e results (Run.enter e false >>= m) := by
  intro w hw
  rw [Run.ends_bind, Run.ends_enter]
  exact (hm _ _ (L.admits_enter hw)).mono (fun _ _ hy => L.enter hy)
    (fun _ _ hs => L.enter_stop hs)

mutual

/-- Every evaluation of a node that may be met keeps to a lawful policy, if calls of user
functions do. -/
theorem evalNode (L : P.Lawful cfg)
    (hcaller : ∀ f e args, (∀ n ∈ f.body, P.node n) →
      P.Keeps e (fun r => [r]) (caller f e args)) (e : Nat) :
    (n : Node) → P.node n → P.Keeps e (fun r => [r]) (TagScript.evalNode cfg caller e n)
  | .value l, _ => fun w _ => L.text e w _
  | .comment body, hn => L.comment fun _ hc => L.children hn hc
  | .define name params body, hn => L.define name params fun _ hc => L.children hn hc
  | .letIn bindings body, hn => by
      simp only [TagScript.evalNode]
      have hbody := fun child => evalAll L hcaller child body fun _ hc => L.children hn hc
      exact L.inside fun child => L.letBody (hbody child) bindings
  | .cond body, hn => by
      simp only [TagScript.evalNode]
      exact evalCond L hcaller e body fun _ hc => L.children hn hc
  | .ifThen conditions body, hn => by
      intro w hw
      -- A condition is only looked up, so the body sets out from where the branch did.
      simp only [TagScript.evalNode, Run.ends_bind, Run.ends_holds]
      split
      · exact L.keeps_body (evalAll L hcaller e body fun _ hc => L.children hn hc) w hw
      · exact L.keeps_none w hw
  | .orElse body, hn => by
      simp only [TagScript.evalNode]
      exact L.keeps_body (evalAll L hcaller e body fun _ hc => L.children hn hc)
  | .forEach name sequence body, hn => by
      intro w hw
      simp only [TagScript.evalNode, Run.ends_bind, Run.ends_literal]
      have hbody := fun child => evalAll L hcaller child body fun _ hc => L.children hn hc
      cases (w.tree.valueOf e sequence).elements? with
      | none => exact L.none (L.note e w _)
      | some items => exact L.inside (fun child => L.loopBody (hbody child) _ items) w hw
  | .call function args, _ => L.call hcaller function args
  | .element tag attributes body, hn => by
      intro w hw
      simp only [TagScript.evalNode, Run.ends_bind, Run.ends_createElement, Run.ends_flatten,
        Run.ends_pure]
      -- The body sets out with the element in the sink. What it comes to is put in the element.
      have hbody := evalAll L hcaller e body fun _ hc => L.children hn hc
      exact (hbody _ (L.admits_element tag attributes hw)).mono
        (fun _ _ hy => L.element tag attributes hy)
        (fun _ _ hs => L.element_stop tag attributes hs)
  | .foreign type, hn => fun _ hw => L.raise hw (.foreign type hn)
  | .missing, hn => fun _ hw => L.raise hw (.missing hn)

/-- The same for a list of nodes; the results of the nodes add up. -/
theorem evalAll (L : P.Lawful cfg)
    (hcaller : ∀ f e args, (∀ n ∈ f.body, P.node n) →
      P.Keeps e (fun r => [r]) (caller f e args)) (e : Nat) :
    (nodes : List Node) → (∀ n ∈ nodes, P.node n) →
      P.Keeps e (fun rs => rs) (TagScript.evalAll cfg caller e nodes)
  | [], _ => fun w _ => L.refl e w
  | n :: rest, hn => by
      intro w hw
      simp only [TagScript.evalAll, Run.ends_bind, Run.ends_pure]
      refine (evalNode L hcaller e n (hn n List.mem_cons_self) w hw).mono ?_ (fun _ _ hs => hs)
      intro r w₁ h
      have hrest := evalAll L hcaller e rest fun c hc => hn c (List.mem_cons_of_mem n hc)
      exact L.after h (hrest w₁ (L.admits_after hw h))

/-- The same for the branches of a conditional. What the nodes before the deciding branch
leave is dropped. -/
theorem evalCond (L : P.Lawful cfg)
    (hcaller : ∀ f e args, (∀ n ∈ f.body, P.node n) →
      P.Keeps e (fun r => [r]) (caller f e args)) (e : Nat) :
    (nodes : List Node) → (∀ n ∈ nodes, P.node n) →
      P.Keeps e (fun r => [r]) (TagScript.evalCond cfg caller e nodes)
  | [], _ => L.keeps_none
  | n :: rest, hn => by
      have hfirst := hn n List.mem_cons_self
      have hrest := evalCond L hcaller e rest fun c hc => hn c (List.mem_cons_of_mem n hc)
      -- A node that is no branch is evaluated for what it does to the state.
      have passed : P.Keeps e (fun r => [r]) (do
          let _ ← TagScript.evalNode cfg caller e n
          TagScript.evalCond cfg caller e rest) := by
        intro w hw
        rw [Run.ends_bind]
        refine (evalNode L hcaller e n hfirst w hw).mono ?_ (fun _ _ hs => hs)
        intro r w₁ h
        exact L.after (L.discard h) (hrest w₁ (L.admits_after hw h))
      cases n with
      | orElse body =>
          exact L.keeps_body (evalAll L hcaller e body fun _ hc => L.children hfirst hc)
      | ifThen conditions body =>
          intro w hw
          simp only [TagScript.evalCond, Run.ends_bind, Run.ends_holds]
          split
          · exact L.keeps_body (evalAll L hcaller e body fun _ hc => L.children hfirst hc) w hw
          · exact passed w hw
      | _ => exact passed

end

end Lawful

/-- A rendering keeps to a policy that does not look at the sink, if calls of user functions
do. The results go into the sink. -/
theorem Lawful.render (L : P.Lawful cfg)
    (hcaller : ∀ f e args, (∀ n ∈ f.body, P.node n) →
      P.Keeps e (fun r => [r]) (TagScript.callUser cfg (callBudget cfg.limit) f e args))
    (hsink : ∀ {e w rs w'} (s : σ), P.yields e w rs w' → P.yields e w rs { w' with sink := s })
    (e : Nat) (parent : NodeRef) (nodes : List Node) (hnodes : ∀ n ∈ nodes, P.node n) :
    P.Keeps e (fun _ => []) (TagScript.render cfg e parent nodes) := by
  induction nodes with
  | nil => exact fun w _ => L.refl e w
  | cons n rest ih =>
      intro w hw
      simp only [TagScript.render, eval, Run.ends_bind, Run.ends_flatten]
      refine (L.evalNode hcaller e n (hnodes n List.mem_cons_self) w hw).mono ?_
        (fun _ _ hs => hs)
      intro r w₁ h
      have hflat := hsink (r.flatten cfg.sink parent w₁.sink) (L.discard h)
      have hrest := ih fun c hc => hnodes c (List.mem_cons_of_mem n hc)
      exact L.after hflat (hrest _ (L.admits_after hw hflat))

/-- Every call of a user function keeps to the policy of its budget, if each of the policies
is lawful and each fits the one for a budget that is smaller by one. With no budget left no
call may be begun where that is not allowed to stop the run. -/
theorem callUser {P : Nat → Policy σ} (L : ∀ budget, (P budget).Lawful cfg)
    (hcalls : ∀ budget, (P (budget + 1)).Calls (P budget) cfg)
    (hspent : ∀ e w, (P 0).admits e w → (P 0).stops e w .exhausted w) (budget : Nat)
    (f : UserFunction) (e : Nat) (args : List Value) (hf : ∀ n ∈ f.body, (P budget).node n) :
    (P budget).Keeps e (fun r => [r]) (TagScript.callUser cfg budget f e args) := by
  induction budget generalizing f e args with
  | zero => exact fun w hw => hspent e w hw
  | succ budget ih =>
      intro w hw
      have C := hcalls budget
      -- The calls inside the body have one unit of the budget less.
      have run := fun child => (L budget).runFunction
        ((L budget).evalAll (fun f e args => ih f e args) child f.body fun n hn =>
          C.node (hf n hn)) args
      rw [Run.ends_callUser]
      split
      · next hdeep => exact C.refuse f.name hw hdeep
      · next hfits =>
          exact (run _ _ (C.admits_boundary hw hfits)).mono
            (fun _ _ hy => C.boundary _ hw hfits hy)
            (fun _ _ hs => C.boundary_stop hw hfits hs)

end Policy

end TagScript
