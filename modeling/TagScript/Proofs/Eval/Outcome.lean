import TagScript.Eval.Node
import TagScript.Proofs.Scope.Reachable

/-!
# `TagScript.Proofs.Eval.Outcome`: how a computation ends

A computation on the state of a run ends in one of two ways: it gives a value, or
it stops with a fault. Either way it leaves a state behind.

* `Run.Ends m Q E w`: begun in `w`, the computation `m` gives a value and a state in
  `Q`, or stops with a fault and a state in `E`.
* `Run.EndsAlike m₁ m₂ Q E w₁ w₂`: begun in `w₁` and `w₂`, the two computations both
  give values, related by `Q` together with the states, or both stop with the same
  fault in states related by `E`.

The operations of a run have rules for `Ends` that say where they end, so that a proof about
a `do` block reads the block from its first line to its last. `EndsAlike` is two of these,
one inside the other, so the same rules serve for it; `EndsAlike.bind` reads two blocks in
step with each other.
-/

set_option autoImplicit false

namespace TagScript

open Log Scope

variable {σ τ α β γ δ : Type}

/-- Begun in `w`, the computation gives a value and a state in `Q`, or stops with a
fault and a state in `E`. -/
def Run.Ends (m : Run σ α) (Q : α → World σ → Prop) (E : Fault → World σ → Prop)
    (w : World σ) : Prop :=
  match m.run.run w with
  | (.ok a, w') => Q a w'
  | (.error f, w') => E f w'

/-- Begun in `w₁` and `w₂`, both computations give values, which `Q` relates together
with the states, or both stop with the same fault, in states that `E` relates. -/
def Run.EndsAlike (m₁ : Run σ α) (m₂ : Run τ β) (Q : α → β → World σ → World τ → Prop)
    (E : World σ → World τ → Prop) (w₁ : World σ) (w₂ : World τ) : Prop :=
  m₁.Ends (fun a w₁' => m₂.Ends (fun b w₂' => Q a b w₁' w₂') (fun _ _ => False) w₂)
    (fun f w₁' => m₂.Ends (fun _ _ => False) (fun g w₂' => f = g ∧ E w₁' w₂') w₂) w₁

/-- Set the attributes of an output node in order. -/
def Sink.dress (sink : Sink σ) (node : NodeRef) (attributes : List Attribute) (s : σ) : σ :=
  attributes.foldl (fun s a => sink.setAttribute node a.name a.value s) s

/-- The state after entering a scope. -/
def World.enter (w : World σ) (scope : Nat) (boundary : Bool) : World σ :=
  { w with tree := (w.tree.enter scope boundary).2 }

/-- Whether the first condition holds in a scope of a tree. -/
def Scope.Tree.holds (t : Tree) (scope : Nat) : List (Option Literal) → Bool
  | [] => false
  | c :: _ => (t.valueOf scope c).truthy

namespace Run

section One

variable {Q Q' : α → World σ → Prop} {E E' : Fault → World σ → Prop} {w : World σ}

/-- The rule of consequence. -/
theorem Ends.mono {m : Run σ α} (h : m.Ends Q E w) (hQ : ∀ a w', Q a w' → Q' a w')
    (hE : ∀ f w', E f w' → E' f w') : m.Ends Q' E' w := by
  unfold Ends at h ⊢
  rcases hm : m.run.run w with ⟨_ | _, w'⟩
  · rw [hm] at h
    exact hE _ _ h
  · rw [hm] at h
    exact hQ _ _ h

/-- What holds of the two ways in which a computation can end holds of its end. -/
theorem ends_of_run {m : Run σ α} (hok : ∀ a w', m.run.run w = (.ok a, w') → Q a w')
    (herr : ∀ f w', m.run.run w = (.error f, w') → E f w') : m.Ends Q E w := by
  unfold Ends
  rcases hm : m.run.run w with ⟨_ | _, w'⟩
  · exact herr _ _ hm
  · exact hok _ _ hm

/-- The state after a computation that gave a value. -/
theorem Ends.of_ok {m : Run σ α} (h : m.Ends Q E w) {a : α} {w' : World σ}
    (hm : m.run.run w = (.ok a, w')) : Q a w' := by
  unfold Ends at h
  rw [hm] at h
  exact h

/-- The state after a computation that stopped. -/
theorem Ends.of_error {m : Run σ α} (h : m.Ends Q E w) {f : Fault} {w' : World σ}
    (hm : m.run.run w = (.error f, w')) : E f w' := by
  unfold Ends at h
  rw [hm] at h
  exact h

/-- What holds of the state at either end holds of the state after a computation. -/
theorem Ends.state {m : Run σ α} {P : World σ → Prop} (h : m.Ends (fun _ => P) (fun _ => P) w) :
    P (m.run.run w).2 := by
  unfold Ends at h
  rcases hm : m.run.run w with ⟨_ | _, w'⟩
  · rw [hm] at h
    exact h
  · rw [hm] at h
    exact h

/-- A computation that can only end in one way ends so. -/
theorem Ends.run_eq {m : Run σ α} {a : α} {w' : World σ}
    (h : m.Ends (fun b w₁ => b = a ∧ w₁ = w') (fun _ _ => False) w) :
    m.run.run w = (.ok a, w') := by
  rcases hm : m.run.run w with ⟨f | b, w₁⟩
  · exact (h.of_error hm).elim
  · obtain ⟨rfl, rfl⟩ := h.of_ok hm
    rfl

/-- A value that is given at once is given in the state as it is. -/
@[simp]
theorem ends_pure (a : α) : (pure a : Run σ α).Ends Q E w ↔ Q a w :=
  Iff.rfl

/-- A block runs its first line, and its rest where that gave a value. -/
theorem run_bind (m : Run σ β) (k : β → Run σ α) (w : World σ) :
    (m >>= k).run.run w = match m.run.run w with
      | (.ok b, w') => (k b).run.run w'
      | (.error f, w') => (.error f, w') := by
  simp only [ExceptT.run, StateT.run, Bind.bind, ExceptT.bind, ExceptT.mk, StateT.bind,
    ExceptT.bindCont]
  rcases m w with ⟨_ | _, w'⟩
  · rfl
  · rfl

/-- A block gives a value where its first line and then its rest give one. -/
theorem run_bind_eq_ok_iff {m : Run σ β} {k : β → Run σ α} {w w' : World σ} {a : α} :
    (m >>= k).run.run w = (.ok a, w')
      ↔ ∃ b w₁, m.run.run w = (.ok b, w₁) ∧ (k b).run.run w₁ = (.ok a, w') := by
  rw [run_bind]
  constructor
  · intro h
    rcases hm : m.run.run w with ⟨_ | b, w₁⟩
    · rw [hm] at h
      cases h
    · rw [hm] at h
      exact ⟨b, w₁, rfl, h⟩
  · rintro ⟨b, w₁, hm, hk⟩
    rw [hm]
    exact hk

/-- A block ends where its rest ends, begun where its first line gave a value. -/
@[simp]
theorem ends_bind (m : Run σ β) (k : β → Run σ α) :
    (m >>= k).Ends Q E w ↔ m.Ends (fun b w' => (k b).Ends Q E w') E w := by
  unfold Ends
  rw [run_bind]
  rcases m.run.run w with ⟨_ | _, w'⟩
  · exact Iff.rfl
  · exact Iff.rfl

/-- Looking at the state gives it and leaves it as it is. -/
@[simp]
theorem ends_get {Q : World σ → World σ → Prop} :
    (get : Run σ (World σ)).Ends Q E w ↔ Q w w :=
  Iff.rfl

/-- A record is added to the log. -/
@[simp]
theorem ends_note {Q : Unit → World σ → Prop} (severity : Severity) (message : String)
    (fields : List Field) :
    (note severity message fields).Ends Q E w
      ↔ Q () { w with log := w.log.push (.at severity message fields) } :=
  Iff.rfl

/-- The tree is changed, and nothing else. -/
@[simp]
theorem ends_changeTree {Q : Unit → World σ → Prop} (f : Tree → Tree) :
    (changeTree f).Ends Q E w ↔ Q () { w with tree := f w.tree } :=
  Iff.rfl

/-- A literal is looked up in the tree, and nothing is changed. -/
theorem run_literal (scope : Nat) (l : Option Literal) (w : World σ) :
    (literal scope l).run.run w = (.ok (w.tree.valueOf scope l), w) :=
  rfl

/-- So is it where it is followed by more. -/
@[simp]
theorem ends_literal {Q : Value → World σ → Prop} (scope : Nat) (l : Option Literal) :
    (literal scope l).Ends Q E w ↔ Q (w.tree.valueOf scope l) w :=
  Iff.rfl

/-- The scope that is entered is the next one of the tree. -/
theorem run_enter (scope : Nat) (boundary : Bool) (w : World σ) :
    (enter scope boundary).run.run w = (.ok w.tree.scopes.size, w.enter scope boundary) := by
  cases boundary <;> rfl

/-- The same where it is followed by more. -/
@[simp]
theorem ends_enter {Q : Nat → World σ → Prop} (scope : Nat) (boundary : Bool) :
    (enter scope boundary).Ends Q E w ↔ Q w.tree.scopes.size (w.enter scope boundary) := by
  rw [Ends, run_enter]

/-- An operand is put on the stack of the scope. -/
@[simp]
theorem ends_push {Q : Unit → World σ → Prop} (scope : Nat) (v : Value) :
    (push scope v).Ends Q E w ↔ Q () { w with tree := w.tree.push scope v } :=
  Iff.rfl

/-- An operand is taken off the stack, or the stack is empty and the fault stops the
run with nothing changed. -/
theorem ends_pop {Q : Value → World σ → Prop} (scope : Nat) (fault : Fault)
    (htop : ∀ v, w.tree.top? scope = some v → Q v { w with tree := w.tree.drop scope })
    (hempty : w.tree.top? scope = none → E fault w) : (pop scope fault).Ends Q E w := by
  unfold pop
  rw [ends_bind, ends_get]
  cases h : w.tree.top? scope with
  | none => exact hempty h
  | some v => exact htop v h

/-- The sink makes an element, and its attributes are set in order. -/
@[simp]
theorem ends_createElement {Q : NodeRef → World σ → Prop} (sink : Sink σ) (tag : String)
    (attributes : List Attribute) :
    (createElement sink tag attributes).Ends Q E w
      ↔ Q (sink.element tag w.sink).1
          { w with
            sink := sink.dress (sink.element tag w.sink).1 attributes
              (sink.element tag w.sink).2 } :=
  Iff.rfl

/-- The nodes of a result are appended to the parent. -/
@[simp]
theorem ends_flatten {Q : Unit → World σ → Prop} (sink : Sink σ) (parent : NodeRef)
    (r : Result) :
    (flatten sink parent r).Ends Q E w ↔ Q () { w with sink := r.flatten sink parent w.sink } :=
  Iff.rfl

/-- A run that asks whether it is cancelled is told so and stops, or goes on. It has
asked once more either way. -/
theorem run_checkCanceled (cfg : Setting σ) (w : World σ) :
    (checkCanceled cfg).run.run w
      = (if cfg.canceled.isCanceledAt w.polls then .error .canceled else .ok (),
          { w with polls := w.polls + 1 }) := by
  unfold checkCanceled
  show (if _ then _ else _ : Run σ Unit).run.run { w with polls := w.polls + 1 } = _
  split <;> rfl

/-- The run asks once, and stops when it is told that it is cancelled. -/
theorem ends_checkCanceled {Q : Unit → World σ → Prop} (cfg : Setting σ) :
    (checkCanceled cfg).Ends Q E w
      ↔ if cfg.canceled.isCanceledAt w.polls then E .canceled { w with polls := w.polls + 1 }
        else Q () { w with polls := w.polls + 1 } := by
  rw [Ends, run_checkCanceled]
  cases cfg.canceled.isCanceledAt w.polls <;> exact Iff.rfl

/-- A condition is looked up in the tree, and nothing is changed. -/
theorem run_holds (scope : Nat) (conditions : List (Option Literal)) (w : World σ) :
    (holds scope conditions).run.run w = (.ok (w.tree.holds scope conditions), w) := by
  cases conditions <;> rfl

/-- The same where it is followed by more. -/
@[simp]
theorem ends_holds {Q : Bool → World σ → Prop} (scope : Nat)
    (conditions : List (Option Literal)) :
    (holds scope conditions).Ends Q E w ↔ Q (w.tree.holds scope conditions) w := by
  rw [Ends, run_holds]

/-- Reading literals one after another reads each in the same state. -/
@[simp]
theorem ends_mapM_literal {Q : List Value → World σ → Prop} (scope : Nat)
    (ls : List (Option Literal)) :
    (ls.mapM (literal scope)).Ends Q E w ↔ Q (ls.map (w.tree.valueOf scope)) w := by
  induction ls generalizing Q with
  | nil => exact Iff.rfl
  | cons l ls ih =>
      simp only [List.mapM_cons, ends_bind, ends_literal, ends_pure, ih, List.map_cons]

/-- The same when each literal is read as a text. -/
@[simp]
theorem ends_mapM_text {Q : List String → World σ → Prop} (scope : Nat)
    (ls : List (Option Literal)) :
    (ls.mapM fun l => do return (← literal scope l).toText).Ends Q E w
      ↔ Q (ls.map fun l => (w.tree.valueOf scope l).toText) w := by
  induction ls generalizing Q with
  | nil => exact Iff.rfl
  | cons l ls ih =>
      simp only [List.mapM_cons, ends_bind, ends_literal, ends_pure, ih, List.map_cons]

/-- The values of a comment's children are looked up, or a child has none and the run
stops. The state stays as it is. -/
theorem ends_mapM_commentValue (scope : Nat) (body : List Node) (w : World σ) :
    (body.mapM (commentValue scope)).Ends (fun _ w' => w' = w) (fun _ w' => w' = w) w := by
  induction body with
  | nil => exact rfl
  | cons n body ih =>
      have value : (commentValue scope n).Ends (fun _ w' => w' = w) (fun _ w' => w' = w) w := by
        cases n <;> exact rfl
      simp only [List.mapM_cons, ends_bind, ends_pure]
      refine value.mono ?_ (fun _ _ hs => hs)
      rintro _ _ rfl
      exact ih

/-- The depth of a scope that a call from `scope` would run in. -/
def calleeDepth (t : Tree) (scope : Nat) : Nat :=
  ((t.get? scope).getD default).depth + 1

/-- A call goes too deep and stops, or the function runs behind a boundary and hands its
value back. -/
theorem run_callUser (cfg : Setting σ) (budget : Nat) (f : UserFunction) (scope : Nat)
    (args : List Value) (w : World σ) :
    (callUser cfg (budget + 1) f scope args).run.run w
      = if 0 < cfg.limit ∧ cfg.limit < calleeDepth w.tree scope then
          (.error (.depth f.name cfg.limit), w.enter scope true)
        else
          (do
            let out ← runFunction cfg (callUser cfg budget) w.tree.scopes.size f args
            handBack w.tree.scopes.size scope
            return out : Run σ Result).run.run (w.enter scope true) := by
  -- The depth that the call looks at is that of the scope that it has just entered.
  have hdepth : (((w.enter scope true).tree.get? w.tree.scopes.size).getD default).depth
      = calleeDepth w.tree scope := by
    show (((w.tree.enter scope true).2.get? w.tree.scopes.size).getD default).depth = _
    rw [Tree.get?_enter_self]
    rfl
  rw [callUser, run_bind, run_enter, ← hdepth]
  dsimp only
  rw [run_bind]
  show StateT.run (ExceptT.run (if _ then _ else _)) _ = _
  split
  · rfl
  · rfl

/-- Where a call ends. -/
theorem ends_callUser {Q : Result → World σ → Prop} (cfg : Setting σ) (budget : Nat)
    (f : UserFunction) (scope : Nat) (args : List Value) :
    (callUser cfg (budget + 1) f scope args).Ends Q E w
      ↔ if 0 < cfg.limit ∧ cfg.limit < calleeDepth w.tree scope then
          E (.depth f.name cfg.limit) (w.enter scope true)
        else
          (runFunction cfg (callUser cfg budget) w.tree.scopes.size f args).Ends
            (fun out w' => Q out
              { w' with
                tree := (w'.tree.drop w.tree.scopes.size).push scope
                  ((w'.tree.top? w.tree.scopes.size).getD .null) })
            E (w.enter scope true) := by
  have hends : ∀ {m : Run σ Result} {w'}, m.run.run w' =
      (callUser cfg (budget + 1) f scope args).run.run w →
      ((callUser cfg (budget + 1) f scope args).Ends Q E w ↔ m.Ends Q E w') := by
    intro m w' h
    rw [Ends, Ends, h]
  split
  · next hdeep => rw [Ends, run_callUser, if_pos hdeep]
  · next hfits =>
      rw [hends ((run_callUser cfg budget f scope args w).trans (if_neg hfits)).symm]
      simp only [ends_bind, handBack, ends_get, ends_changeTree, ends_push, ends_pure]

end One

section Two

variable {m₁ : Run σ α} {m₂ : Run τ β} {Q Q' : α → β → World σ → World τ → Prop}
  {E E' : World σ → World τ → Prop} {w₁ : World σ} {w₂ : World τ}

/-- The rule of consequence for two computations. -/
theorem EndsAlike.mono (h : m₁.EndsAlike m₂ Q E w₁ w₂)
    (hQ : ∀ a b w₁' w₂', Q a b w₁' w₂' → Q' a b w₁' w₂')
    (hE : ∀ w₁' w₂', E w₁' w₂' → E' w₁' w₂') : m₁.EndsAlike m₂ Q' E' w₁ w₂ := by
  refine Ends.mono h ?_ ?_
  · intro a w₁' h₂
    exact h₂.mono (fun b w₂' hq => hQ a b w₁' w₂' hq) (fun _ _ hf => hf)
  · intro f w₁' h₂
    exact h₂.mono (fun _ _ hf => hf) (fun g w₂' he => ⟨he.1, hE w₁' w₂' he.2⟩)

/-- Two computations that end alike both give values or both stop with one fault. -/
theorem EndsAlike.cases (h : m₁.EndsAlike m₂ Q E w₁ w₂) :
    (∃ a b w₁' w₂', m₁.run.run w₁ = (.ok a, w₁') ∧ m₂.run.run w₂ = (.ok b, w₂') ∧
      Q a b w₁' w₂') ∨
    ∃ f w₁' w₂', m₁.run.run w₁ = (.error f, w₁') ∧ m₂.run.run w₂ = (.error f, w₂') ∧
      E w₁' w₂' := by
  unfold EndsAlike Ends at h
  -- Where the two end differently, `h` says `False`.
  rcases h₁ : m₁.run.run w₁ with ⟨f | a, w₁'⟩ <;> rcases h₂ : m₂.run.run w₂ with ⟨g | b, w₂'⟩ <;>
    simp only [h₁, h₂] at h
  · obtain ⟨rfl, h⟩ := h
    exact Or.inr ⟨f, w₁', w₂', rfl, rfl, h⟩
  · exact Or.inl ⟨a, b, w₁', w₂', rfl, rfl, h⟩

/-- What each computation ends in by itself may be added to how the two end alike. -/
theorem EndsAlike.and {Q₁ : α → World σ → Prop} {E₁ : Fault → World σ → Prop}
    {Q₂ : β → World τ → Prop} {E₂ : Fault → World τ → Prop} (h : m₁.EndsAlike m₂ Q E w₁ w₂)
    (h₁ : m₁.Ends Q₁ E₁ w₁) (h₂ : m₂.Ends Q₂ E₂ w₂) :
    m₁.EndsAlike m₂ (fun a b w₁' w₂' => Q a b w₁' w₂' ∧ Q₁ a w₁' ∧ Q₂ b w₂') E w₁ w₂ := by
  rcases h.cases with ⟨a, b, w₁', w₂', hm₁, hm₂, hq⟩ | ⟨f, w₁', w₂', hm₁, hm₂, he⟩
  · simp only [EndsAlike, Ends, hm₁, hm₂]
    exact ⟨hq, h₁.of_ok hm₁, h₂.of_ok hm₂⟩
  · simp only [EndsAlike, Ends, hm₁, hm₂]
    exact ⟨trivial, he⟩

/-- Two blocks end alike if their first lines do, and if from there on their rests do. -/
theorem EndsAlike.bind {k₁ : α → Run σ γ} {k₂ : β → Run τ δ}
    {R : γ → δ → World σ → World τ → Prop}
    (h : m₁.EndsAlike m₂ (fun a b w₁' w₂' => (k₁ a).EndsAlike (k₂ b) R E w₁' w₂') E w₁ w₂) :
    (m₁ >>= k₁).EndsAlike (m₂ >>= k₂) R E w₁ w₂ := by
  simp only [EndsAlike, ends_bind]
  rcases h.cases with ⟨a, b, w₁', w₂', hm₁, hm₂, hk⟩ | ⟨f, w₁', w₂', hm₁, hm₂, he⟩
  · simp only [Ends, hm₁, hm₂]
    exact hk
  · simp only [Ends, hm₁, hm₂]
    exact ⟨trivial, he⟩

/-- Two runs that look at their states see them both as they are. -/
@[simp]
theorem endsAlike_get {Q : World σ → World τ → World σ → World τ → Prop} :
    (get : Run σ (World σ)).EndsAlike (get : Run τ (World τ)) Q E w₁ w₂ ↔ Q w₁ w₂ w₁ w₂ :=
  Iff.rfl

/-- Two runs that enter scopes both go on in the next one. -/
@[simp]
theorem endsAlike_enter {Q : Nat → Nat → World σ → World τ → Prop} (i j : Nat)
    (boundary : Bool) :
    (enter i boundary).EndsAlike (enter j boundary) Q E w₁ w₂
      ↔ Q w₁.tree.scopes.size w₂.tree.scopes.size (w₁.enter i boundary)
          (w₂.enter j boundary) := by
  rw [EndsAlike, ends_enter, ends_enter]

/-- Two calls at the same depth under the same limit both go too deep, or both functions run
behind boundaries and hand their values back. -/
theorem endsAlike_callUser {Q : Result → Result → World σ → World τ → Prop}
    (cfg₁ : Setting σ) (cfg₂ : Setting τ) (budget : Nat) (f : UserFunction) (i j : Nat)
    (args : List Value) (hlimit : cfg₁.limit = cfg₂.limit)
    (hdepth : calleeDepth w₁.tree i = calleeDepth w₂.tree j)
    (hdeep : E (w₁.enter i true) (w₂.enter j true))
    (hrun : (runFunction cfg₁ (callUser cfg₁ budget) w₁.tree.scopes.size f args).EndsAlike
      (runFunction cfg₂ (callUser cfg₂ budget) w₂.tree.scopes.size f args)
      (fun out₁ out₂ w₁' w₂' => Q out₁ out₂
        { w₁' with
          tree := (w₁'.tree.drop w₁.tree.scopes.size).push i
            ((w₁'.tree.top? w₁.tree.scopes.size).getD .null) }
        { w₂' with
          tree := (w₂'.tree.drop w₂.tree.scopes.size).push j
            ((w₂'.tree.top? w₂.tree.scopes.size).getD .null) })
      E (w₁.enter i true) (w₂.enter j true)) :
    (callUser cfg₁ (budget + 1) f i args).EndsAlike (callUser cfg₂ (budget + 1) f j args) Q E
      w₁ w₂ := by
  simp only [EndsAlike, ends_callUser, hlimit, hdepth]
  by_cases hlt : 0 < cfg₂.limit ∧ cfg₂.limit < calleeDepth w₂.tree j
  · simp only [if_pos hlt]
    exact ⟨trivial, hdeep⟩
  · simp only [if_neg hlt]
    exact hrun

end Two

end Run

end TagScript
