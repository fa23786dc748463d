import TagScript.Proofs.Eval.Confinement

/-!
# `TagScript.Proofs.Eval.Loop`: the rounds of a loop

A loop looks its sequence up once, before the first round. What it goes through is then fixed:
the elements of an array, or the characters of a text (`Value.Yields`). The rounds all work in
one scope, entered for the loop. Each begins by asking whether the run is cancelled and by
binding the loop variable to its item, in the state that the round before it has left.

`Rounds` says that the rounds over a list of items succeed one after another, and `LoopEnds`
says with it how a loop over the items ends. There are three ways: all rounds succeed, the run
turns out to be cancelled before a round, or the body of a round stops with a fault.

* `Value.elements?_eq_some_iff`: the items of a loop, without looking at the evaluation.
* `exists_loopEnds`, `LoopEnds.exists_rounds`: a loop ends in one of the three ways, and in the
  first of them if the run is live and its body succeeds.
* `Rounds.confined`: rounds change the scope of the loop and no other.
* `Scope.Tree.rebinds_set`: what a round sees at its start of what the one before it has left.
* `evalNode_forEach`: the loop.
-/

set_option autoImplicit false

namespace TagScript

open Log Scope

variable {σ : Type}

/-! ### The items -/

/-- A loop over the value goes through the items: the elements of an array, or texts of one
character each which together make up a text. -/
inductive Value.Yields : Value → List Value → Prop where
  | array (id : Nat) (items : List Value) : Yields (.array id items) items
  | text {s : String} {items : List Value}
      (hchar : ∀ v ∈ items, ∃ c, v = .text (String.singleton c))
      (hjoin : String.join (items.map Value.toText) = s) : Yields (.text s) items

/-- Texts of one character each can be read off the text that they make up. -/
theorem Value.chars_join {items : List Value}
    (hchar : ∀ v ∈ items, ∃ c, v = .text (String.singleton c)) :
    (String.join (items.map toText)).toList.map (fun c => .text (String.singleton c)) = items := by
  induction items with
  | nil => simp
  | cons v items ih =>
      obtain ⟨c, rfl⟩ := hchar v List.mem_cons_self
      have htail := ih fun u hu => hchar u (List.mem_cons_of_mem _ hu)
      rw [List.map_cons, String.join_cons, String.toList_append, List.map_append, htail]
      simp [toText]

/-- The texts of the characters of a text make it up. -/
theorem Value.join_chars (s : String) :
    String.join ((s.toList.map fun c => Value.text (String.singleton c)).map toText) = s := by
  rw [← String.toList_inj, String.toList_join]
  simp [List.flatMap_map, toText]

/-- The items of a loop are those that the value yields. -/
theorem Value.elements?_eq_some_iff {v : Value} {items : List Value} :
    v.elements? = some items ↔ v.Yields items := by
  constructor
  · intro h
    cases v with
    | array id _ =>
        cases h
        exact .array id items
    | text s =>
        cases h
        exact .text (by simp) (join_chars s)
    | _ => cases h
  · rintro (_ | ⟨hchar, rfl⟩)
    · rfl
    · rw [elements?, chars_join hchar]

/-- It is arrays and texts that a loop can go through. -/
theorem Value.exists_yields_iff {v : Value} :
    (∃ items, v.Yields items) ↔ (∃ id items, v = .array id items) ∨ ∃ s, v = .text s := by
  constructor
  · rintro ⟨items, h | h⟩
    · exact Or.inl ⟨_, _, rfl⟩
    · exact Or.inr ⟨_, rfl⟩
  · rintro (⟨id, items, rfl⟩ | ⟨s, rfl⟩)
    · exact ⟨items, .array id items⟩
    · exact ⟨_, elements?_eq_some_iff.mp rfl⟩

/-- There are as many items as the text has characters. -/
theorem Value.Yields.length_text {s : String} {items : List Value}
    (h : (Value.text s).Yields items) : items.length = s.length := by
  have hitems := elements?_eq_some_iff.mpr h
  cases hitems
  rw [List.length_map, String.length_toList]

/-! ### What a round sees at its start -/

/-- In `t'` the variable is bound to the value in scope `i`. Apart from that the scope sees what
it sees in `t`, and it has the same operands. -/
structure Scope.Tree.Rebinds (i : Nat) (name : String) (v : Value) (t t' : Tree) : Prop where
  bound : t'.lookup i name = some v
  others : ∀ other, name ≠ other → t'.lookup i other = t.lookup i other
  functions : ∀ f, t'.resolve i f = t.resolve i f
  operands : t'.operands i = t.operands i

/-- Binding a variable changes it and nothing else that the scope sees. -/
theorem Scope.Tree.rebinds_set {t : Tree} {i : Nat} (hi : i < t.scopes.size) (name : String)
    (v : Value) : Tree.Rebinds i name v t (t.set i name v) where
  bound := lookup_set_self hi name v
  others _ hne := lookup_set_ne t i i v hne
  functions f := resolve_set t i i name f v
  operands := by
    obtain ⟨s, hs⟩ := exists_get? hi
    simp only [operands, get?_set, if_true, hs, Option.map_some]
    rfl

/-- The state in which the body of a round begins. -/
def World.startRound (w : World σ) (child : Nat) (name : String) (item : Value) : World σ :=
  { w with polls := w.polls + 1, tree := w.tree.set child name item }

/-! ### Rounds -/

section

variable (cfg : Setting σ) (caller : Caller σ) (child : Nat) (name : String) (body : List Node)

/-- The rounds over the items succeed and lead from `w` to `w'`. The body is evaluated once for
each item, in order, always in the same scope. -/
inductive Rounds : World σ → List Value → List Result → World σ → Prop where
  | nil (w : World σ) : Rounds w [] [] w
  | cons {w w₁ w' : World σ} {item : Value} {items : List Value} {r : Result} {rs : List Result}
      (hlive : cfg.canceled.isCanceledAt w.polls = false)
      (hbody : (evalBody cfg caller child body).run.run (w.startRound child name item)
        = (.ok r, w₁))
      (hrest : Rounds w₁ items rs w') : Rounds w (item :: items) (r :: rs) w'

/-- How a loop over the items ends whose first round begins in `w`. -/
inductive LoopEnds (w : World σ) (items : List Value) : Except Fault Result × World σ → Prop where
  /-- All rounds succeed. Their results, in order, are the result of the loop. -/
  | finished {rs : List Result} {w' : World σ}
      (h : Rounds cfg caller child name body w items rs w') :
      LoopEnds w items (.ok (.list rs), w')
  /-- The run turns out to be cancelled when the next round is due. -/
  | canceled {done later : List Value} {item : Value} {rs : List Result} {w₁ : World σ}
      (hsplit : items = done ++ item :: later)
      (hdone : Rounds cfg caller child name body w done rs w₁)
      (hcanceled : cfg.canceled.isCanceledAt w₁.polls = true) :
      LoopEnds w items (.error .canceled, { w₁ with polls := w₁.polls + 1 })
  /-- The body of a round stops with a fault, and so does the loop. -/
  | fault {done later : List Value} {item : Value} {rs : List Result} {w₁ w₂ : World σ} {f : Fault}
      (hsplit : items = done ++ item :: later)
      (hdone : Rounds cfg caller child name body w done rs w₁)
      (hlive : cfg.canceled.isCanceledAt w₁.polls = false)
      (hbody : (evalBody cfg caller child body).run.run (w₁.startRound child name item)
        = (.error f, w₂)) :
      LoopEnds w items (.error f, w₂)

/-- The body succeeds in every round that the loop over the items comes to. -/
def BodySucceeds (w : World σ) (items : List Value) : Prop :=
  ∀ done item later rs w₁, items = done ++ item :: later →
    Rounds cfg caller child name body w done rs w₁ →
    ∃ r w₂, (evalBody cfg caller child body).run.run (w₁.startRound child name item) = (.ok r, w₂)

/-- One round: the run asks whether it is cancelled, binds the variable and evaluates the
body. -/
private def loopRound (item : Value) : Run σ Result := do
  checkCanceled cfg
  Run.setVar child name item
  evalBody cfg caller child body

end

variable {cfg : Setting σ} {caller : Caller σ} {child : Nat} {name : String} {body : List Node}
  {w w₁ w' : World σ} {item : Value} {items done later : List Value} {rs : List Result}
  {out : Except Fault Result × World σ}

/-- A round does nothing but ask when the run is cancelled. -/
private theorem run_loopRound_of_canceled (h : cfg.canceled.isCanceledAt w.polls = true) :
    (loopRound cfg caller child name body item).run.run w
      = (.error .canceled, { w with polls := w.polls + 1 }) := by
  rw [loopRound, Run.run_bind, Run.run_checkCanceled, h]
  rfl

/-- Otherwise it binds the variable and evaluates the body. -/
private theorem run_loopRound_of_live (h : cfg.canceled.isCanceledAt w.polls = false) :
    (loopRound cfg caller child name body item).run.run w
      = (evalBody cfg caller child body).run.run (w.startRound child name item) := by
  rw [loopRound, Run.run_bind, Run.run_checkCanceled, h]
  rfl

/-- Every item has its round, and every round its result. -/
theorem Rounds.length_eq (h : Rounds cfg caller child name body w items rs w') :
    rs.length = items.length := by
  induction h with
  | nil => rfl
  | cons _ _ _ ih => rw [List.length_cons, List.length_cons, ih]

/-- Rounds that succeed are what the loop runs. -/
private theorem Rounds.run_mapM (h : Rounds cfg caller child name body w items rs w') :
    (items.mapM (loopRound cfg caller child name body)).run.run w = (.ok rs, w') := by
  induction h with
  | nil => rfl
  | cons hlive hbody _ ih =>
      rw [List.mapM_cons, Run.run_bind, run_loopRound_of_live hlive, hbody]
      dsimp only
      rw [Run.run_bind, ih]
      rfl

/-- A loop stops with the first round that does. -/
private theorem Rounds.run_mapM_of_error {f : Fault} {w₂ : World σ}
    (h : Rounds cfg caller child name body w done rs w₁)
    (hstop : (loopRound cfg caller child name body item).run.run w₁ = (.error f, w₂)) :
    ((done ++ item :: later).mapM (loopRound cfg caller child name body)).run.run w
      = (.error f, w₂) := by
  rw [List.mapM_append, Run.run_bind, h.run_mapM]
  dsimp only
  rw [Run.run_bind, List.mapM_cons, Run.run_bind, hstop]

/-- With a round in front that succeeds, a loop that ends still ends. -/
private theorem LoopEnds.cons {r : Result} (hlive : cfg.canceled.isCanceledAt w.polls = false)
    (hbody : (evalBody cfg caller child body).run.run (w.startRound child name item) = (.ok r, w₁))
    (h : LoopEnds cfg caller child name body w₁ items out) :
    ∃ out', LoopEnds cfg caller child name body w (item :: items) out' := by
  cases h with
  | finished h => exact ⟨_, .finished (.cons hlive hbody h)⟩
  | canceled hsplit hdone hcanceled =>
      exact ⟨_, .canceled (congrArg (item :: ·) hsplit) (.cons hlive hbody hdone) hcanceled⟩
  | fault hsplit hdone hlive' hbody' =>
      exact ⟨_, .fault (congrArg (item :: ·) hsplit) (.cons hlive hbody hdone) hlive' hbody'⟩

/-- A loop ends in one of the three ways. -/
theorem exists_loopEnds (items : List Value) (w : World σ) :
    ∃ out, LoopEnds cfg caller child name body w items out := by
  -- What is left of the loop begins in the state that the rounds so far have left.
  induction items generalizing w with
  | nil => exact ⟨_, .finished (.nil w)⟩
  | cons item items ih =>
      cases hcanceled : cfg.canceled.isCanceledAt w.polls with
      | true => exact ⟨_, .canceled rfl (.nil w) hcanceled⟩
      | false =>
          rcases hbody : (evalBody cfg caller child body).run.run (w.startRound child name item)
            with ⟨f | r, w₁⟩
          · exact ⟨_, .fault rfl (.nil w) hcanceled hbody⟩
          · obtain ⟨_, h⟩ := ih w₁
            exact h.cons hcanceled hbody

/-- What the loop runs ends so. -/
private theorem LoopEnds.run_eq (h : LoopEnds cfg caller child name body w items out) :
    (do
      let rs ← items.mapM (loopRound cfg caller child name body)
      return .list rs : Run σ Result).run.run w = out := by
  rw [Run.run_bind]
  cases h with
  | finished h =>
      rw [h.run_mapM]
      rfl
  | canceled hsplit hdone hcanceled =>
      rw [hsplit, hdone.run_mapM_of_error (run_loopRound_of_canceled hcanceled)]
  | fault hsplit hdone hlive hbody =>
      rw [hsplit, hdone.run_mapM_of_error ((run_loopRound_of_live hlive).trans hbody)]

/-- In a live run, a loop whose body succeeds in every round finishes. -/
theorem LoopEnds.exists_rounds (hlive : ∀ k, cfg.canceled.isCanceledAt k = false)
    (hbody : BodySucceeds cfg caller child name body w items)
    (h : LoopEnds cfg caller child name body w items out) :
    ∃ rs w', Rounds cfg caller child name body w items rs w' ∧ out = (.ok (.list rs), w') := by
  cases h with
  | finished h => exact ⟨_, _, h, rfl⟩
  | canceled _ _ hcanceled =>
      rw [hlive] at hcanceled
      cases hcanceled
  | fault hsplit hdone _ hfault =>
      obtain ⟨r, w₂, hok⟩ := hbody _ _ _ _ _ hsplit hdone
      rw [hok] at hfault
      cases hfault

/-! ### What rounds change -/

/-- An evaluation of a body is confined to its scope. -/
theorem evalBody_confined {budget : Nat} {r : Result}
    (h : (evalBody cfg (callUser cfg budget) child body).run.run w = (.ok r, w')) :
    World.Confined child w w' := by
  have L := confinement_lawful cfg
  obtain ⟨rs, w₁, hrs, hr⟩ := Run.run_bind_eq_ok_iff.mp h
  cases hr
  exact (L.evalAll (L.callUser budget) child body w).of_ok hrs

/-- Rounds change the scope of the loop and no other. -/
theorem Rounds.confined {budget : Nat}
    (h : Rounds cfg (callUser cfg budget) child name body w items rs w') :
    World.Confined child w w' := by
  induction h with
  | nil => exact .of_tree_eq rfl
  | @cons w _ _ item _ _ _ _ hbody _ ih =>
      have hstart : World.Confined child w (w.startRound child name item) :=
        .trans (.of_tree_eq rfl : World.Confined child w { w with polls := w.polls + 1 })
          (.of_step (.set w.tree name item))
      exact (hstart.trans (evalBody_confined hbody)).trans ih

/-- After a loop the scopes that were there before it see what they saw before it. -/
private theorem forEach_sees {budget e i : Nat} {variableName sequence : Option Literal}
    (hw : w.tree.Reachable) (he : e < w.tree.scopes.size)
    (hout : (evalNode cfg (callUser cfg budget) e (.forEach variableName sequence body)).run.run w
      = out) (hi : i < w.tree.scopes.size) (other : String) :
    out.2.tree.lookup i other = w.tree.lookup i other ∧
      out.2.tree.resolve i other = w.tree.resolve i other := by
  have L := confinement_lawful cfg
  let n : Node := .forEach variableName sequence body
  have hsame : w.tree.SameScopes out.2.tree := by
    rw [← hout]
    exact (evalNode_sameScopes cfg budget (n := n) trivial hw he).state
  have hconfined : World.Confined e w out.2 := by
    rw [← hout]
    exact (L.evalNode (L.callUser budget) e n w).state
  -- What a scope sees depends on its parents too, so the tree has to be in order at both ends.
  have hafter := (hconfined hw he).1.valid
  exact ⟨hsame.lookup_eq hw.valid hafter hi other, hsame.resolve_eq hw.valid hafter hi other⟩

/-! ### The loop -/

/-- The loop looks its variable and its sequence up and then runs its rounds in a new scope. -/
private theorem run_forEach (variableName sequence : Option Literal) {e : Nat}
    (hname : (w.tree.valueOf e variableName).toText = name)
    (hitems : (w.tree.valueOf e sequence).elements? = some items) :
    (evalNode cfg caller e (.forEach variableName sequence body)).run.run w
      = (do
          let rs ← items.mapM (loopRound cfg caller w.tree.scopes.size name body)
          return .list rs : Run σ Result).run.run (w.enter e false) := by
  rw [evalNode, Run.run_bind, Run.run_literal]
  dsimp only
  rw [Run.run_bind, Run.run_literal]
  dsimp only
  rw [hitems, hname]
  dsimp only
  rw [Run.run_bind, Run.run_enter]
  rfl

/-- A loop over a value that yields the items ends as its rounds do, and in no other way. -/
private theorem run_forEach_iff (variableName sequence : Option Literal) {e : Nat}
    (hname : (w.tree.valueOf e variableName).toText = name)
    (hitems : (w.tree.valueOf e sequence).Yields items) :
    (evalNode cfg caller e (.forEach variableName sequence body)).run.run w = out
      ↔ LoopEnds cfg caller w.tree.scopes.size name body (w.enter e false) items out := by
  rw [run_forEach variableName sequence hname (Value.elements?_eq_some_iff.mpr hitems)]
  constructor
  · rintro rfl
    obtain ⟨out, h⟩ : ∃ out, LoopEnds cfg caller w.tree.scopes.size name body (w.enter e false)
      items out := exists_loopEnds items (w.enter e false)
    rw [h.run_eq]
    exact h
  · exact LoopEnds.run_eq

/-- A loop over a value that is neither an array nor a text logs a warning. -/
private theorem run_forEach_of_none (variableName sequence : Option Literal) {e : Nat}
    (hitems : (w.tree.valueOf e sequence).elements? = none) :
    (evalNode cfg caller e (.forEach variableName sequence body)).run.run w
      = (.ok .none, { w with
          log := w.log.push (.at .warn "value is not iterable"
            [("name", .text (w.tree.valueOf e variableName).toText),
              ("type", .text (w.tree.valueOf e sequence).typeName)]) }) := by
  rw [evalNode, Run.run_bind, Run.run_literal]
  dsimp only
  rw [Run.run_bind, Run.run_literal]
  dsimp only
  rw [hitems]
  rfl

/-- **Loops.** Take any state with a reachable tree, a scope `e` in it, and a loop with any
variable, sequence and body, run with any sink, limit, budget and cancellation.

If the sequence is neither an array nor a text, all that happens is a warning in the log.
Otherwise it yields the elements of the array, or as many texts of one character as the text
has, which make it up. The loop then enters one scope `child` below `e`, and ends as `LoopEnds`
says and in no other way. So in a live run in which no body fails, the body is evaluated once for
each item, in order, and the results of that are the result of the loop.

Whatever the rounds up to some item have done, the next one starts with the loop variable bound
to its own item, and otherwise with the variables, functions and operands that they have left in
`child`. After the loop every scope that was there before it sees the variables and functions
that it saw before it. -/
theorem evalNode_forEach (cfg : Setting σ) (budget : Nat) (w : World σ) (e : Nat)
    (variableName sequence : Option Literal) (body : List Node) (hw : w.tree.Reachable)
    (he : e < w.tree.scopes.size) :
    let caller := callUser cfg budget
    let name := (w.tree.valueOf e variableName).toText
    let v := w.tree.valueOf e sequence
    let child := w.tree.scopes.size
    let start := w.enter e false
    let out := (evalNode cfg caller e (.forEach variableName sequence body)).run.run w
    ((∃ items, v.Yields items) ↔ (∃ id items, v = .array id items) ∨ ∃ s, v = .text s) ∧
    ((¬ ∃ items, v.Yields items) →
      out = (.ok .none, { w with
        log := w.log.push (.at .warn "value is not iterable"
          [("name", .text name), ("type", .text v.typeName)]) })) ∧
    ∀ items, v.Yields items →
      (∀ s, v = .text s → items.length = s.length) ∧
      (∀ out', out = out' ↔ LoopEnds cfg caller child name body start items out') ∧
      ((∀ k, cfg.canceled.isCanceledAt k = false) →
        BodySucceeds cfg caller child name body start items →
        ∃ rs w', Rounds cfg caller child name body start items rs w' ∧
          rs.length = items.length ∧ out = (.ok (.list rs), w')) ∧
      (∀ done item later rs w₁, items = done ++ item :: later →
        Rounds cfg caller child name body start done rs w₁ →
        Tree.Rebinds child name item w₁.tree (w₁.startRound child name item).tree) ∧
      ∀ i, i < w.tree.scopes.size → ∀ other,
        out.2.tree.lookup i other = w.tree.lookup i other ∧
        out.2.tree.resolve i other = w.tree.resolve i other := by
  intro caller name v child start out
  refine ⟨Value.exists_yields_iff, ?_, ?_⟩
  · intro hnone
    refine run_forEach_of_none variableName sequence (Option.eq_none_iff_forall_ne_some.mpr ?_)
    intro items hitems
    exact hnone ⟨items, Value.elements?_eq_some_iff.mp hitems⟩
  intro items hitems
  have hends : ∀ out', out = out' ↔ LoopEnds cfg caller child name body start items out' :=
    fun _ => run_forEach_iff variableName sequence rfl hitems
  refine ⟨?_, hends, ?_, ?_, ?_⟩
  · intro s hs
    exact (hs ▸ hitems).length_text
  · intro hlive hbody
    obtain ⟨rs, w', hrounds, hout⟩ := ((hends out).mp rfl).exists_rounds hlive hbody
    exact ⟨rs, w', hrounds, hrounds.length_eq, hout⟩
  · intro done item later rs w₁ _ hdone
    -- The rounds so far have at most added scopes, so the scope of the loop is still there.
    obtain ⟨-, hc⟩ := World.Confined.child hdone.confined hw he
    refine Tree.rebinds_set (Nat.lt_of_lt_of_le ?_ hc.scopes_le) name item
    rw [Tree.size_scopes_enter]
    exact Nat.lt_succ_self _
  · intro i hi other
    -- The run goes by its name here. Compared by what it is, it would be unfolded.
    have hout : (evalNode cfg caller e (.forEach variableName sequence body)).run.run w = out := rfl
    exact forEach_sees hw he hout hi other

/-- A loop over two characters defines a function in each round. It runs twice, and behind it
neither the loop variable nor the functions can be seen. -/
theorem evalNode_forEach_chars :
    let cfg : Setting Unit := ⟨.discard, 10, false⟩
    let w : World Unit := ⟨.root [] 0, #[], (), 0⟩
    let body : List Node := [.define (some (.var "c")) [] [], .value (some (.var "c"))]
    let out := (evalNode cfg (callUser cfg 11) 0
      (.forEach (some (.text "c")) (some (.text "ab")) body)).run.run w
    w.tree.Reachable ∧ 0 < w.tree.scopes.size ∧
      (∃ rs w', rs.length = 2 ∧ out = (.ok (.list rs), w')) ∧
      out.2.tree.lookup 0 "c" = none ∧ out.2.tree.resolve 0 "a" = w.tree.resolve 0 "a" := by
  intro cfg w body out
  have hw : w.tree.Reachable := .root [] 0
  have hitems : (Value.text "ab").Yields [.text "a", .text "b"] :=
    Value.elements?_eq_some_iff.mp rfl
  obtain ⟨-, -, h⟩ := evalNode_forEach cfg 11 w 0 (some (.text "c")) (some (.text "ab")) body hw
    (by decide)
  obtain ⟨-, -, hfinish, -, hsame⟩ := h _ hitems
  obtain ⟨rs, w', -, hlength, hout⟩ := hfinish (fun _ => rfl) (fun _ _ _ _ _ _ _ => ⟨_, _, rfl⟩)
  exact ⟨hw, by decide, ⟨rs, w', hlength, hout⟩, (hsame 0 (by decide) "c").1,
    (hsame 0 (by decide) "a").2⟩

end TagScript
