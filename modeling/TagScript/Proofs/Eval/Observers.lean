import TagScript.Log.Logger
import TagScript.Proofs.Eval.Coupling
import TagScript.Proofs.Sink.Match

/-!
# `TagScript.Proofs.Eval.Observers`: a run does not depend on who watches it

A run is watched in two ways. A sink makes its output nodes, and a logger writes its log down,
or some of it. The run hands output nodes back to the sink and does nothing else with them,
and from a logger nothing comes back at all.

The coupling `watching` is of two runs with sinks that match. Everything about it that does not
concern the sinks is proved here once (`watching_lawful`).

Any two sinks match if nothing is asked of their nodes and states. So whatever the sinks and the
loggers are, two evaluations from the same scopes end with the same fault or with results of the
same shape, and leave the same scopes (`evaluation_unobserved`).
-/

set_option autoImplicit false

namespace TagScript

open Log Scope

variable {σ τ α β : Type}

/-- Two states that differ in what the sinks and the logs were before: the scopes are the same,
and since then the logs have got the same records. -/
structure World.Agrees (states : σ → τ → Prop) (log₁ log₂ : Array Record) (w₁ : World σ)
    (w₂ : World τ) : Prop where
  tree : w₁.tree = w₂.tree
  polls : w₁.polls = w₂.polls
  sink : states w₁.sink w₂.sink
  log : ∃ records, w₁.log = log₁ ++ records ∧ w₂.log = log₂ ++ records

/-- Two runs in the same scopes, with different sinks. -/
def watching (states : σ → τ → Prop) (nodes : NodeRef → NodeRef → Prop)
    (log₁ log₂ : Array Record) : Coupling σ τ where
  agree w₁ w₂ i j := i = j ∧ w₁.Agrees states log₁ log₂ w₂
  results := Result.Alike nodes

/-- The same step in one tree leads to one tree. -/
private theorem sameStep_unique {i : Nat} {t t₁ t₂ : Tree} (h : Tree.SameStep i i t t t₁ t₂) :
    t₁ = t₂ := by
  cases h <;> rfl

section

variable {states : σ → τ → Prop} {nodes : NodeRef → NodeRef → Prop} {log₁ log₂ : Array Record}
  {cfg₁ : Setting σ} {cfg₂ : Setting τ} {w₁ w₁' : World σ} {w₂ w₂' : World τ}

/-- States that agree do so from every scope. -/
private theorem watching_moves (h : w₁'.Agrees states log₁ log₂ w₂') :
    (watching states nodes log₁ log₂).Moves w₁ w₂ w₁' w₂' :=
  fun _ _ hw => ⟨hw.1, h⟩

/-- All evaluations go alike with sinks that match. -/
theorem watching_lawful (hsinks : cfg₁.sink.Match cfg₂.sink states nodes)
    (hlimit : cfg₁.limit = cfg₂.limit) (hcanceled : cfg₁.canceled = cfg₂.canceled)
    (log₁ log₂ : Array Record) :
    (watching states nodes log₁ log₂).Lawful cfg₁ cfg₂ where
  limit := hlimit
  canceled := hcanceled
  polls h := h.2.polls
  fresh h := by rw [h.2.tree]
  lookup h name := by rw [h.1, h.2.tree]
  resolve h name := by rw [h.1, h.2.tree]
  top h := by rw [h.1, h.2.tree]
  depth h := by rw [h.1, h.2.tree]
  none := .none
  scalar := .scalar
  list := .list
  note r h := by
    obtain ⟨records, h₁, h₂⟩ := h.2.log
    -- The record is put behind those that the two logs have had in common since the start.
    refine watching_moves { h.2 with log := ⟨records.push r, ?_, ?_⟩ }
    · rw [h₁, Array.append_push]
    · rw [h₂, Array.append_push]
  poll h := watching_moves { h.2 with polls := congrArg (· + 1) h.2.polls }
  change h hs := by
    obtain ⟨rfl, h⟩ := h
    rw [h.tree] at hs
    exact watching_moves { h with tree := sameStep_unique hs }
  enter boundary h := by
    obtain ⟨rfl, h⟩ := h
    refine watching_moves { h with tree := ?_ }
    show (Tree.enter _ _ _).2 = (Tree.enter _ _ _).2
    rw [h.tree]
  child boundary h := by
    obtain ⟨rfl, h⟩ := h
    -- The trees are equal, so the scopes that are entered have the same number.
    refine ⟨congrArg (·.scopes.size) h.tree, { h with tree := ?_ }⟩
    show (Tree.enter _ _ _).2 = (Tree.enter _ _ _).2
    rw [h.tree]
  text t h := by
    obtain ⟨hnode, hstate⟩ := hsinks.text t h.2.sink
    exact ⟨.output hnode, watching_moves { h.2 with sink := hstate }⟩
  element tag attributes h := by
    obtain ⟨hnode, hstate⟩ := hsinks.element tag attributes h.2.sink
    exact ⟨.output hnode, watching_moves { h.2 with sink := hstate }⟩
  flatten h hn hr := by
    cases hn with
    | output hn => exact watching_moves { h.2 with sink := hsinks.flatten h.2.sink hn hr }

end

/-- Who watches a run: a sink with its state at the start, and a logger with the time that it
reads. -/
structure Observer (σ : Type) where
  sink : Sink σ
  state : σ
  logger : Logger
  now : Int

/-- What is to be seen of a run when it has ended. -/
structure Observation (σ α : Type) where
  /-- The value that it gave, or the fault that it stopped with. -/
  outcome : Except Fault α
  world : World σ
  /-- What the logger has written. -/
  written : String

/-- Watch a computation from its start in the given scopes to its end. -/
def Observer.watch (o : Observer σ) (limit : Int) (canceled : Cancellation) (tree : Tree)
    (polls : Nat) (m : Setting σ → Run σ α) : Observation σ α :=
  let (outcome, w) := (m ⟨o.sink, limit, canceled⟩).run.run ⟨tree, #[], o.state, polls⟩
  ⟨outcome, w, o.logger.emitAll o.now w.log.toList⟩

/-- Two runs were the same but for who watched them. Both gave values that are related, or both
stopped with one fault. They left the same scopes, with the same variables, functions and
operands, and each logger was told the same records. -/
structure Observation.Same (o₁ : Observer σ) (o₂ : Observer τ) (rel : α → β → Prop)
    (seen₁ : Observation σ α) (seen₂ : Observation τ β) : Prop where
  outcome : (∃ a b, seen₁.outcome = .ok a ∧ seen₂.outcome = .ok b ∧ rel a b) ∨
    ∃ fault, seen₁.outcome = .error fault ∧ seen₂.outcome = .error fault
  tree : seen₁.world.tree = seen₂.world.tree
  polls : seen₁.world.polls = seen₂.world.polls
  records : ∃ records, seen₁.written = o₁.logger.emitAll o₁.now records ∧
    seen₂.written = o₂.logger.emitAll o₂.now records

/-- The coupling of runs that are watched by any two observers. -/
private abbrev watchingAny (σ τ : Type) : Coupling σ τ :=
  watching (fun _ _ => True) (fun _ _ => True) #[] #[]

/-- Computations that go alike with any two sinks are the same for any two observers. -/
private theorem watch_same {m₁ : Setting σ → Run σ α} {m₂ : Setting τ → Run τ β}
    {rel : α → β → Prop} {scope : Nat} (o₁ : Observer σ) (o₂ : Observer τ) (limit : Int)
    (canceled : Cancellation) (tree : Tree) (polls : Nat)
    (h : (watchingAny σ τ).Alike scope scope rel (m₁ ⟨o₁.sink, limit, canceled⟩)
      (m₂ ⟨o₂.sink, limit, canceled⟩)) :
    Observation.Same o₁ o₂ rel (o₁.watch limit canceled tree polls m₁)
      (o₂.watch limit canceled tree polls m₂) := by
  have hstart : (watchingAny σ τ).agree ⟨tree, #[], o₁.state, polls⟩ ⟨tree, #[], o₂.state, polls⟩
      scope scope := ⟨rfl, rfl, rfl, trivial, #[], rfl, rfl⟩
  rcases (h _ _ hstart).cases with
    ⟨a, b, w₁, w₂, h₁, h₂, hrel, hmoves⟩ | ⟨fault, w₁, w₂, h₁, h₂, hmoves⟩
  all_goals
    obtain ⟨-, htree, hpolls, -, records, hlog₁, hlog₂⟩ := hmoves scope scope hstart
    have hlog : w₁.log = w₂.log := hlog₁.trans hlog₂.symm
    simp only [Observer.watch, h₁, h₂]
  · exact ⟨.inl ⟨a, b, rfl, rfl, hrel⟩, htree, hpolls, w₂.log.toList, by rw [hlog], rfl⟩
  · exact ⟨.inr ⟨fault, rfl, rfl⟩, htree, hpolls, w₂.log.toList, by rw [hlog], rfl⟩

/-- **A run does not depend on who watches it.** Take any two observers, with sinks and loggers
of any kind. From the same scopes, under the same limit, an evaluation of a node ends for both
with the same fault, or with results of the same shape and with equal values. The same holds of
a rendering into any two output nodes. In either case the scopes afterwards are the same, and
the loggers differ only in how they write the same records down. -/
theorem evaluation_unobserved (o₁ : Observer σ) (o₂ : Observer τ) (limit : Int)
    (canceled : Cancellation) (tree : Tree) (polls scope : Nat) :
    (∀ n : Node,
      Observation.Same o₁ o₂ (Result.Alike fun _ _ => True)
        (o₁.watch limit canceled tree polls fun cfg => eval cfg scope n)
        (o₂.watch limit canceled tree polls fun cfg => eval cfg scope n)) ∧
    ∀ (root₁ root₂ : NodeRef) (nodes : List Node),
      Observation.Same o₁ o₂ Eq
        (o₁.watch limit canceled tree polls fun cfg => render cfg scope root₁ nodes)
        (o₂.watch limit canceled tree polls fun cfg => render cfg scope root₂ nodes) := by
  have L : (watchingAny σ τ).Lawful ⟨o₁.sink, limit, canceled⟩ ⟨o₂.sink, limit, canceled⟩ := by
    refine watching_lawful (Sink.match_any _ _) ?_ ?_ #[] #[]
    · rfl
    · rfl
  constructor
  · intro n
    exact watch_same o₁ o₂ limit canceled tree polls (L.evalNode (L.callUser _) scope scope n)
  · intro root₁ root₂ nodes
    exact watch_same o₁ o₂ limit canceled tree polls
      (L.render (.output trivial) scope scope nodes)

end TagScript
