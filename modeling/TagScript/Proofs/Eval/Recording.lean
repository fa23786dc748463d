import TagScript.Proofs.Eval.Coupling
import TagScript.Proofs.Sink.Recording

/-!
# `TagScript.Proofs.Eval.Recording`: a run with a sink that records

A run looks at the nodes that its sink makes only to hand them back to the sink. So a sink
may write down its requests behind the back of the run: the coupling `recording` says that
the run with such a sink goes as it goes without, up to what is written down
(`render_recorded`). `renderCalls` are the requests that are written down during a rendering.
-/

set_option autoImplicit false

namespace TagScript

open Log Scope SinkEvent

variable {σ : Type}

/-- The setting with a sink that records. -/
def Setting.recorded (cfg : Setting σ) : Setting (σ × List SinkEvent) :=
  { cfg with sink := cfg.sink.recorded }

/-- The state with nothing recorded yet. -/
def World.recorded (w : World σ) : World (σ × List SinkEvent) :=
  { w with sink := (w.sink, []) }

/-- The requests to the sink that a rendering makes, with the answers to them. -/
def renderCalls (cfg : Setting σ) (scope : Nat) (root : NodeRef) (nodes : List Node)
    (w : World σ) : List SinkEvent :=
  ((render cfg.recorded scope root nodes).run.run w.recorded).2.sink.2

/-- The state without what was recorded. -/
def World.unrecorded (w : World (σ × List SinkEvent)) : World σ :=
  { w with sink := w.sink.1 }

/-- A run and the same run with a sink that records. -/
def recording (σ : Type) : Coupling σ (σ × List SinkEvent) where
  agree w₁ w₂ i j := i = j ∧ w₁ = w₂.unrecorded
  results := Eq

/-- Setting attributes does to the sink behind the record what it does without one. -/
private theorem dress_recorded (sink : Sink σ) (n : NodeRef) (attributes : List Attribute)
    (s : σ × List SinkEvent) :
    (sink.recorded.dress n attributes s).1 = sink.dress n attributes s.1 := by
  induction attributes generalizing s with
  | nil => rfl
  | cons a attributes ih => exact ih _

/-- A step that does the same behind the recording keeps the two runs together. -/
private theorem recording_moves {w₁ w₁' : World σ} {w₂ w₂' : World (σ × List SinkEvent)}
    (h : w₁' = w₂'.unrecorded) : (recording σ).Moves w₁ w₂ w₁' w₂' :=
  fun _ _ hw => ⟨hw.1, h⟩

/-- Recording changes nothing. -/
theorem recording_lawful (cfg : Setting σ) : (recording σ).Lawful cfg cfg.recorded where
  limit := rfl
  canceled := rfl
  polls h := by
    obtain ⟨rfl, rfl⟩ := h
    rfl
  fresh h := by
    obtain ⟨rfl, rfl⟩ := h
    rfl
  lookup h _ := by
    obtain ⟨rfl, rfl⟩ := h
    rfl
  resolve h _ := by
    obtain ⟨rfl, rfl⟩ := h
    rfl
  top h := by
    obtain ⟨rfl, rfl⟩ := h
    rfl
  depth h := by
    obtain ⟨rfl, rfl⟩ := h
    rfl
  none := rfl
  scalar _ := rfl
  list h := by
    have heq := List.forall₂_eq_eq_eq ▸ h
    exact congrArg Result.list heq
  note r h := by
    obtain ⟨rfl, rfl⟩ := h
    exact recording_moves rfl
  poll h := by
    obtain ⟨rfl, rfl⟩ := h
    exact recording_moves rfl
  change h hs := by
    obtain ⟨rfl, rfl⟩ := h
    refine recording_moves ?_
    cases hs <;> rfl
  enter boundary h := by
    obtain ⟨rfl, rfl⟩ := h
    exact recording_moves rfl
  child boundary h := by
    obtain ⟨rfl, rfl⟩ := h
    exact ⟨rfl, rfl⟩
  text t h := by
    obtain ⟨rfl, rfl⟩ := h
    exact ⟨rfl, recording_moves rfl⟩
  element tag attributes h := by
    obtain ⟨rfl, rfl⟩ := h
    refine ⟨rfl, recording_moves ?_⟩
    -- The attributes are written down one by one, each with the sink behind the record set.
    simp only [World.unrecorded, Setting.recorded, dress_recorded]
    rfl
  flatten h hn hr := by
    obtain ⟨rfl, rfl⟩ := h
    cases hn
    cases hr
    refine recording_moves ?_
    simp only [World.unrecorded, Setting.recorded, Result.flatten_recorded]

/-- A rendering with a sink that records ends as it ends without. -/
theorem render_recorded (cfg : Setting σ) (scope : Nat) (root : NodeRef) (nodes : List Node)
    (w : World σ) :
    let plain := (render cfg scope root nodes).run.run w
    let recorded := (render cfg.recorded scope root nodes).run.run w.recorded
    plain.1 = recorded.1 ∧ plain.2 = recorded.2.unrecorded := by
  intro plain recorded
  have hagree : (recording σ).agree w w.recorded scope scope := ⟨rfl, rfl⟩
  have hroot : (recording σ).results (.output root) (.output root) := rfl
  have halike := (recording_lawful cfg).render hroot scope scope nodes w w.recorded hagree
  rcases halike.cases with
    ⟨_, _, w₁, w₂, h₁, h₂, -, hmoves⟩ | ⟨fault, w₁, w₂, h₁, h₂, hmoves⟩
  · simp only [plain, recorded, h₁, h₂]
    exact ⟨trivial, (hmoves scope scope hagree).2⟩
  · simp only [plain, recorded, h₁, h₂]
    exact ⟨trivial, (hmoves scope scope hagree).2⟩

end TagScript
