import Mathlib.Data.List.Forall2
import TagScript.Proofs.Eval.Outcome

/-!
# `TagScript.Proofs.Sink.Match`: two sinks in step

`Result.Alike nodes` says that two results are built in the same way from the same values, and
from output nodes that correspond. `Sink.Match` is what two sinks owe so that corresponding
nodes and states of the sinks keep corresponding throughout an evaluation.

Any two sinks match if nothing is asked of their nodes and states (`Sink.match_any`). To match
with more asked of them, two sinks have to answer each request alike (`Sink.Alike`): then
flattening keeps them together too (`Sink.Alike.flatten`).
-/

set_option autoImplicit false

namespace TagScript

variable {σ τ : Type}

/-- Two results of the same shape: they hold the same values, and output nodes that correspond
in the places of output nodes. -/
inductive Result.Alike (nodes : NodeRef → NodeRef → Prop) : Result → Result → Prop where
  | none : Alike nodes .none .none
  | list {rs₁ rs₂ : List Result} (h : List.Forall₂ (Alike nodes) rs₁ rs₂) :
      Alike nodes (.list rs₁) (.list rs₂)
  | output {n₁ n₂ : NodeRef} (h : nodes n₁ n₂) : Alike nodes (.output n₁) (.output n₂)
  | scalar (v : Value) : Alike nodes (.scalar v) (.scalar v)

/-- Two sinks match: whatever is asked of both, the nodes that they make correspond, and so do
their states afterwards. -/
structure Sink.Match (sink₁ : Sink σ) (sink₂ : Sink τ) (states : σ → τ → Prop)
    (nodes : NodeRef → NodeRef → Prop) : Prop where
  text : ∀ {s₁ s₂} (t : String), states s₁ s₂ →
    nodes (sink₁.text t s₁).1 (sink₂.text t s₂).1 ∧
    states (sink₁.text t s₁).2 (sink₂.text t s₂).2
  element : ∀ {s₁ s₂} (tag : String) (attributes : List Attribute), states s₁ s₂ →
    nodes (sink₁.element tag s₁).1 (sink₂.element tag s₂).1 ∧
    states (sink₁.dress (sink₁.element tag s₁).1 attributes (sink₁.element tag s₁).2)
      (sink₂.dress (sink₂.element tag s₂).1 attributes (sink₂.element tag s₂).2)
  flatten : ∀ {s₁ s₂ n₁ n₂ r₁ r₂}, states s₁ s₂ → nodes n₁ n₂ → Result.Alike nodes r₁ r₂ →
    states (r₁.flatten sink₁ n₁ s₁) (r₂.flatten sink₂ n₂ s₂)

/-- Any two sinks match if nothing is asked of their nodes and states. -/
theorem Sink.match_any (sink₁ : Sink σ) (sink₂ : Sink τ) :
    sink₁.Match sink₂ (fun _ _ => True) (fun _ _ => True) where
  text _ _ := ⟨trivial, trivial⟩
  element _ _ _ := ⟨trivial, trivial⟩
  flatten _ _ _ := trivial

section

variable {sink₁ : Sink σ} {sink₂ : Sink τ} {states : σ → τ → Prop}
  {nodes : NodeRef → NodeRef → Prop} {s₁ : σ} {s₂ : τ} {n₁ n₂ : NodeRef}

/-- Two sinks answer alike: a sink makes a node where the other does, and each request keeps the
two together. -/
structure Sink.Alike (sink₁ : Sink σ) (sink₂ : Sink τ) (states : σ → τ → Prop)
    (nodes : NodeRef → NodeRef → Prop) : Prop where
  none_iff : ∀ {n₁ n₂}, nodes n₁ n₂ → (n₁ = none ↔ n₂ = none)
  text : ∀ {s₁ s₂} (t : String), states s₁ s₂ →
    nodes (sink₁.text t s₁).1 (sink₂.text t s₂).1 ∧
    states (sink₁.text t s₁).2 (sink₂.text t s₂).2
  element : ∀ {s₁ s₂} (tag : String) (attributes : List Attribute), states s₁ s₂ →
    nodes (sink₁.element tag s₁).1 (sink₂.element tag s₂).1 ∧
    states (sink₁.dress (sink₁.element tag s₁).1 attributes (sink₁.element tag s₁).2)
      (sink₂.dress (sink₂.element tag s₂).1 attributes (sink₂.element tag s₂).2)
  append : ∀ {s₁ s₂ p₁ p₂ c₁ c₂}, states s₁ s₂ → nodes p₁ p₂ → nodes c₁ c₂ →
    states (sink₁.append p₁ c₁ s₁) (sink₂.append p₂ c₂ s₂)

namespace Sink.Alike

/-- A text is made and appended on both sides. -/
private theorem leaf (M : sink₁.Alike sink₂ states nodes) (hn : nodes n₁ n₂) (t : String)
    (hs : states s₁ s₂) :
    states (sink₁.append n₁ (sink₁.text t s₁).1 (sink₁.text t s₁).2)
      (sink₂.append n₂ (sink₂.text t s₂).1 (sink₂.text t s₂).2) :=
  M.append (M.text t hs).2 hn (M.text t hs).1

mutual

/-- A value is appended as the same texts on both sides. -/
theorem appendValue (M : sink₁.Alike sink₂ states nodes) (hn : nodes n₁ n₂) :
    (v : Value) → {s₁ : σ} → {s₂ : τ} → states s₁ s₂ →
    states (Result.appendValue sink₁ n₁ v s₁) (Result.appendValue sink₂ n₂ v s₂)
  | .null, _, _, hs => hs
  | .array _ items, _, _, hs => by
      simp only [Result.appendValue]
      exact appendValues M hn items hs
  | .bool _, _, _, hs | .text _, _, _, hs | .number _, _, _, hs | .integer _ _, _, _, hs
  | .single _, _, _, hs | .texts _ _, _, _, hs | .integers _ _, _, _, hs | .numbers _ _, _, _, hs
  | .map _ _, _, _, hs | .record _ _ _, _, _, hs => M.leaf hn _ hs

/-- Several values are appended as the same texts on both sides. -/
theorem appendValues (M : sink₁.Alike sink₂ states nodes) (hn : nodes n₁ n₂) :
    (vs : List Value) → {s₁ : σ} → {s₂ : τ} → states s₁ s₂ →
    states (Result.appendValues sink₁ n₁ vs s₁) (Result.appendValues sink₂ n₂ vs s₂)
  | [], _, _, hs => hs
  | v :: rest, _, _, hs => by
      simp only [Result.appendValues]
      exact appendValues M hn rest (appendValue M hn v hs)

end

mutual

/-- Results of the same shape are flattened in step. -/
theorem flatten (M : sink₁.Alike sink₂ states nodes) (hn : nodes n₁ n₂) :
    (r₁ : Result) → {r₂ : Result} → {s₁ : σ} → {s₂ : τ} → Result.Alike nodes r₁ r₂ →
    states s₁ s₂ → states (r₁.flatten sink₁ n₁ s₁) (r₂.flatten sink₂ n₂ s₂)
  | .none, _, _, _, .none, hs => hs
  | .list items, _, _, _, .list h, hs => by
      simp only [Result.flatten]
      exact flattenAll M hn items h hs
  | .output none, _, _, _, .output h, hs => by
      rw [(M.none_iff h).mp rfl]
      exact hs
  | .output (some c₁), _, _, _, .output h, hs => by
      -- There is a node in the first result, so there is one in the second.
      obtain ⟨c₂, rfl⟩ := Option.ne_none_iff_exists'.mp fun hnone =>
        Option.some_ne_none c₁ ((M.none_iff h).mpr hnone)
      exact M.append hs hn h
  | .scalar v, _, _, _, .scalar _, hs => appendValue M hn v hs

/-- Several results are flattened in step. -/
theorem flattenAll (M : sink₁.Alike sink₂ states nodes) (hn : nodes n₁ n₂) :
    (rs₁ : List Result) → {rs₂ : List Result} → {s₁ : σ} → {s₂ : τ} →
    List.Forall₂ (Result.Alike nodes) rs₁ rs₂ → states s₁ s₂ →
    states (Result.flattenAll sink₁ n₁ rs₁ s₁) (Result.flattenAll sink₂ n₂ rs₂ s₂)
  | [], _, _, _, .nil, hs => hs
  | r₁ :: rs₁, _, _, _, .cons h hrest, hs => by
      simp only [Result.flattenAll]
      exact flattenAll M hn rs₁ hrest (flatten M hn r₁ h hs)

end

/-- Sinks that answer alike match. -/
theorem matches_of_alike (M : sink₁.Alike sink₂ states nodes) :
    sink₁.Match sink₂ states nodes where
  text := M.text
  element := M.element
  flatten hs hn h := M.flatten hn _ h hs

end Sink.Alike

end

end TagScript
