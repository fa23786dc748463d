/-!
# `TagScript.Eval.Sink`: where output nodes are made

The evaluator does not build output itself: it asks a sink to create elements
and texts and to append them to one another. To the evaluator a node is a number
that the sink handed out, or nothing at all, and a sink's state is opaque.

* `Sink.discard`: makes no nodes.
* `Sink.trace`: numbers the nodes from one on and records every request.
-/

set_option autoImplicit false

namespace TagScript

/-- An output node as the evaluator sees it. -/
abbrev NodeRef := Option Nat

/-- The four requests of the evaluator, over a state of the sink's choice. -/
structure Sink (σ : Type) where
  element : String → σ → NodeRef × σ
  setAttribute : NodeRef → String → String → σ → σ
  text : String → σ → NodeRef × σ
  append : NodeRef → NodeRef → σ → σ

/-- The sink that makes no nodes. -/
def Sink.discard : Sink Unit where
  element _ s := (none, s)
  setAttribute _ _ _ s := s
  text _ s := (none, s)
  append _ _ s := s

/-- A request to a sink, with the number of the node that it made or changed. -/
inductive SinkCall where
  | element (id : Nat) (tag : String)
  | setAttribute (id : NodeRef) (name value : String)
  | text (id : Nat) (text : String)
  | append (parent child : NodeRef)
deriving Repr, DecidableEq, Inhabited

/-- The requests so far, and how many nodes they made. -/
structure Trace where
  calls : Array SinkCall
  created : Nat
deriving Inhabited

/-- The sink that records what is asked of it. Number zero is left to the root. -/
def Sink.trace : Sink Trace where
  element tag s := (some (s.created + 1), ⟨s.calls.push (.element (s.created + 1) tag), s.created + 1⟩)
  setAttribute id name value s := { s with calls := s.calls.push (.setAttribute id name value) }
  text t s := (some (s.created + 1), ⟨s.calls.push (.text (s.created + 1) t), s.created + 1⟩)
  append parent child s := { s with calls := s.calls.push (.append parent child) }

end TagScript
