import TagScript.Proofs.Sink.Leaves
import TagScript.Proofs.Sink.Protocol

/-!
# `TagScript.Proofs.Sink.Recording`: a sink that remembers what was asked of it

`Sink.recorded` is a sink that passes every request on to another sink and writes it down,
together with the node that came back. `Sink.Takes` says the same without the writing: the
requests of a list, with the answers that are in it, take a sink from one state to another.

Flattening a result appends the nodes in it to the parent, and makes a text for each value
(`records_flatten`).
-/

set_option autoImplicit false

namespace TagScript

open SinkEvent

variable {σ : Type}

/-- The sink that passes requests on and writes them down. -/
def Sink.recorded (sink : Sink σ) : Sink (σ × List SinkEvent) where
  element tag s :=
    ((sink.element tag s.1).1, (sink.element tag s.1).2,
      s.2 ++ [.element (sink.element tag s.1).1 tag])
  setAttribute node name value s :=
    (sink.setAttribute node name value s.1, s.2 ++ [.setAttribute node name value])
  text t s :=
    ((sink.text t s.1).1, (sink.text t s.1).2, s.2 ++ [.text (sink.text t s.1).1 t])
  append parent child s := (sink.append parent child s.1, s.2 ++ [.append parent child])

/-- The requests take the sink from one state to another, and it answers them as they say. -/
inductive Sink.Takes (sink : Sink σ) : σ → List SinkEvent → σ → Prop where
  | nil (s : σ) : Takes sink s [] s
  | element {s s' : σ} {events : List SinkEvent} (tag : String)
      (h : Takes sink (sink.element tag s).2 events s') :
      Takes sink s (.element (sink.element tag s).1 tag :: events) s'
  | text {s s' : σ} {events : List SinkEvent} (t : String)
      (h : Takes sink (sink.text t s).2 events s') :
      Takes sink s (.text (sink.text t s).1 t :: events) s'
  | setAttribute {s s' : σ} {events : List SinkEvent} (node : NodeRef) (name value : String)
      (h : Takes sink (sink.setAttribute node name value s) events s') :
      Takes sink s (.setAttribute node name value :: events) s'
  | append {s s' : σ} {events : List SinkEvent} (parent child : NodeRef)
      (h : Takes sink (sink.append parent child s) events s') :
      Takes sink s (.append parent child :: events) s'

/-- Requests may be made one after another. -/
theorem Sink.Takes.trans {sink : Sink σ} {s s' s'' : σ} {a b : List SinkEvent}
    (h : sink.Takes s a s') (h' : sink.Takes s' b s'') : sink.Takes s (a ++ b) s'' := by
  induction h with
  | nil s => exact h'
  | element tag _ ih => exact .element tag (ih h')
  | text t _ ih => exact .text t (ih h')
  | setAttribute node name value _ ih => exact .setAttribute node name value (ih h')
  | append parent child _ ih => exact .append parent child (ih h')

/-- The requests of a list can be stopped at any of them. -/
theorem Sink.Takes.split {sink : Sink σ} {s s'' : σ} {a b : List SinkEvent}
    (h : sink.Takes s (a ++ b) s'') : ∃ s', sink.Takes s a s' ∧ sink.Takes s' b s'' := by
  induction a generalizing s with
  | nil => exact ⟨s, .nil s, h⟩
  | cons ev a ih =>
      cases h with
      | element tag h =>
          obtain ⟨s', ha, hb⟩ := ih h
          exact ⟨s', .element tag ha, hb⟩
      | text t h =>
          obtain ⟨s', ha, hb⟩ := ih h
          exact ⟨s', .text t ha, hb⟩
      | setAttribute node name value h =>
          obtain ⟨s', ha, hb⟩ := ih h
          exact ⟨s', .setAttribute node name value ha, hb⟩
      | append parent child h =>
          obtain ⟨s', ha, hb⟩ := ih h
          exact ⟨s', .append parent child ha, hb⟩

/-- From `s` to `s'` the recording sink has written down `events`. -/
structure Sink.Records (sink : Sink σ) (s : σ × List SinkEvent) (events : List SinkEvent)
    (s' : σ × List SinkEvent) : Prop where
  written : s'.2 = s.2 ++ events
  takes : sink.Takes s.1 events s'.1

namespace Sink.Records

variable {sink : Sink σ} {s s' s'' : σ × List SinkEvent} {a b : List SinkEvent}

/-- Where nothing is asked, nothing is written down. -/
theorem refl (sink : Sink σ) (s : σ × List SinkEvent) : sink.Records s [] s :=
  ⟨(List.append_nil _).symm, .nil _⟩

/-- What is asked later is written down behind. -/
theorem trans (h : sink.Records s a s') (h' : sink.Records s' b s'') :
    sink.Records s (a ++ b) s'' := by
  refine ⟨?_, h.takes.trans h'.takes⟩
  rw [h'.written, h.written, List.append_assoc]

/-- A request for an element is written down with the element that came back. -/
theorem element (sink : Sink σ) (tag : String) (s : σ × List SinkEvent) :
    sink.Records s [.element (sink.recorded.element tag s).1 tag]
      (sink.recorded.element tag s).2 :=
  ⟨rfl, .element tag (.nil _)⟩

/-- A request for a text is written down with the text that came back. -/
theorem text (sink : Sink σ) (t : String) (s : σ × List SinkEvent) :
    sink.Records s [.text (sink.recorded.text t s).1 t] (sink.recorded.text t s).2 :=
  ⟨rfl, .text t (.nil _)⟩

/-- A request to set an attribute is written down. -/
theorem setAttribute (sink : Sink σ) (node : NodeRef) (name value : String)
    (s : σ × List SinkEvent) :
    sink.Records s [.setAttribute node name value]
      (sink.recorded.setAttribute node name value s) :=
  ⟨rfl, .setAttribute node name value (.nil _)⟩

/-- A request to append a node is written down. -/
theorem append (sink : Sink σ) (parent child : NodeRef) (s : σ × List SinkEvent) :
    sink.Records s [.append parent child] (sink.recorded.append parent child s) :=
  ⟨rfl, .append parent child (.nil _)⟩

end Sink.Records

/-! ### Flattening -/

/-- The output node that a leaf is, if it is one. -/
def Leaf.node? : Leaf → Option NodeRef
  | .node n => some (some n)
  | .text _ => none

namespace Result

mutual

/-- The output nodes in a result, in order. -/
def nodes : Result → List NodeRef
  | .none | .scalar _ | .output Option.none => []
  | .list items => nodesAll items
  | .output (some n) => [some n]

/-- The output nodes in several results, in order. -/
def nodesAll : List Result → List NodeRef
  | [] => []
  | r :: rest => nodes r ++ nodesAll rest

end

/-- The nodes in results are those of the first ones and then those of the others. -/
@[simp]
theorem nodesAll_append (rs rs' : List Result) :
    nodesAll (rs ++ rs') = nodesAll rs ++ nodesAll rs' := by
  induction rs with
  | nil => rfl
  | cons r rs ih => rw [List.cons_append, nodesAll, nodesAll, ih, List.append_assoc]

/-- The nodes in results are those of each, in order. -/
theorem nodesAll_eq (rs : List Result) : nodesAll rs = rs.flatMap nodes := by
  induction rs with
  | nil => rfl
  | cons r rs ih => rw [nodesAll, ih, List.flatMap_cons]

/-- The nodes in a result are itself, if it is one, and those of its parts. -/
private theorem nodes_parts (r : Result) :
    r.nodes = r.leaf?.toList.filterMap Leaf.node? ++ r.parts.flatMap nodes := by
  cases r with
  | none => rfl
  | list items => exact nodesAll_eq items
  | output node => cases node <;> rfl
  | scalar v =>
      cases v with
      | array identity items => simp [nodes, leaf?, parts, List.flatMap_map]
      | _ => rfl

/-- The output nodes in a result are those among its leaves. -/
theorem nodes_eq (r : Result) : r.nodes = r.leaves.filterMap Leaf.node? := by
  induction r using induction with
  | h r ih =>
      rw [nodes_parts, leaves_eq, List.filterMap_append, List.filterMap_flatMap,
        List.flatMap_congr ih]

variable (sink : Sink σ) (parent : NodeRef)

/-- A leaf is appended, after a text has been made for it if it is not a node. -/
private theorem records_leaf (l : Leaf) (s : σ × List SinkEvent) :
    ∃ events, Feeds parent l.node?.toList events ∧
      sink.Records s events (Leaf.emit sink.recorded parent s l) := by
  cases l with
  | node n => exact ⟨_, .node (some n) .nil, .append sink parent (some n) s⟩
  | text t =>
      exact ⟨_, .text _ t .nil, (Sink.Records.text sink t s).trans (.append sink parent _ _)⟩

/-- Leaves are appended in order. -/
private theorem records_leaves (leaves : List Leaf) (s : σ × List SinkEvent) :
    ∃ events, Feeds parent (leaves.filterMap Leaf.node?) events ∧
      sink.Records s events (leaves.foldl (Leaf.emit sink.recorded parent) s) := by
  induction leaves generalizing s with
  | nil => exact ⟨[], .nil, .refl sink s⟩
  | cons l rest ih =>
      obtain ⟨a, ha, hs⟩ := records_leaf sink parent l s
      obtain ⟨b, hb, hs'⟩ := ih (Leaf.emit sink.recorded parent s l)
      refine ⟨a ++ b, ?_, hs.trans hs'⟩
      have hnodes := ha.append hb
      cases l <;> exact hnodes

/-- A result is appended as the nodes in it, with texts for the values in it. -/
theorem records_flatten (r : Result) (s : σ × List SinkEvent) :
    ∃ events, Feeds parent r.nodes events ∧
      sink.Records s events (r.flatten sink.recorded parent s) := by
  rw [nodes_eq, flatten_eq]
  exact records_leaves sink parent r.leaves s

/-- Behind the recording, results are flattened as they are without it. -/
theorem flatten_recorded (r : Result) (s : σ × List SinkEvent) :
    (r.flatten sink.recorded parent s).1 = r.flatten sink parent s.1 := by
  rw [flatten_eq, flatten_eq]
  exact (List.foldl_hom Prod.fst fun s l => by cases l <;> rfl).symm

end Result

end TagScript
