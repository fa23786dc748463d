import TagScript.Eval.Sink
import TagScript.Value.Text

/-!
# `TagScript.Eval.Result`: what evaluation leaves for the output

The result of a node is nothing, an output node, a value that is still to be
rendered, or a list of results. Flattening appends a result's leaves to a parent
in order; a value that is an array is expanded like a list.
-/

set_option autoImplicit false

namespace TagScript

/-- The rendering of one evaluated node. -/
inductive Result where
  | none
  | list (items : List Result)
  /-- A node made by the sink. -/
  | output (node : NodeRef)
  /-- A value to be rendered as text. -/
  | scalar (v : Value)
deriving Inhabited

namespace Result

variable {σ : Type}

mutual

/-- Append the text leaves of a value: none for null, one for each element of an
array, else one with the value's text. -/
def appendValue (sink : Sink σ) (parent : NodeRef) : Value → σ → σ
  | .null, s => s
  | .array _ items, s => appendValues sink parent items s
  | v, s =>
    let (node, s) := sink.text v.toText s
    sink.append parent node s

/-- Append the text leaves of several values in order. -/
def appendValues (sink : Sink σ) (parent : NodeRef) : List Value → σ → σ
  | [], s => s
  | v :: rest, s => appendValues sink parent rest (appendValue sink parent v s)

end

mutual

/-- Append the leaves of a result to a parent. -/
def flatten (sink : Sink σ) (parent : NodeRef) : Result → σ → σ
  | .none, s => s
  | .list items, s => flattenAll sink parent items s
  | .output Option.none, s => s
  | .output (some node), s => sink.append parent (some node) s
  | .scalar v, s => appendValue sink parent v s

/-- Append the leaves of several results in order. -/
def flattenAll (sink : Sink σ) (parent : NodeRef) : List Result → σ → σ
  | [], s => s
  | r :: rest, s => flattenAll sink parent rest (flatten sink parent r s)

end

end Result

end TagScript
