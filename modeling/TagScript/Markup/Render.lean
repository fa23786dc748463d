import TagScript.Eval.Node
import TagScript.Markup.Source

/-!
# `TagScript.Markup.Render`: from a template to markup

Rendering evaluates the nodes of a template in a root scope with the sink that
builds markup, into a fragment, and writes the fragment. A rendering as a whole
is all or nothing: after a fault no text comes back, while the log tells what
happened up to it.
-/

set_option autoImplicit false

namespace TagScript

open Markup Scope

/-- What an evaluation is set up with. -/
structure Options where
  globals : List (String × Value)
  limit : Int
  canceled : Cancellation
  /-- The first identity that no array of the globals has. -/
  fresh : Nat
deriving Inhabited

/-- The state at the start of a run that builds markup. -/
def World.initial {σ : Type} (globals : List (String × Value)) (fresh : Nat) (sink : σ) : World σ :=
  ⟨Tree.ofGlobals globals fresh, #[], sink, 0⟩

/-- A new fragment in the store of a run. -/
def World.newFragment (w : World Forest) : Nat × World Forest :=
  let (root, forest) := w.sink.create .fragment
  (root, { w with sink := forest })

/-- Evaluate nodes in the root scope into a new fragment: the fragment's number,
the fault if there was one, and the state afterwards. -/
def World.renderFragment (w : World Forest) (limit : Int) (canceled : Cancellation)
    (nodes : List Node) : Nat × Except Fault Unit × World Forest :=
  let (root, w) := w.newFragment
  let (outcome, w) := (render ⟨Sink.html, limit, canceled⟩ 0 (some root) nodes).run.run w
  (root, outcome, w)

/-- The text of a fragment, with the failure that cut it short if there was one. -/
def World.writeFragment (w : World Forest) (root : Nat) : String × Option Failure :=
  let (text, stopped) := writeAll (w.sink.trees root) ""
  (text, stopped.map fun tag => .ofText (voidMessage tag))

/-- Render nodes in a new environment: the markup or a failure, and the log. -/
def renderNodes (options : Options) (nodes : List Node) :
    Except Failure String × Array Log.Record :=
  let w := World.initial options.globals options.fresh Forest.empty
  let (root, outcome, w) := w.renderFragment options.limit options.canceled nodes
  match outcome with
  | .error fault => (.error fault.toFailure, w.log)
  | .ok _ =>
    match w.writeFragment root with
    | (_, some failure) => (.error failure, w.log)
    | (text, none) => (.ok text, w.log)

/-- Render a template text in a new environment. -/
def renderText (options : Options) (source : String) :
    Except Failure String × Array Log.Record :=
  match parseTemplate source with
  | .error fault => (.error fault.toFailure, #[])
  | .ok nodes => renderNodes options nodes

end TagScript
