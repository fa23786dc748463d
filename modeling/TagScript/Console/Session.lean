import TagScript.Log.Logger
import TagScript.Markup.Render

/-!
# `TagScript.Console.Session`: evaluation that goes on

A session keeps one root scope. What one fragment defines is there for the next,
until the session is reset. Each fragment is rendered on its own, and what was
rendered before a fault is shown together with it.

* `Session.evalNodes`, `Session.eval`: render a fragment.
* `Session.signature?`: the parameters of a function.
-/

set_option autoImplicit false

namespace TagScript.Console

open Log Markup Text

/-- A session: what it was set up with, and the state of its root scope. -/
structure Session where
  globals : List (String × Value)
  limit : Int
  /-- The level of the diagnostics. -/
  level : Int
  world : World Forest

/-- What comes of a fragment. -/
structure Reply where
  markup : String
  /-- What was logged on the way. -/
  diagnostics : String
  failure : Option Failure
deriving Inhabited

namespace Session

/-- A new session. -/
def start (globals : List (String × Value)) (limit level : Int) (fresh : Nat) : Session :=
  ⟨globals, limit, level, World.initial globals fresh Forest.empty⟩

/-- Forget every definition, binding and operand. -/
def reset (s : Session) : Session :=
  { s with world := World.initial s.globals s.world.tree.fresh Forest.empty }

/-- The logger of diagnostics. -/
def logger (s : Session) : Logger :=
  .make ⟨some s.level, some .text, some false, some "none", false⟩

/-- The text of the diagnostics, without a line end behind it. -/
def diagnostics (s : Session) : String :=
  let text := s.logger.emitAll 0 s.world.log.toList
  String.ofList (text.toList.reverse.dropWhile (· == '\n')).reverse

/-- Render nodes into a fragment of their own. -/
def evalNodes (s : Session) (canceled : Cancellation) (nodes : List Node) : Reply × Session :=
  let (root, outcome, w) := s.world.renderFragment s.limit canceled nodes
  let (text, stopped) := w.writeFragment root
  let failure := match outcome with
    | .error fault => some fault.toFailure
    | .ok _ => stopped
  let done := { s with world := w }
  (⟨text, done.diagnostics, failure⟩, { s with world := { w with log := #[] } })

/-- Render a fragment of template text. -/
def eval (s : Session) (canceled : Cancellation) (source : String) : Reply × Session :=
  match parseTemplate source with
  | .error fault => (⟨"", "", some fault.toFailure⟩, s)
  | .ok nodes => s.evalNodes canceled nodes

/-- The names of the functions, in order. -/
def functions (s : Session) : List String :=
  s.world.tree.functionNames 0

/-- Names for the operands of a built-in operation: `a`, `b` and so on. -/
def operandNames (arity : Nat) : List String :=
  (List.range arity).map fun i => (Char.ofNat ('a'.toNat + i)).toString

/-- The parameters of a function. -/
def signature? (s : Session) (name : String) : Option (List String) :=
  match s.world.tree.resolve 0 name with
  | none => none
  | some (.user f) => some f.params
  | some (.native n) => some (operandNames n.arity)

/-- The texts of the operands, the bottom first. -/
def stack (s : Session) : List String :=
  (s.world.tree.operands 0).reverse.map Value.toText

/-- Evaluate fragments in order and drop what comes of them. -/
def evalAll (s : Session) (sources : List String) : Session :=
  sources.foldl (fun s source => (s.eval false source).2) s

end Session

end TagScript.Console
