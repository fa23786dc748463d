import TagScript.Eval.Fault
import TagScript.Eval.Result
import TagScript.Scope.Tree
import TagScript.Value.Operator

/-!
# `TagScript.Eval.Machine`: the state of a run and the built-in operations

A run changes three things: the tree of scopes, the log, and the sink. All three
survive a fault, so that what was done before it stays visible. The log holds
every event; which of them are written, and how, is for a logger to decide. A run
also asks from time to time whether it has been cancelled, and counts how often.

* `Native.apply`: the value that an operation on two operands computes.
* `Native.invoke`: a call of a built-in operation from a scope.
-/

set_option autoImplicit false

namespace TagScript

open Log Scope

/-- The state of a run. -/
structure World (σ : Type) where
  tree : Tree
  log : Array Record
  sink : σ
  /-- How often the run has asked whether it is cancelled. -/
  polls : Nat

/-- A computation on the state of a run that may stop with a fault. -/
abbrev Run (σ : Type) := ExceptT Fault (StateM (World σ))

/-- When a run is cancelled: the answer to each time that it asks, counted from
zero. A run may be cancelled at any moment, from outside. -/
structure Cancellation where
  isCanceledAt : Nat → Bool
deriving Inhabited

/-- A run that is cancelled from the start, or never. -/
instance : Coe Bool Cancellation := ⟨fun b => ⟨fun _ => b⟩⟩

/-- What does not change during a run. -/
structure Setting (σ : Type) where
  sink : Sink σ
  /-- The greatest depth of nested calls; zero or less is no limit. -/
  limit : Int
  canceled : Cancellation

/-- How deeply calls may nest when nothing else is asked for. -/
def defaultLimit : Int := 1000

/-- The greatest limit that can be asked for: limits are integers of 64 bits. -/
def maxLimit : Int := Int64.maxValue.toInt

/-- How many elements a range may have. -/
def maxRange : Nat := Nat.pow 2 20

namespace Run

variable {σ : Type}

/-- Log an event. -/
def note (severity : Severity) (message : String) (fields : List Field) : Run σ Unit :=
  modify fun w => { w with log := w.log.push (.at severity message fields) }

/-- Change the tree of scopes. -/
def changeTree (f : Tree → Tree) : Run σ Unit :=
  modify fun w => { w with tree := f w.tree }

/-- The value of a literal position in a scope. -/
def literal (scope : Nat) (l : Option Literal) : Run σ Value := do
  return (← get).tree.valueOf scope l

/-- A new scope below the given one. -/
def enter (scope : Nat) (boundary : Bool) : Run σ Nat :=
  modifyGet fun w =>
    let (child, tree) := w.tree.enter scope boundary
    (child, { w with tree })

/-- Bind a variable. -/
def setVar (scope : Nat) (name : String) (v : Value) : Run σ Unit :=
  changeTree (·.set scope name v)

/-- Bind a function, and log that. -/
def defineFunc (scope : Nat) (name : String) (f : Function) : Run σ Unit := do
  note .trace "define function" [("name", .text name)]
  changeTree (·.define scope name f)

/-- Put a value on a scope's operand stack. -/
def push (scope : Nat) (v : Value) : Run σ Unit :=
  changeTree (·.push scope v)

/-- Take the top value off a scope's operand stack, or stop with the fault. -/
def pop (scope : Nat) (fault : Fault) : Run σ Value := do
  match (← get).tree.top? scope with
  | none => throw fault
  | some v =>
    changeTree (·.drop scope)
    return v

/-- Create a text node. -/
def createText (sink : Sink σ) (text : String) : Run σ NodeRef :=
  modifyGet fun w =>
    let (node, s) := sink.text text w.sink
    (node, { w with sink := s })

/-- Create an element with its attributes. -/
def createElement (sink : Sink σ) (tag : String) (attributes : List Attribute) : Run σ NodeRef :=
  modifyGet fun w =>
    let (node, s) := sink.element tag w.sink
    let s := attributes.foldl (fun s a => sink.setAttribute node a.name a.value s) s
    (node, { w with sink := s })

/-- Append the leaves of a result to an output node. -/
def flatten (sink : Sink σ) (parent : NodeRef) (r : Result) : Run σ Unit :=
  modify fun w => { w with sink := r.flatten sink parent w.sink }

end Run

namespace Native

/-- The value that an operation on two operands computes. The operations that
take no operands from the stack compute nothing here. -/
def apply : Native → Value → Value → Value
  | .add, a, b => a.plus b
  | .sub, a, b => a.arithmetic (· - ·) b
  | .mul, a, b => a.arithmetic (· * ·) b
  | .div, a, b => a.arithmetic (· / ·) b
  | .rem, a, b => a.arithmetic remainder b
  | .eq, a, b => .bool (a.same b)
  | .ne, a, b => .bool (!a.same b)
  | .lt, a, b => .bool (Value.ordered (· == .lt) a b)
  | .le, a, b => .bool (Value.ordered (· != .gt) a b)
  | .gt, a, b => .bool (Value.ordered (· == .gt) a b)
  | .ge, a, b => .bool (Value.ordered (· != .lt) a b)
  | .and, a, b => .bool (a.truthy && b.truthy)
  | .or, a, b => .bool (a.truthy || b.truthy)
  | _, _, _ => .null

/-- The numbers from `low` on, `count` of them. -/
def sequence (low : Float) (count : Nat) : List Value :=
  (List.range count).map fun i => .number (low + Float.ofNat i)

/-- The elements of a range: none unless both ends are numbers and in order. -/
def rangeItems (args : List Value) : Except Fault (List Value) :=
  match args with
  | a :: b :: _ =>
    let low := a.toNumber
    let high := b.toNumber
    if low.isNaN || high.isNaN || low ≥ high then .ok []
    else
      let count := ceiling (high - low)
      if count > Float.ofNat maxRange then .error (.rangeLimit low high maxRange)
      else .ok (sequence low count.toUInt64.toNat)
  | _ => .ok []

variable {σ : Type}

/-- Push an array made by a range, as a new object. -/
def pushRange (scope : Nat) (items : List Value) : Run σ Unit :=
  Run.changeTree fun t => { t with fresh := t.fresh + 1 }.push scope (.array t.fresh items)

/-- Call a built-in operation from a scope. Operands that were taken before the
stack ran out are gone. -/
def invoke (n : Native) (scope : Nat) (args : List Value) : Run σ Result := do
  match n with
  | .push =>
    Run.push scope (args.headD .null)
    return .none
  | .pop =>
    match ← Run.pop scope (.underflow "pop") with
    | .null => return .none
    | v => return .scalar v
  | .set =>
    let v ← Run.pop scope (.underflow "set")
    Run.setVar scope (args.headD .null).toText v
    return .none
  | .range =>
    match rangeItems args with
    | .error fault => throw fault
    | .ok items =>
      pushRange scope items
      return .none
  | n =>
    let fault := Fault.underflowArity n.name n.arity
    let b ← Run.pop scope fault
    let a ← Run.pop scope fault
    Run.push scope (n.apply a b)
    return .none

end Native

end TagScript
