import TagScript.Eval.Machine

/-!
# `TagScript.Eval.Node`: evaluation

Evaluation goes down the template; only a call leaves it, for the body of a
function that some scope holds. The evaluation of nodes is therefore defined over
a meaning of user calls (`Caller`), by recursion on the node, and the meaning of
user calls by recursion on a budget of nested calls. Under a depth limit the
budget is never used up.

* `evalNode`, `evalBody`: a node and a list of nodes in a scope.
* `callUser`: a call of a user function.
* `render`: nodes one after another into a parent node.
-/

set_option autoImplicit false

namespace TagScript

open Log

variable {σ : Type}

/-- A meaning of user calls: the function, the calling scope, the arguments. -/
abbrev Caller (σ : Type) := UserFunction → Nat → List Value → Run σ Result

/-- Whether the first condition holds in a scope. Without one nothing holds. -/
def holds (scope : Nat) (conditions : List (Option Literal)) : Run σ Bool := do
  match conditions with
  | [] => return false
  | c :: _ => return (← Run.literal scope c).truthy

/-- The value of a child of a comment. Only a value node has one. -/
def commentValue (scope : Nat) : Node → Run σ Value
  | .value l => Run.literal scope l
  | .foreign type => throw (.unknownNode type)
  | .missing => throw (.unknownNode "null")
  | _ => return .null

/-- Log the values of a comment's children. -/
def evalComment (scope : Nat) (body : List Node) : Run σ Result := do
  let values ← body.mapM (commentValue scope)
  Run.note .info "comment" [("values", .value (.array 0 values))]
  return .none

/-- Bind the bindings among literals in a scope, each seeing the ones before it. -/
def bindAll (scope : Nat) (bindings : List (Option Literal)) : Run σ Unit :=
  bindings.forM fun l =>
    match l with
    | some (.binding name value) => do
      Run.setVar scope name (← Run.literal scope (some (.binding name value)))
    | _ => return

/-- Register a function. -/
def evalDefine (scope : Nat) (name : Option Literal) (params : List (Option Literal))
    (body : List Node) : Run σ Result := do
  let name := (← Run.literal scope name).toText
  let params ← params.mapM fun p => return (← Run.literal scope p).toText
  Run.defineFunc scope name (.user ⟨name, params, body⟩)
  return .none

/-- The elements that a value yields to a loop. -/
def Value.elements? : Value → Option (List Value)
  | .array _ items => some items
  | .text s => some (s.toList.map fun c => .text (String.singleton c))
  | _ => none

/-- Ask whether the run is cancelled, and stop it if it is. -/
def checkCanceled (cfg : Setting σ) : Run σ Unit := do
  let asked := (← get).polls
  modify fun w => { w with polls := asked + 1 }
  if cfg.canceled.isCanceledAt asked then throw .canceled

/-- Call the function that a scope sees under a name. -/
def callFunction (caller : Caller σ) (scope : Nat) (f : Function) (args : List Value) :
    Run σ Result :=
  match f with
  | .user f => caller f scope args
  | .native n => n.invoke scope args

/-- Call a function by name. An unknown name is logged and renders nothing. -/
def evalCall (caller : Caller σ) (scope : Nat) (function : Option Literal)
    (args : List (Option Literal)) : Run σ Result := do
  let name := (← Run.literal scope function).toText
  match (← get).tree.resolve scope name with
  | none =>
    Run.note .warn "function not found" [("name", .text name)]
    return .none
  | some f =>
    let args ← args.mapM (Run.literal scope)
    Run.note .trace "call" [("name", .text name), ("args", .integer args.length)]
    callFunction caller scope f args

/-- The result of a body, given the results of its nodes. -/
def bodyResult : List Result → Result
  | [] => .none
  | results => .list results

mutual

/-- Evaluate a node in a scope. -/
def evalNode (cfg : Setting σ) (caller : Caller σ) (scope : Nat) : Node → Run σ Result
  | .value l => do
    let text := (← Run.literal scope l).toText
    return .output (← Run.createText cfg.sink text)
  | .comment body => evalComment scope body
  | .define name params body => evalDefine scope name params body
  | .letIn bindings body => do
    let child ← Run.enter scope false
    bindAll child bindings
    return bodyResult (← evalAll cfg caller child body)
  | .cond body => evalCond cfg caller scope body
  | .ifThen conditions body => do
    if ← holds scope conditions then
      return bodyResult (← evalAll cfg caller scope body)
    else
      return .none
  | .orElse body => do return bodyResult (← evalAll cfg caller scope body)
  | .forEach name sequence body => do
    let name := (← Run.literal scope name).toText
    let v ← Run.literal scope sequence
    match v.elements? with
    | none =>
      Run.note .warn "value is not iterable" [("name", .text name), ("type", .text v.typeName)]
      return .none
    | some items =>
      let child ← Run.enter scope false
      let results ← items.mapM fun item => do
        checkCanceled cfg
        Run.setVar child name item
        return bodyResult (← evalAll cfg caller child body)
      return .list results
  | .call function args => evalCall caller scope function args
  | .element tag attributes body => do
    let node ← Run.createElement cfg.sink tag attributes
    let out := bodyResult (← evalAll cfg caller scope body)
    Run.flatten cfg.sink node out
    return .output node
  | .foreign type => throw (.unknownNode type)
  | .missing => throw (.unknownNode "null")

/-- Evaluate nodes in order, up to the first fault. -/
def evalAll (cfg : Setting σ) (caller : Caller σ) (scope : Nat) : List Node → Run σ (List Result)
  | [] => return []
  | n :: rest => do
    let r ← evalNode cfg caller scope n
    let rs ← evalAll cfg caller scope rest
    return r :: rs

/-- Walk the branches of a conditional up to the one that decides. Other nodes on
the way are evaluated, and their output is dropped. An if that does not hold is one
of them, and its condition is tested once more. -/
def evalCond (cfg : Setting σ) (caller : Caller σ) (scope : Nat) : List Node → Run σ Result
  | [] => return .none
  | .orElse body :: _ => do return bodyResult (← evalAll cfg caller scope body)
  | .ifThen conditions body :: rest => do
    if ← holds scope conditions then
      return bodyResult (← evalAll cfg caller scope body)
    else
      let _ ← evalNode cfg caller scope (.ifThen conditions body)
      evalCond cfg caller scope rest
  | n :: rest => do
    let _ ← evalNode cfg caller scope n
    evalCond cfg caller scope rest

end

/-- Evaluate a body in a scope. -/
def evalBody (cfg : Setting σ) (caller : Caller σ) (scope : Nat) (body : List Node) :
    Run σ Result := do
  return bodyResult (← evalAll cfg caller scope body)

/-- Bind parameters to the arguments at their positions. -/
def bindParams (scope : Nat) : List String → List Value → Run σ Unit
  | param :: params, arg :: args => do
    Run.setVar scope param arg
    bindParams scope params args
  | _, _ => return

/-- Run the body of a function in a scope of its own, with the parameters bound. -/
def runFunction (cfg : Setting σ) (caller : Caller σ) (scope : Nat) (f : UserFunction)
    (args : List Value) : Run σ Result := do
  checkCanceled cfg
  bindParams scope f.params args
  evalBody cfg caller scope f.body

/-- Move the top of the stack behind a boundary, or null, to the stack before it. -/
def handBack (child scope : Nat) : Run σ Unit := do
  let top := ((← get).tree.top? child).getD .null
  Run.changeTree (·.drop child)
  Run.push scope top

/-- Call a user function, with at most `budget` calls nested in one another. The
body runs in a scope behind a new boundary; what it leaves on top of its own
stack, or null, is handed back to the caller's stack. -/
def callUser (cfg : Setting σ) : Nat → Caller σ
  | 0, _, _, _ => throw .exhausted
  | budget + 1, f, scope, args => do
    let child ← Run.enter scope true
    let depth := ((← get).tree.get? child).getD default |>.depth
    if 0 < cfg.limit ∧ cfg.limit < depth then
      throw (.depth f.name cfg.limit)
    let out ← runFunction cfg (callUser cfg budget) child f args
    handBack child scope
    return out

/-- The budget of nested calls that suffices under a depth limit; without one, the
budget of the greatest limit. -/
def callBudget (limit : Int) : Nat :=
  (if 0 < limit then limit else maxLimit).toNat + 1

/-- Evaluate a node in a scope. -/
def eval (cfg : Setting σ) (scope : Nat) (n : Node) : Run σ Result :=
  evalNode cfg (callUser cfg (callBudget cfg.limit)) scope n

/-- Call a function from a scope. -/
def call (cfg : Setting σ) (scope : Nat) (f : Function) (args : List Value) : Run σ Result :=
  callFunction (callUser cfg (callBudget cfg.limit)) scope f args

/-- Evaluate nodes in a scope one after another, and append the output of each to
the parent before the next is evaluated. -/
def render (cfg : Setting σ) (scope : Nat) (parent : NodeRef) : List Node → Run σ Unit
  | [] => return
  | n :: rest => do
    let r ← eval cfg scope n
    Run.flatten cfg.sink parent r
    render cfg scope parent rest

end TagScript
