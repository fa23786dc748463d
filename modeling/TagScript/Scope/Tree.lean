import TagScript.Scope.Function
import TagScript.Value.Normal
import TagScript.Scope.Table

/-!
# `TagScript.Scope.Tree`: scopes, their variables, functions and operand stacks

Scopes form a tree that only grows. A scope holds variables and functions. Some
scopes are boundaries: a boundary has an operand stack of its own, which the
scopes below it share up to the next boundary, and no variable beyond it can be
seen. Functions are found through boundaries, all the way to the root.

* `Tree.lookup`: a variable, up to and including the nearest boundary.
* `Tree.resolve`: a function, up to the root.
* `Tree.enter`: a new scope below another.
* `Tree.functionNames`: the names of the functions that can be resolved.
-/

set_option autoImplicit false

namespace TagScript.Scope

/-- One scope. -/
structure Frame where
  parent : Option Nat
  vars : Table Value
  funcs : Table Function
  /-- The number of the scope's operand stack. -/
  stack : Nat
  boundary : Bool
  /-- The number of boundaries between the scope and the root. -/
  depth : Nat
deriving Inhabited

/-- The scopes by number, their operand stacks by number with the top first, and
the first identity that no array has yet. -/
structure Tree where
  scopes : Array Frame
  operandStacks : Array (List Value)
  fresh : Nat
deriving Inhabited

/-- The functions of a new root scope: the built-in operations. -/
def prelude : Table Function :=
  Native.all.foldl (fun t n => t.insert n.name (.native n)) []

namespace Tree

/-- A tree with a root scope that holds the given variables. -/
def root (vars : Table Value) (fresh : Nat) : Tree :=
  { scopes := #[⟨none, vars, prelude, 0, true, 0⟩], operandStacks := #[[]], fresh }

/-- Bind variables to normalised values, later ones in place of earlier ones. -/
def bindGlobals : List (String × Value) → Table Value → Nat → Table Value × Nat
  | [], vars, fresh => (vars, fresh)
  | (name, v) :: rest, vars, fresh =>
    let (v, fresh) := v.normalize fresh
    bindGlobals rest (vars.insert name v) fresh

/-- A tree whose root holds the given globals, normalised. -/
def ofGlobals (globals : List (String × Value)) (fresh : Nat) : Tree :=
  let (vars, fresh) := bindGlobals globals [] fresh
  root vars fresh

/-- The scope of a number. -/
@[inline]
def get? (t : Tree) (i : Nat) : Option Frame :=
  t.scopes[i]?

/-- A new scope below the given one, and its number. A boundary gets an empty
operand stack; any other scope shares that of its parent. -/
def enter (t : Tree) (i : Nat) (boundary : Bool) : Nat × Tree :=
  let parent := (t.get? i).getD default
  if boundary then
    (t.scopes.size,
      { t with
        scopes := t.scopes.push ⟨some i, [], [], t.operandStacks.size, true, parent.depth + 1⟩
        operandStacks := t.operandStacks.push [] })
  else
    (t.scopes.size,
      { t with scopes := t.scopes.push ⟨some i, [], [], parent.stack, false, parent.depth⟩ })

/-- Bind a variable in a scope. -/
def set (t : Tree) (i : Nat) (name : String) (v : Value) : Tree :=
  { t with scopes := t.scopes.modify i fun s => { s with vars := s.vars.insert name v } }

/-- Bind a function in a scope. -/
def define (t : Tree) (i : Nat) (name : String) (f : Function) : Tree :=
  { t with scopes := t.scopes.modify i fun s => { s with funcs := s.funcs.insert name f } }

/-- Look a variable up from a scope, through at most `fuel` scopes. -/
def lookupWithin (t : Tree) (name : String) : Nat → Nat → Option Value
  | 0, _ => none
  | fuel + 1, i =>
    match t.get? i with
    | none => none
    | some s =>
      match s.vars.find? name with
      | some v => some v
      | none =>
        if s.boundary then none
        else
          match s.parent with
          | none => none
          | some p => lookupWithin t name fuel p

/-- The value of a variable that a scope sees. Parents have smaller numbers than
their children, so a path has at most `i + 1` scopes. -/
def lookup (t : Tree) (i : Nat) (name : String) : Option Value :=
  t.lookupWithin name (i + 1) i

/-- Look a function up from a scope, through at most `fuel` scopes. -/
def resolveWithin (t : Tree) (name : String) : Nat → Nat → Option Function
  | 0, _ => none
  | fuel + 1, i =>
    match t.get? i with
    | none => none
    | some s =>
      match s.funcs.find? name with
      | some f => some f
      | none =>
        match s.parent with
        | none => none
        | some p => resolveWithin t name fuel p

/-- The function that a scope sees under a name. -/
def resolve (t : Tree) (i : Nat) (name : String) : Option Function :=
  t.resolveWithin name (i + 1) i

/-- The functions of a scope and its ancestors in one table. -/
def functionsWithin (t : Tree) : Nat → Nat → Table Unit → Table Unit
  | 0, _, seen => seen
  | fuel + 1, i, seen =>
    match t.get? i with
    | none => seen
    | some s =>
      let seen := s.funcs.foldl (fun acc f => acc.insert f.1 ()) seen
      match s.parent with
      | none => seen
      | some p => functionsWithin t fuel p seen

/-- The names of the functions that a scope sees, in increasing order. -/
def functionNames (t : Tree) (i : Nat) : List String :=
  (t.functionsWithin (i + 1) i []).names

/-- The operand stack of a scope, top first. -/
def operands (t : Tree) (i : Nat) : List Value :=
  match t.get? i with
  | none => []
  | some s => (t.operandStacks[s.stack]?).getD []

/-- Put a value on a scope's operand stack. -/
def push (t : Tree) (i : Nat) (v : Value) : Tree :=
  match t.get? i with
  | none => t
  | some s => { t with operandStacks := t.operandStacks.modify s.stack (v :: ·) }

/-- The top value of a scope's operand stack. -/
def top? (t : Tree) (i : Nat) : Option Value :=
  (t.operands i).head?

/-- Take the top value off a scope's operand stack, if there is one. -/
def drop (t : Tree) (i : Nat) : Tree :=
  match t.get? i with
  | none => t
  | some s => { t with operandStacks := t.operandStacks.modify s.stack List.tail }

/-- The value of a literal in a scope. -/
def literalValue (t : Tree) (i : Nat) : Literal → Value
  | .number x => .number x
  | .text s => .text s
  | .bool b => .bool b
  | .var name => (t.lookup i name).getD .null
  | .binding _ none => .null
  | .binding _ (some value) => literalValue t i value
  | .custom s => .text s

/-- The value of a literal position; an empty one is null. -/
def valueOf (t : Tree) (i : Nat) : Option Literal → Value
  | none => .null
  | some l => t.literalValue i l

end Tree

end TagScript.Scope
