import TagScript.Template

/-!
# `TagScript.Scope.Function`: what a call can reach

A function is either defined by a template, or one of the built-in operations.
A built-in operation of positive arity takes its operands from the operand
stack; the others look at the arguments of the call.
-/

set_option autoImplicit false

namespace TagScript

/-- The built-in operations. -/
inductive Native where
  | push | pop | set | range
  | add | sub | mul | div | rem
  | eq | ne | lt | le | gt | ge
  | and | or
deriving Repr, DecidableEq, Inhabited

namespace Native

/-- The name under which an operation is bound. -/
def name : Native → String
  | .push => "push" | .pop => "pop" | .set => "set" | .range => "range"
  | .add => "add" | .sub => "sub" | .mul => "mul" | .div => "div" | .rem => "rem"
  | .eq => "eq" | .ne => "ne" | .lt => "lt" | .le => "le" | .gt => "gt" | .ge => "ge"
  | .and => "and" | .or => "or"

/-- How many operands an operation takes from the stack. -/
def arity : Native → Nat
  | .push | .pop | .set | .range => 0
  | _ => 2

/-- Every built-in operation. -/
def all : List Native :=
  [.push, .pop, .set, .range, .add, .sub, .mul, .div, .rem, .eq, .ne, .lt, .le, .gt, .ge,
    .and, .or]

end Native

/-- A function defined by a template. -/
structure UserFunction where
  name : String
  params : List String
  body : List Node
deriving Inhabited

/-- What a name can be bound to as a function. -/
inductive Function where
  | user (f : UserFunction)
  | native (n : Native)
deriving Inhabited

end TagScript
