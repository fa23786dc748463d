import TagScript.Failure

/-!
# `TagScript.Eval.Fault`: why an evaluation stops

Evaluation stops at the first fault. `Fault.toFailure` gives the error that a
caller sees; the budget that bounds a run without a depth limit is not part of
the language, and running out of it has an error of its own.
-/

set_option autoImplicit false

namespace TagScript

open Log

/-- The reasons for which an evaluation stops. -/
inductive Fault where
  /-- The operand stack had no value for the named function. -/
  | underflow (function : String)
  /-- The operand stack had too few values for an operation of this arity. -/
  | underflowArity (function : String) (arity : Nat)
  /-- A call would have gone deeper than the limit. -/
  | depth (function : String) (limit : Int)
  /-- A node of a kind that the evaluator does not know. -/
  | unknownNode (type : String)
  /-- A range would have had more elements than allowed. -/
  | rangeLimit (low high : Float) (limit : Nat)
  /-- The run was cancelled. -/
  | canceled
  /-- The run's budget of nested calls was used up. -/
  | exhausted
deriving Inhabited

/-- The error that a caller sees. -/
def Fault.toFailure : Fault → Failure
  | .underflow function => .because .stackUnderflow [("function", .text function)]
  | .underflowArity function arity =>
    .because .stackUnderflow [("function", .text function), ("arity", .integer arity)]
  | .depth function limit =>
    .because .maxDepthExceeded [("function", .text function), ("limit", .integer limit)]
  | .unknownNode type => .because .unknownNode [("type", .text type)]
  | .rangeLimit low high limit =>
    .because .rangeLimit [("from", .number low), ("to", .number high), ("limit", .integer limit)]
  | .canceled => .known .canceled
  | .exhausted => .ofText "evaluation budget exhausted"

end TagScript
