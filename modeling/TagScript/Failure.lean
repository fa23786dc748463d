import TagScript.Log.Record

/-!
# `TagScript.Failure`: errors, their causes and their identity

An error carries a message, log attributes and possibly a cause, which is
another error. New errors are derived from known ones by adding attributes or a
cause. Two disciplines decide whether an error is one of the known errors:

* a template error remembers the error it was first derived from, and is any
  error with the same origin;
* a command error is any bare error (no cause, no attributes) with its message.

Everything else is itself and nothing more, and an error also is whatever its
cause is (`Failure.isA`).
-/

set_option autoImplicit false

namespace TagScript

open Log

/-- The errors that the program knows by name. -/
inductive Sentinel where
  | stackUnderflow | maxDepthExceeded | unknownNode | malformedTag | parse | invalidGlobal
  | rangeLimit | openSource | writeOutput | writeConfig | fileExists | noTerminal
  | outOfBounds | editDeclined | canceled
deriving Repr, DecidableEq, Inhabited

namespace Sentinel

/-- The text of a known error. -/
def message : Sentinel → String
  | .stackUnderflow => "operand stack underflow"
  | .maxDepthExceeded => "maximum call depth exceeded"
  | .unknownNode => "unknown node kind"
  | .malformedTag => "malformed control tag"
  | .parse => "parse error"
  | .invalidGlobal => "invalid global definition"
  | .rangeLimit => "range exceeds element limit"
  | .openSource => "open template source"
  | .writeOutput => "write output"
  | .writeConfig => "write configuration file"
  | .fileExists => "file exists (use --force to overwrite)"
  | .noTerminal => "interactive terminal required"
  | .outOfBounds => "history index out of range"
  | .editDeclined => "edit declined"
  | .canceled => "context canceled"

/-- Every known error, in the order in which an error is classified. -/
def all : List Sentinel :=
  [.stackUnderflow, .maxDepthExceeded, .unknownNode, .malformedTag, .parse, .invalidGlobal,
    .rangeLimit, .openSource, .writeOutput, .writeConfig, .fileExists, .noTerminal,
    .outOfBounds, .editDeclined, .canceled]

end Sentinel

/-- What tells one error object from another. -/
inductive Identity where
  | known (s : Sentinel)
  | made (serial : Nat)
deriving Repr, DecidableEq, Inhabited

/-- The two disciplines of derived errors. -/
inductive Discipline where
  /-- Matched by origin. -/
  | template
  /-- Matched by message. -/
  | command
deriving Repr, DecidableEq, Inhabited

/-- An error. -/
inductive Failure where
  /-- An error with a text and nothing else. -/
  | plain (self : Identity) (text : String)
  /-- An error that others can be derived from. -/
  | derived (discipline : Discipline) (self origin : Identity) (message : String)
      (cause : Option Failure) (fields : List Field)
deriving Inhabited

namespace Failure

/-- A new error with a message. -/
def new (discipline : Discipline) (self : Identity) (message : String) : Failure :=
  .derived discipline self self message none []

/-- The error object of a known error. -/
def known (s : Sentinel) : Failure :=
  match s with
  | .stackUnderflow | .maxDepthExceeded | .unknownNode | .malformedTag | .parse
  | .invalidGlobal | .rangeLimit => new .template (.known s) s.message
  | .openSource | .writeOutput | .writeConfig | .fileExists | .noTerminal =>
    new .command (.known s) s.message
  | .outOfBounds | .editDeclined | .canceled => .plain (.known s) s.message

/-- An error with a text that nothing matches. -/
def ofText (text : String) : Failure :=
  .plain (.made 0) text

/-- The text of an error: its message, then the text of its cause. -/
def message : Failure → String
  | .plain _ text => text
  | .derived _ _ _ m none _ => m
  | .derived _ _ _ m (some cause) _ =>
    if m = "" then cause.message else m ++ ": " ++ cause.message

/-- The error behind this one. -/
def cause? : Failure → Option Failure
  | .plain _ _ => none
  | .derived _ _ _ _ cause _ => cause

/-- The identity of the error object. -/
def identity : Failure → Identity
  | .plain self _ => self
  | .derived _ self _ _ _ _ => self

/-- The attributes that were given to an error itself. -/
def fields : Failure → List Field
  | .plain _ _ => []
  | .derived _ _ _ _ _ fields => fields

/-- Derive an error that has the given cause in place of the old one. -/
def wrap (e : Failure) (self : Identity) (cause : Option Failure) : Failure :=
  match e with
  | .plain _ text => .plain self text
  | .derived d _ origin m _ fields => .derived d self origin m cause fields

/-- Derive an error with more attributes. -/
def withFields (e : Failure) (self : Identity) (more : List Field) : Failure :=
  match e with
  | .plain _ text => .plain self text
  | .derived d _ origin m cause fields => .derived d self origin m cause (fields ++ more)

/-- A known error with attributes. -/
def because (s : Sentinel) (fields : List Field) : Failure :=
  (known s).withFields (.made 0) fields

/-- Whether an error, its cause aside, is the target. -/
def matchesTarget : Failure → Failure → Bool
  | .plain self _, target => self == target.identity
  | .derived .template _ origin _ _ _, .derived .template _ other _ _ _ => origin == other
  | .derived .command self _ m _ _, .derived .command other _ n cause fields =>
    self == other || (cause.isNone && fields.isEmpty && n != "" && n == m)
  | .derived .., _ => false

/-- Whether an error is the target: by itself or through its causes. -/
def isA : Failure → Failure → Bool
  | e@(.plain _ _), target => e.matchesTarget target
  | e@(.derived _ _ _ _ none _), target => e.matchesTarget target
  | e@(.derived _ _ _ _ (some cause) _), target => e.matchesTarget target || cause.isA target

/-- The first known error that an error is. -/
def classify (e : Failure) : Option Sentinel :=
  Sentinel.all.find? fun s => e.isA (known s)

/-- The first error of a discipline among an error and its causes. -/
def find? (d : Discipline) : Failure → Option Failure
  | .plain _ _ => none
  | e@(.derived d' _ _ _ none _) => if d' = d then some e else none
  | e@(.derived d' _ _ _ (some cause) _) => if d' = d then some e else cause.find? d

/-- The template error in an error, or a new one around it. -/
def asTemplate (e : Failure) (self : Identity) : Failure :=
  (e.find? .template).getD (.derived .template self self "" (some e) [])

/-- An error as log attributes: its message, the text of its cause, and the
attributes it was given. -/
def report : Failure → List Field
  | .plain _ _ => []
  | .derived _ _ _ m cause fields =>
    (if m = "" then [] else [("error", .text m)]) ++
    (match cause with
      | none => []
      | some c => [("cause", .text c.message)]) ++ fields

end Failure

end TagScript
