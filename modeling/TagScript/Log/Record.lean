import TagScript.Value.Basic

/-!
# `TagScript.Log.Record`: what is logged

A record has a severity level, a message and attributes. The value of an
attribute is typed, because each output form writes the types differently; a
group is an attribute whose value is a list of attributes.
-/

set_option autoImplicit false

namespace TagScript.Log

/-- The value of a log attribute. -/
inductive Datum where
  | text (s : String)
  | integer (n : Int)
  | unsigned (n : Nat)
  | number (x : Float)
  | bool (b : Bool)
  /-- A span of time in nanoseconds. -/
  | duration (nanoseconds : Int)
  /-- A point in time, in nanoseconds since the start of 1970. -/
  | instant (nanoseconds : Int)
  | group (attributes : List (String × Datum))
  /-- A severity level. -/
  | severity (level : Int)
  /-- An error, by its text. -/
  | failure (message : String)
  /-- An error that is shown by attributes. -/
  | report (attributes : List (String × Datum))
  /-- Any runtime value. -/
  | value (v : Value)
deriving Inhabited

/-- A named attribute. -/
abbrev Field := String × Datum

namespace Datum

/-- Whether a value is a group without attributes. -/
def isEmptyGroup : Datum → Bool
  | .group [] => true
  | _ => false

/-- A group of attributes; empty groups among them are left out. -/
def groupOf (fields : List Field) : Datum :=
  .group (fields.filter fun f => !f.2.isEmptyGroup)

/-- An error that is shown by attributes; empty groups among them are left out. -/
def reportOf (fields : List Field) : Datum :=
  .report (fields.filter fun f => !f.2.isEmptyGroup)

/-- A runtime value as an attribute: as its own type where it is a scalar. -/
def ofValue : Value → Datum
  | .text s => .text s
  | .bool b => .bool b
  | .number x => .number x
  | .single x => .number x
  | .integer kind n => if kind.isUnsigned then .unsigned n.toNat else .integer n
  | v => .value v

end Datum

/-- The levels of the program. Higher is more severe; levels in between exist. -/
inductive Severity where
  | trace | debug | info | warn | error
deriving Repr, DecidableEq, Inhabited

/-- The number of a level. -/
def Severity.level : Severity → Int
  | .trace => -8
  | .debug => -4
  | .info => 0
  | .warn => 4
  | .error => 8

/-- The name of a level. -/
def Severity.name : Severity → String
  | .trace => "trace"
  | .debug => "debug"
  | .info => "info"
  | .warn => "warn"
  | .error => "error"

/-- Every level of the program, least severe first. -/
def Severity.all : List Severity :=
  [.trace, .debug, .info, .warn, .error]

/-- One logged event. -/
structure Record where
  level : Int
  message : String
  fields : List Field
deriving Inhabited

/-- An event at one of the program's levels. -/
def Record.at (severity : Severity) (message : String) (fields : List Field) : Record :=
  ⟨severity.level, message, fields⟩

end TagScript.Log
