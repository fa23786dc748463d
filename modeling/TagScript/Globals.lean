import TagScript.Expression.Evaluate
import TagScript.Failure
import TagScript.Literal
import TagScript.Value.Normal

/-!
# `TagScript.Globals`: variables defined by expressions

A definition is a name and an expression, with an equals sign between them. Later
definitions may refer to earlier ones. A definition without an expression is the
empty text.

* `parseGlobals`: the variables that definitions define.
-/

set_option autoImplicit false

namespace TagScript

open Text

/-- Why definitions define nothing. -/
inductive GlobalFault where
  /-- A definition without a name. -/
  | unnamed (definition : String)
  /-- An expression without a value, by the name it was meant for. -/
  | invalid (name : String)
deriving Repr, DecidableEq, Inhabited

/-- The error that a caller sees. -/
def GlobalFault.toFailure : GlobalFault → Failure
  | .unnamed definition => .because .invalidGlobal [("definition", .text definition)]
  | .invalid name =>
    ((Failure.known .invalidGlobal).wrap (.made 0) (some (.ofText "invalid expression"))).withFields
      (.made 0) [("name", .text name)]

/-- The name and the expression of a definition. -/
def splitDefinition? (definition : String) : Option (String × String) :=
  match Literal.splitEquals? definition.toList with
  | none => none
  | some (name, source) =>
    let name := trimBlank (String.ofList name)
    if name = "" then none else some (name, trimBlank (String.ofList source))

/-- Define variables in order, each in terms of those before it. -/
def defineGlobals (environment : String → String) :
    List String → Table Value → Except GlobalFault (Table Value)
  | [], vars => .ok vars
  | definition :: rest, vars =>
    match splitDefinition? definition with
    | none => .error (.unnamed definition)
    | some (name, source) =>
      match if source = "" then some (.text "") else Expression.compute? vars environment source with
      | none => .error (.invalid name)
      | some v => defineGlobals environment rest (vars.insert name v)

/-- Normalise the values of a table, with the first unused identity. -/
def normalizeTable : Table Value → Nat → Table Value × Nat
  | [], fresh => ([], fresh)
  | (name, v) :: rest, fresh =>
    let (v, fresh) := v.normalize fresh
    let (rest, fresh) := normalizeTable rest fresh
    ((name, v) :: rest, fresh)

/-- The variables that definitions define, normalised. -/
def parseGlobals (environment : String → String) (definitions : List String) (fresh : Nat) :
    Except GlobalFault (Table Value × Nat) :=
  match defineGlobals environment definitions [] with
  | .error fault => .error fault
  | .ok vars => .ok (normalizeTable vars fresh)

end TagScript
