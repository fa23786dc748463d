import TagScript.Value.Number
import TagScript.Text.Quoted

/-!
# `TagScript.Literal`: what an attribute of a control tag says

An attribute of a control tag is a literal: a number, a variable reference
`$name`, one of the two booleans, or any other text. An attribute with a value
is a binding of its name to such a literal.

* `Literal.parse`: the literal that a text denotes.
* `Literal.ofAttribute`: the literal of an attribute given as name and value.
* `Literal.ofAttributeText`: the same from `name` or `name=value` in one text.
* `Literal.source`: the text of a literal.
-/

set_option autoImplicit false

namespace TagScript

open Text

/-- A literal in attribute position. -/
inductive Literal where
  | number (x : Float)
  | text (s : String)
  | bool (b : Bool)
  /-- A reference to the variable of this name. -/
  | var (name : String)
  /-- A named literal; used in a position it stands for its value. -/
  | binding (name : String) (value : Option Literal)
  /-- A literal of the embedding application, which stands for a fixed text. -/
  | custom (s : String)
deriving Inhabited

namespace Literal

/-- The source form of a literal. -/
def source : Literal → String
  | .number x => numberText x
  | .text s => s
  | .bool b => boolText b
  | .var name => "$" ++ name
  | .binding name none => name ++ "="
  | .binding name (some value) => name ++ "=" ++ quote value.source
  | .custom s => s

/-- The literal that a text which is no number denotes. -/
def parseWord (s : String) : Literal :=
  match s.toList with
  | '$' :: name => .var (String.ofList name)
  | _ =>
    if s = "true" then .bool true
    else if s = "false" then .bool false
    else .text s

/-- The literal that a text denotes: a number if it reads as a finite one, else a
variable, a boolean or a text. -/
def parse (s : String) : Literal :=
  match parseNumber? s with
  | some x => .number x
  | none => parseWord s

/-- The literal of an attribute. Without a value the attribute stands in a
position and is read from its name; with one it is a binding. -/
def ofAttribute (name value : String) : Literal :=
  if value = "" then parse name else .binding name (some (parse value))

/-- Split `name=value` at its first equals sign. -/
def splitEquals? (cs : List Char) : Option (List Char × List Char) :=
  match cs.dropWhile (· ≠ '=') with
  | [] => none
  | _ :: value => some (cs.takeWhile (· ≠ '='), value)

/-- The literal of an attribute in one text. The sign that divides name and value
is the first one that is not the first character. -/
def ofAttributeText (s : String) : Literal :=
  match s.toList with
  | [] => parse s
  | c :: rest =>
    match splitEquals? rest with
    | none => parse s
    | some (name, value) => ofAttribute (String.ofList (c :: name)) (String.ofList value)

end Literal

end TagScript
