import TagScript.Log.Record
import TagScript.Text.Blank
import TagScript.Text.Case
import TagScript.Decimal.Numeral

/-!
# `TagScript.Log.Level`: levels and formats by name

Levels are numbers, five of which have names; the others are written by their
distance from a name, or by the number alone. What is not understood as a name
is the default.

* `parseLevel`, `levelName`: a level from text and to text.
* `Format`: the output formats of a logger.
-/

set_option autoImplicit false

namespace TagScript.Log

open Decimal Text

/-- The level of a logger that is not told another. -/
def defaultLevel : Int := 0

/-- The name of a level; one without a name is shown by its number. -/
def levelName (level : Int) : String :=
  match Severity.all.find? fun s => s.level = level with
  | some s => s.name
  | none => "Level(" ++ toString level ++ ")"

/-- The base of a level that is written with a distance. -/
def baseLevel? (name : String) : Option Int :=
  match upper name with
  | "DEBUG" => some (-4)
  | "INFO" => some 0
  | "WARN" => some 4
  | "ERROR" => some 8
  | _ => none

/-- A sign and digits that fill the text, within 64 bits. -/
def offset? (cs : List Char) : Option Int :=
  match cs with
  | [] => some 0
  | _ =>
    let (negative, digits) := splitSign cs
    if digits.isEmpty || !digits.all isDigit then none
    else
      let n := ofDigits 10 digitValue digits
      if negative then (if n ≤ Nat.pow 2 63 then some (-n) else none)
      else (if n < Nat.pow 2 63 then some n else none)

/-- The level that a text names: a name alone, or with a signed distance behind
it. Anything else is the default level. -/
def parseLevel (s : String) : Int :=
  let t := trimBlank s
  if lower t = "trace" then Severity.trace.level
  else
    let isSign (c : Char) : Bool := c == '+' || c == '-'
    let name := t.toList.takeWhile fun c => !isSign c
    let distance := t.toList.dropWhile fun c => !isSign c
    match baseLevel? (String.ofList name), offset? distance with
    | some base, some offset => (base + offset).bmod (Nat.pow 2 64)
    | _, _ => defaultLevel

/-- A base name with a distance, where there is one. -/
def withDistance (name : String) (distance : Int) : String :=
  if distance = 0 then name
  else name ++ (if 0 < distance then "+" else "") ++ toString distance

/-- A level as a distance from the next lower of four names. -/
def relativeName (level : Int) : String :=
  if level < 0 then withDistance "DEBUG" (level + 4)
  else if level < 4 then withDistance "INFO" level
  else if level < 8 then withDistance "WARN" (level - 4)
  else withDistance "ERROR" (level - 8)

/-- An output format of a logger. -/
inductive Format where
  | text
  | json
  /-- A format that nothing is written in, by its number. -/
  | unknown (n : Int)
deriving Repr, DecidableEq, Inhabited

namespace Format

/-- The format of a number. -/
def ofNumber (n : Int) : Format :=
  if n = 0 then .text else if n = 1 then .json else .unknown n

/-- The number of a format. -/
def number : Format → Int
  | .text => 0
  | .json => 1
  | .unknown n => n

/-- The name of a format; one without a name is shown by its number. -/
def name : Format → String
  | .text => "text"
  | .json => "json"
  | .unknown n => "Format(" ++ toString n ++ ")"

/-- The format that a text names; the default is text. -/
def parse (s : String) : Format :=
  if lower (trimBlank s) = "json" then .json else .text

/-- Every format with a name. -/
def all : List Format :=
  [.text, .json]

end Format

end TagScript.Log
