import TagScript.Value.Text
import TagScript.Decimal.Numeral

/-!
# `TagScript.Value.Number`: values as numbers

A text is a number when, trimmed of white space, it is empty (zero), a radix
numeral, a decimal numeral that does not overflow, or one of the spellings of
infinity. Everything else is not-a-number.

* `parseNumber?`: the numerals that a literal may be written as.
* `Value.toNumber`: the reading of any value as a number.
* `Value.primitive`: the form of a value that arithmetic and ordering see.
-/

set_option autoImplicit false

namespace TagScript

open Decimal Text

/-- The number not equal to itself. -/
def notANumber : Float := 0 / 0

/-- Positive infinity. -/
def infinity : Float := 1 / 0

/-- Read trimmed, non-empty characters as a numeral. A text that begins like a
radix numeral is read as nothing else. -/
def numeral? (cs : List Char) : Option Float :=
  match splitRadix? cs with
  | some (base, digits) => (radixDigits? base digits).map Float.ofNat
  | none =>
    (Numeral.parse? cs).bind fun n =>
      let x := n.toFloat
      if x.isInf then none else some x

/-- Read a text as a number literal. White space around it does not count, and
white space alone is zero; the empty text is no number. -/
def parseNumber? (s : String) : Option Float :=
  if s = "" then none
  else
    match trimBlankChars s.toList with
    | [] => some 0
    | cs => numeral? cs

/-- Read any text as a number. -/
def textToNumber (s : String) : Float :=
  let t := trimBlank s
  if t = "" then 0
  else
    match parseNumber? t with
    | some x => x
    | none =>
      if t = "Infinity" ∨ t = "+Infinity" then infinity
      else if t = "-Infinity" then -infinity
      else notANumber

namespace Value

/-- Read a value as a number. An array of one element reads as that element's
text; longer arrays, maps, typed lists and records have no numeric reading. -/
def toNumber : Value → Float
  | .null => 0
  | .bool b => if b then 1 else 0
  | .text s => textToNumber s
  | .number x => x
  | .single x => x
  | .integer _ n => Float.ofInt n
  | .array _ [] => 0
  | .array _ [v] => textToNumber v.toText
  | _ => notANumber

/-- Reduce a value to null, a boolean, a text or a number. -/
def primitive : Value → Value
  | .null => .null
  | .bool b => .bool b
  | .text s => .text s
  | .number x => .number x
  | .single x => .number x
  | .integer _ n => .number (Float.ofInt n)
  | v => .text v.toText

end Value

end TagScript
