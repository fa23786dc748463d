import TagScript.Value.Basic
import TagScript.Decimal.Layout

/-!
# `TagScript.Value.Text`: values as text

Output shows a value by `Value.toText`: numbers by the template's own number
layout, arrays as their elements joined by commas with nothing for a null. What
is not one of the template's kinds is shown by `Value.display`, the bracketed
form that diagnostics use.
-/

set_option autoImplicit false

namespace TagScript

open Decimal

/-- Template output writes numbers positionally from a millionth up to `10 ^ 21`,
exponents without leading zeros, and both zeros as `0`. -/
def numberLayout : Layout where
  least := -6
  beyond := 21
  exponentWidth := 1
  signedZero := false
  wholeMark := ""
  nan := "NaN"
  infinity := "Infinity"
  negativeInfinity := "-Infinity"

/-- The text of a number in template output. -/
def numberText (x : Float) : String :=
  numberLayout.write x

/-- The word for a boolean. -/
def boolText (b : Bool) : String :=
  if b then "true" else "false"

namespace Value

mutual

/-- The bracketed form of a value, with or without the names of record fields. -/
def displayWith (labels : Bool) : Value → String
  | .null => "<nil>"
  | .bool b => boolText b
  | .text s => s
  | .number x => general.write x
  | .integer _ n => toString n
  | .single x => general.writeSingle x
  | .array _ items => "[" ++ " ".intercalate (displayAll labels items) ++ "]"
  | .texts _ items => "[" ++ " ".intercalate items ++ "]"
  | .integers _ items => "[" ++ " ".intercalate (items.map toString) ++ "]"
  | .numbers _ items => "[" ++ " ".intercalate (items.map general.write) ++ "]"
  | .map _ entries => "map[" ++ " ".intercalate (displayEntries labels entries) ++ "]"
  | .record _ field content =>
    "\x7b" ++ (if labels then field ++ ":" else "") ++ content.getD "[]" ++ "\x7d"

/-- The bracketed forms of a list of values. -/
def displayAll (labels : Bool) : List Value → List String
  | [] => []
  | v :: rest => displayWith labels v :: displayAll labels rest

/-- The bracketed forms of map entries. -/
def displayEntries (labels : Bool) : List (String × Value) → List String
  | [] => []
  | (key, v) :: rest => (key ++ ":" ++ displayWith labels v) :: displayEntries labels rest

end

/-- The bracketed form of a value. -/
def display (v : Value) : String :=
  displayWith false v

mutual

/-- The text rendering of a value. -/
def toText : Value → String
  | .null => "null"
  | .bool b => boolText b
  | .text s => s
  | .number x => numberText x
  | .integer _ n => numberText (Float.ofInt n)
  | .single x => numberText x
  | .array _ items => ",".intercalate (elementTexts items)
  | v => v.display

/-- The texts of array elements; a null element has the empty text. -/
def elementTexts : List Value → List String
  | [] => []
  | .null :: rest => "" :: elementTexts rest
  | v :: rest => toText v :: elementTexts rest

end

end Value

end TagScript
