import TagScript.Decimal.Numeral

/-!
# `TagScript.Document.Yaml.Numeral`: numbers in YAML

A plain scalar of YAML is a number when, signs and underscores aside, it is a
sequence of digits in base ten, one with `0x`, `0o` or `0b` in front in the base
that this names, one with another leading zero in base eight, or a decimal
numeral with a point. Integers have 64 bits.

* `Yaml.readNumber`: what a text is as a number.
-/

set_option autoImplicit false

namespace TagScript.Yaml

open Decimal

/-- What a text is as a number. -/
inductive NumberReading where
  /-- No number. -/
  | none
  /-- Written like a number that is too large. -/
  | outOfRange
  | integer (n : Int)
  | real (x : Float)
deriving Inhabited

/-- The text without one sign in front: first a plus, then a minus. -/
def dropSigns : List Char → List Char
  | '+' :: '-' :: rest => rest
  | '+' :: rest => rest
  | '-' :: rest => rest
  | cs => cs

/-- The base and the digits of an integer. -/
def splitBase : List Char → Nat × List Char
  | '0' :: 'x' :: rest => (16, rest)
  | '0' :: 'o' :: rest => (8, rest)
  | '0' :: 'b' :: rest => (2, rest)
  | '0' :: c :: rest => (8, c :: rest)
  | cs => (10, cs)

/-- An integer of 64 bits: signed when it is negative, unsigned otherwise. -/
def readInteger (negative : Bool) (cs : List Char) : NumberReading :=
  let (base, digits) := splitBase cs
  if digits.isEmpty || !digits.all (isDigitOf base) then .none
  else
    let n := ofDigits base digitValue digits
    if negative then
      if n ≤ Nat.pow 2 63 then .integer (-n) else .outOfRange
    else
      if n < Nat.pow 2 64 then .integer n else .outOfRange

/-- A decimal numeral with a point. -/
def readReal (negative : Bool) (cs : List Char) : NumberReading :=
  match Numeral.parse? (if negative then '-' :: cs else cs) with
  | Option.none => .none
  | some numeral =>
    let x := numeral.toFloat
    if x.isInf then .outOfRange else .real x

/-- Whether digits begin with the mark of a base. -/
def hasBaseMark : List Char → Bool
  | '0' :: c :: _ => c == 'x' || c == 'o' || c == 'b'
  | _ => false

/-- What a text is as a number. -/
def readNumber (s : String) : NumberReading :=
  let cs := s.toList
  let points := cs.count '.'
  if cs.isEmpty || cs.head? == some '_' || 1 < points then .none
  else
    let negative := cs.head? == some '-'
    let digits := (dropSigns cs).filter (· != '_')
    if points == 1 && !hasBaseMark digits then readReal negative digits
    else readInteger negative digits

/-- Whether a text is written like a number. -/
def looksLikeNumber (s : String) : Bool :=
  match readNumber s with
  | .none => false
  | _ => true

end TagScript.Yaml
