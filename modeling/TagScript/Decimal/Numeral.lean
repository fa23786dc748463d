import TagScript.Decimal.Shortest
import TagScript.Text.Blank

/-!
# `TagScript.Decimal.Numeral`: reading numbers

A decimal numeral is an optional sign, digits with at most one point and at
least one digit, and an optional exponent. A radix numeral is `0x`, `0o` or `0b`
(in either case) followed by digits of that base, below `2 ^ 64`.

* `Numeral.parse?`: the grammar of decimal numerals.
* `Numeral.toFloat`: the nearest double-precision number, infinite on overflow.
* `radixNumeral?`: the radix numerals.
-/

set_option autoImplicit false

namespace TagScript.Decimal

/-- A decimal numeral `± coefficient · 10 ^ exponent`. -/
structure Numeral where
  negative : Bool
  coefficient : Nat
  exponent : Int
deriving Repr, DecidableEq

/-- An ASCII decimal digit. -/
def isDigit (c : Char) : Bool :=
  '0' ≤ c && c ≤ '9'

/-- The value of a run of digits in a base. -/
def ofDigits (base : Nat) (digit : Char → Nat) (cs : List Char) : Nat :=
  cs.foldl (fun n c => n * base + digit c) 0

/-- The value of an ASCII digit or letter used as a digit. -/
def digitValue (c : Char) : Nat :=
  let n := c.toNat
  if n < 0x41 then n - 0x30 else if n < 0x61 then n - 0x41 + 10 else n - 0x61 + 10

/-- An optional sign, and what follows it. -/
def splitSign : List Char → Bool × List Char
  | '+' :: r => (false, r)
  | '-' :: r => (true, r)
  | r => (false, r)

/-- The exponent part of a numeral: nothing, or a mark, a sign and digits. -/
def exponentPart? : List Char → Option Int
  | [] => some 0
  | c :: r =>
    let (negative, digits) := splitSign r
    if (c = 'e' ∨ c = 'E') ∧ digits ≠ [] ∧ digits.all isDigit then
      let n := ofDigits 10 digitValue digits
      some (if negative then -n else n)
    else none

/-- Split an optional fraction off the characters behind the whole part. -/
def splitFraction : List Char → List Char × List Char
  | '.' :: r => (r.takeWhile isDigit, r.dropWhile isDigit)
  | r => ([], r)

/-- Read a decimal numeral that fills the text. -/
def Numeral.parse? (cs : List Char) : Option Numeral :=
  let (negative, unsigned) := splitSign cs
  let whole := unsigned.takeWhile isDigit
  let (fraction, rest) := splitFraction (unsigned.dropWhile isDigit)
  if whole.isEmpty && fraction.isEmpty then none
  else
    (exponentPart? rest).map fun e =>
      ⟨negative, ofDigits 10 digitValue (whole ++ fraction), e - fraction.length⟩

/-- The nearest double-precision number, infinite when the numeral is too large.
Exponents far outside the range of the format are settled without arithmetic. -/
def Numeral.toFloat (n : Numeral) : Float :=
  let size : Int := (digitsOf n.coefficient).length + n.exponent
  let magnitude : Float :=
    if n.coefficient = 0 ∨ size < -330 then 0
    else if 310 < size then Float.ofScientific 1 false 400
    else Float.ofScientific n.coefficient (decide (n.exponent < 0)) n.exponent.natAbs
  if n.negative then -magnitude else magnitude

/-- The base that a radix mark names. -/
def radixBase? : Char → Option Nat
  | 'x' | 'X' => some 16
  | 'o' | 'O' => some 8
  | 'b' | 'B' => some 2
  | _ => none

/-- A digit of the given base, letters in either case. -/
def isDigitOf (base : Nat) (c : Char) : Bool :=
  (isDigit c || ('a' ≤ c && c ≤ 'f') || ('A' ≤ c && c ≤ 'F')) && digitValue c < base

/-- The value of digits that fill the text, when there is one digit at least and
the value is below `2 ^ 64`. -/
def radixDigits? (base : Nat) (cs : List Char) : Option Nat :=
  if cs ≠ [] ∧ cs.all (isDigitOf base) ∧ ofDigits base digitValue cs < Nat.pow 2 64 then
    some (ofDigits base digitValue cs)
  else none

/-- The base and the digits of a text that begins with a radix mark and goes on. -/
def splitRadix? : List Char → Option (Nat × List Char)
  | '0' :: c :: d :: r => (radixBase? c).map fun base => (base, d :: r)
  | _ => none

end TagScript.Decimal
