import TagScript.Decimal.Binary

/-!
# `TagScript.Decimal.Shortest`: the fewest digits that read back

The decimals that read back as a binary number fill an interval around it. The
shortest form is found on the coarsest power-of-ten grid that has a point in the
interval; of two points on that grid the nearer one is taken, and of two equally
near ones the even one. All comparisons are exact, in natural numbers.

* `shortest`: the selection.
* `Digits.reduce`: a coefficient without trailing zeros.
-/

set_option autoImplicit false

namespace TagScript.Decimal

/-- A decimal `coefficient · 10 ^ exponent`. -/
structure Digits where
  coefficient : Nat
  exponent : Int
deriving Repr, DecidableEq

/-- The decimal digits of a number, most significant first. -/
def digitsOf (n : Nat) : List Char :=
  Nat.toDigits 10 n

/-- Drop up to `fuel` trailing zeros of the coefficient. -/
def reduceZeros : Nat → Nat → Int → Digits
  | 0, c, e => ⟨c, e⟩
  | fuel + 1, c, e =>
    if c ≠ 0 ∧ c % 10 = 0 then reduceZeros fuel (c / 10) (e + 1) else ⟨c, e⟩

/-- The same decimal with no trailing zero in its coefficient. -/
def Digits.reduce (d : Digits) : Digits :=
  if d.coefficient = 0 then ⟨0, 0⟩
  else reduceZeros (digitsOf d.coefficient).length d.coefficient d.exponent

/-- The decimals that read back as a number, all in units of `1 / scale`. -/
structure Interval where
  low : Nat
  value : Nat
  high : Nat
  scale : Nat
  /-- Whether the two ends themselves read back as the number. -/
  closed : Bool

/-- The interval of a positive binary number. Ties in reading go to the even
significand, so the ends belong to it exactly when the significand is even. -/
def Interval.ofBinary (b : Binary) : Interval :=
  let up := Nat.pow 2 (b.exponent - 2).toNat
  { low := (4 * b.significand - (if b.narrowBelow then 1 else 2)) * up
    value := 4 * b.significand * up
    high := (4 * b.significand + 2) * up
    scale := Nat.pow 2 (2 - b.exponent).toNat
    closed := b.significand % 2 == 0 }

/-- Compare the decimal `c · 10 ^ k` with `x / scale`. -/
def compareDecimal (c : Nat) (k : Int) (x scale : Nat) : Ordering :=
  compare (c * Nat.pow 10 k.toNat * scale) (x * Nat.pow 10 (-k).toNat)

/-- Whether the decimal `c · 10 ^ k` lies in the interval. -/
def Interval.contains (i : Interval) (c : Nat) (k : Int) : Bool :=
  let atLow := compareDecimal c k i.low i.scale
  let atHigh := compareDecimal c k i.high i.scale
  (atLow == .gt || (i.closed && atLow == .eq)) && (atHigh == .lt || (i.closed && atHigh == .eq))

/-- The point of the grid `10 ^ k` that stands for the number, if the grid has
one in the interval: one of the two neighbours of the value. -/
def Interval.pick (i : Interval) (k : Int) : Option Nat :=
  let c := i.value * Nat.pow 10 (-k).toNat / (i.scale * Nat.pow 10 k.toNat)
  match i.contains c k, i.contains (c + 1) k with
  | true, false => some c
  | false, true => some (c + 1)
  | false, false => none
  | true, true =>
    -- The value lies below, at or above the middle of the two neighbours.
    match compare (i.value * 2 * Nat.pow 10 (-k).toNat)
        ((2 * c + 1) * i.scale * Nat.pow 10 k.toNat) with
    | .lt => some c
    | .gt => some (c + 1)
    | .eq => some (if c % 2 = 0 then c else c + 1)

/-- A power of ten that brings the interval's value to one or more. Every positive
number of the formats in use is above `10 ^ -400`. -/
def Interval.shift (i : Interval) : Nat :=
  if i.scale ≤ i.value then 0 else if i.scale ≤ i.value * Nat.pow 10 20 then 20 else 400

/-- The decimal exponent of the leading digit of the interval's value. -/
def Interval.leading (i : Interval) : Int :=
  ((digitsOf (i.value * Nat.pow 10 i.shift / i.scale)).length : Int) - (i.shift + 1)

/-- Try grids of `used + 1`, `used + 2`, … digits. -/
def Interval.search (i : Interval) (leading : Int) : Nat → Nat → Digits
  | 0, _ => ⟨i.value, 0⟩
  | fuel + 1, used =>
    match i.pick (leading - used) with
    | some c => ⟨c, leading - used⟩
    | none => i.search leading fuel (used + 1)

/-- The whole number that a binary number is, when it is one below `2 ^ 53`. -/
def Binary.whole? (b : Binary) : Option Nat :=
  if b.exponent ≤ 0 && b.significand % Nat.pow 2 b.exponent.natAbs == 0 then
    some (b.significand / Nat.pow 2 b.exponent.natAbs)
  else none

/-- The fewest digits that read back as the number, nearest to it among those. The
decimals that read back as a whole number below `2 ^ 53` are less than one away from
it, so no coarser grid than that of its own digits has one. -/
def shortest (b : Binary) : Digits :=
  match b.whole? with
  | some n => Digits.reduce ⟨n, 0⟩
  | none =>
    let i := Interval.ofBinary b
    (i.search i.leading 18 0).reduce

end TagScript.Decimal
