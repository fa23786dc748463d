import TagScript.Value.Number

/-!
# `TagScript.Value.Operator`: arithmetic, equality and order

* `Value.plus`: text concatenation when either side is text, addition otherwise.
* `remainder`: the exact remainder of a truncated division.
* `ceiling`: a number rounded up to a whole one.
* `Value.same`: equality without conversion, by identity on objects.
* `Value.order?`: the order of two texts, or of two numbers unless one is
  not-a-number.
-/

set_option autoImplicit false

namespace TagScript

open Decimal

/-- The remainder of two finite magnitudes, computed on their common binary
exponent, where it is exact: all its bits fit a significand, whatever zeros
follow them. -/
def Decimal.Binary.remainder (a b : Binary) : Float :=
  let e := min a.exponent b.exponent
  let x := a.significand * Nat.pow 2 (a.exponent - e).toNat
  let y := b.significand * Nat.pow 2 (b.exponent - e).toNat
  let r := x % y
  let low := r.log2 - 52
  (Float.ofNat (r / Nat.pow 2 low)).scaleB (e + low)

/-- The remainder of `x` by `y`, with the sign of `x`. It is not-a-number for an
infinite `x` or a zero `y`, and `x` itself for an infinite `y`. -/
def remainder (x y : Float) : Float :=
  match Reading.ofFloat x, Reading.ofFloat y with
  | .finite _ _, .infinite _ => x
  | .finite negative a, .finite _ b =>
    if b.significand = 0 then notANumber
    else
      let r := a.remainder b
      if negative then -r else r
  | _, _ => notANumber

/-- The least whole number that is not below `x`. A number from `2 ^ 52` on is whole, and so is
a zero of either sign. -/
def ceiling (x : Float) : Float :=
  let whole := Float.ofNat x.abs.toUInt64.toNat
  if whole < x.abs ∧ x.abs < Float.ofNat (Nat.pow 2 52) then
    if x < 0 then -whole else whole + 1
  else x

namespace Value

/-- Join two values as text when either is text or prints as text, and add them
as numbers otherwise. -/
def plus (a b : Value) : Value :=
  match a.primitive, b.primitive with
  | .text s, b => .text (s ++ b.toText)
  | a, .text t => .text (a.toText ++ t)
  | a, b => .number (a.toNumber + b.toNumber)

/-- Apply a numeric operation to two values read as numbers. -/
def arithmetic (op : Float → Float → Float) (a b : Value) : Value :=
  .number (op a.primitive.toNumber b.primitive.toNumber)

/-- Whether two lists are one object: the same identity, or both empty. -/
def sameList {α : Type} (i j : Nat) (xs ys : List α) : Bool :=
  (xs.isEmpty && ys.isEmpty) || (i == j && xs.length == ys.length)

/-- Equality without conversion. Numbers of any kind compare by value, arrays
and maps by identity, and values of different kinds are never equal. -/
def same (a b : Value) : Bool :=
  match a.numeric?, b.numeric? with
  | some x, some y => x == y
  | none, none =>
    match a, b with
    | .null, .null => true
    | .bool x, .bool y => x == y
    | .text x, .text y => x == y
    | .array i xs, .array j ys => sameList i j xs ys
    | .texts i xs, .texts j ys => sameList i j xs ys
    | .integers i xs, .integers j ys => sameList i j xs ys
    | .numbers i xs, .numbers j ys => sameList i j xs ys
    | .map i _, .map j _ => i == j
    | .record t _ (some x), .record u _ (some y) => t == u && x == y
    | _, _ => false
  | _, _ => false

/-- The order of two numbers, none of which is not-a-number. -/
def compareNumbers (x y : Float) : Ordering :=
  if x < y then .lt else if y < x then .gt else .eq

/-- The order of two values: as texts when both are text, else as numbers. There
is none when either is not-a-number. -/
def order? (a b : Value) : Option Ordering :=
  match a.primitive, b.primitive with
  | .text s, .text t => some (compare s t)
  | a, b =>
    let x := a.toNumber
    let y := b.toNumber
    if x.isNaN || y.isNaN then none else some (compareNumbers x y)

/-- Whether the order of two values exists and passes a test. -/
def ordered (test : Ordering → Bool) (a b : Value) : Bool :=
  (order? a b).any test

end Value

end TagScript
