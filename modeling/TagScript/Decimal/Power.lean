import TagScript.Decimal.Binary

/-!
# `TagScript.Decimal.Power`: powers of numbers

A power is computed by repeated squaring of the mantissa, with the binary
exponent kept apart, so that whole powers lose no more than each product does. A
fractional part of the exponent goes through the logarithm and the exponential
function. Both are polynomials on a short interval, to which the argument is
brought by whole multiples of the logarithm of two; their last bits depend on
where a product and a sum are rounded together, so that is said here.

* `fusedMulAdd`: a product and a sum with one rounding.
* `naturalLog`, `naturalExp`: the two functions.
* `power`: one number to the power of another.
-/

set_option autoImplicit false

namespace TagScript.Decimal

/-! ### One rounding for a product and a sum -/

/-- The integer with a magnitude and a sign. -/
def signed (negative : Bool) (magnitude : Nat) : Int :=
  if negative then -magnitude else magnitude

/-- The number nearest to `n · 2 ^ e`, of normal size. Digits beyond the first 64 only
tell that something follows. -/
def nearestScaled (n : Int) (e : Int) : Float :=
  let m := n.natAbs
  let excess := m.log2 + 1 - 64
  let kept := m >>> excess
  let kept := if kept <<< excess = m then kept else kept ||| 1
  let magnitude := kept.toUInt64.toFloat.scaleB (e + excess)
  if n < 0 then -magnitude else magnitude

/-- `x · y + z` with one rounding. -/
def fusedMulAdd (x y z : Float) : Float :=
  match Reading.ofFloat x, Reading.ofFloat y, Reading.ofFloat z with
  | .finite a m, .finite b n, .finite c p =>
    let productExponent := m.exponent + n.exponent
    let e := min productExponent p.exponent
    let product :=
      signed (a != b) (m.significand * n.significand) * Int.pow 2 (productExponent - e).toNat
    let sum := product + signed c p.significand * Int.pow 2 (p.exponent - e).toNat
    if sum = 0 then x * y + z else nearestScaled sum e
  | _, _, _ => x * y + z

/-! ### Logarithm and exponential -/

/-- The logarithm of a positive number. With `x = 2 ^ k · (1 + f)` and
`s = f / (2 + f)` it is `k · log 2` and a polynomial in the squares of `s`. -/
def naturalLog (x : Float) : Float :=
  let (mantissa, exponent) := x.frExp
  let low := mantissa < 0.70710678118654752440
  let f := (if low then mantissa * 2 else mantissa) - 1
  let k := Float.ofInt (if low then exponent - 1 else exponent)
  let s := f / (2 + f)
  let s2 := s * s
  let s4 := s2 * s2
  let odd := s2 * (6.666666666666735130e-01 + s4 * (2.857142874366239149e-01 +
    s4 * (1.818357216161805012e-01 + s4 * 1.479819860511658591e-01)))
  let even := s4 * (3.999999999940941908e-01 + s4 * (2.222219843214978396e-01 +
    s4 * 1.531383769920937332e-01))
  let half := 0.5 * f * f
  k * 6.93147180369123816490e-01 -
    ((half - (s * (half + (odd + even)) + k * 1.90821492927058770002e-10)) - f)

/-- The whole number nearest to a number of moderate size, the even one of two: the
sum with a number whose last digit counts ones is rounded there. -/
def nearestWhole (x : Float) : Float :=
  (x + 6755399441055744) - 6755399441055744

/-- The coefficients of `(exp x - 1) / x` by falling powers, behind the first. -/
def exponentialCoefficients : List Float :=
  [1.9841269841269841270e-4, 1.3888888888888888889e-3, 8.3333333333333333333e-3,
    4.1666666666666666667e-2, 1.6666666666666666667e-1, 0.5, 1]

/-- `exp (2 · x) - 1` from `exp x - 1`. -/
def doubleArgument (y : Float) : Float :=
  y * (y + 2)

/-- The exponential function where its value is a number of normal size: on a
sixteenth of what whole multiples of `log 2` leave of the argument by a polynomial,
then doubled four times. -/
def naturalExp (x : Float) : Float :=
  let n := nearestWhole (x * 1.4426950408889634073599246810018920)
  let rest := fusedMulAdd (-n) 0.69314718055966295651160180568695068359375 x
  let rest := fusedMulAdd (-n) 0.28235290563031577122588448175013436025525412068e-12 rest
  let r := rest * 0.0625
  let quotient := exponentialCoefficients.foldl (fun y c => fusedMulAdd y r c)
    2.4801587301587301587e-5
  let y := doubleArgument (doubleArgument (doubleArgument (r * quotient)))
  (fusedMulAdd (y + 2) y 1).scaleB n.toInt64.toInt

/-! ### Powers -/

/-- A product under construction: a factor and a binary exponent. -/
structure Scaled where
  factor : Float
  exponent : Int

/-- Multiply by `mantissa · 2 ^ exponent` to the power of `n`, in at most `fuel`
squarings. Far outside the range of numbers the exponent alone decides. -/
def Scaled.times : Nat → Scaled → Float → Int → Nat → Scaled
  | 0, s, _, _, _ => s
  | fuel + 1, s, mantissa, exponent, n =>
    if n = 0 then s
    else if exponent < -4096 ∨ 4096 < exponent then { s with exponent := s.exponent + exponent }
    else
      let s := if n % 2 = 1 then ⟨s.factor * mantissa, s.exponent + exponent⟩ else s
      let square := mantissa * mantissa
      if square < 0.5 then times fuel s (square + square) (2 * exponent - 1) (n / 2)
      else times fuel s square (2 * exponent) (n / 2)

/-- A finite number other than zero to a finite power. -/
def finitePower (x y : Float) : Float :=
  let magnitude := y.abs
  let whole := magnitude.floor
  let part := magnitude - whole
  if part != 0 && x < 0 then 0 / 0
  else
    let (whole, part) := if part > 0.5 then (whole + 1, part - 1) else (whole, part)
    let start : Scaled := ⟨if part != 0 then naturalExp (part * naturalLog x) else 1, 0⟩
    let (mantissa, exponent) := x.frExp
    let s := start.times 64 mantissa exponent whole.toUInt64.toNat
    if y < 0 then (1 / s.factor).scaleB (-s.exponent) else s.factor.scaleB s.exponent

/-- One number to the power of another. -/
def power (x y : Float) : Float :=
  if y == 0 || x == 1 then 1
  else if y == 1 then x
  else if x.isNaN || y.isNaN || x == 0 || x.isInf || y.isInf || y.abs ≥ 9223372036854775808 then
    x.pow y
  else if y == 0.5 then x.sqrt
  else if y == -0.5 then 1 / x.sqrt
  else finitePower x y

end TagScript.Decimal
