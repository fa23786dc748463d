import TagScript.Decimal.Shortest

/-!
# `TagScript.Decimal.Layout`: how a number is written down

Every number text of the program has the same digits, the shortest that read
back, and differs only in its layout: which magnitudes are written positionally,
how the exponent looks, and the words for what is not finite. A layout is a
record of those decisions; `Layout.write` applies it.
-/

set_option autoImplicit false

namespace TagScript.Decimal

/-- The decisions of a number format. -/
structure Layout where
  /-- The least decimal exponent of the leading digit that is written positionally. -/
  least : Int
  /-- The first decimal exponent of the leading digit that no longer is. -/
  beyond : Int
  /-- The least number of digits in an exponent. -/
  exponentWidth : Nat
  /-- Whether the sign of a negative zero is written. -/
  signedZero : Bool
  /-- What follows a number written positionally without a fraction. -/
  wholeMark : String
  nan : String
  infinity : String
  negativeInfinity : String

/-- Digits in positional notation, given the leading digit's exponent. -/
def positional (digits : List Char) (leading : Int) : List Char :=
  if leading < 0 then
    '0' :: '.' :: List.replicate (-leading - 1).toNat '0' ++ digits
  else
    let whole := leading.toNat + 1
    if digits.length ≤ whole then digits ++ List.replicate (whole - digits.length) '0'
    else digits.take whole ++ '.' :: digits.drop whole

/-- Digits with an exponent mark, given the leading digit's exponent. -/
def exponential (width : Nat) (digits : List Char) (leading : Int) : List Char :=
  let mantissa := match digits with
    | [] => []
    | [d] => [d]
    | d :: rest => d :: '.' :: rest
  let size := digitsOf leading.natAbs
  mantissa ++ 'e' :: (if leading < 0 then '-' else '+') ::
    (List.replicate (width - size.length) '0' ++ size)

/-- Write the parts of a number. -/
def Layout.writeReading (l : Layout) : Reading → String
  | .nan => l.nan
  | .infinite false => l.infinity
  | .infinite true => l.negativeInfinity
  | .finite negative b =>
    let d := shortest b
    if d.coefficient = 0 then
      (if negative && l.signedZero then "-0" else "0") ++ l.wholeMark
    else
      let digits := digitsOf d.coefficient
      let leading := d.exponent + digits.length - 1
      let sign := if negative then "-" else ""
      if l.least ≤ leading ∧ leading < l.beyond then
        let text := positional digits leading
        sign ++ String.ofList text ++ (if text.contains '.' then "" else l.wholeMark)
      else
        sign ++ String.ofList (exponential l.exponentWidth digits leading)

/-- Write a double-precision number. -/
def Layout.write (l : Layout) (x : Float) : String :=
  l.writeReading (Reading.ofFloat x)

/-- Write a number held in single precision with the digits that suffice there. -/
def Layout.writeSingle (l : Layout) (x : Float) : String :=
  l.writeReading (Reading.ofSingle x.toFloat32)

/-- Diagnostics write numbers positionally from `0.0001` up to a million, and
exponents with two digits at least. -/
def general : Layout where
  least := -4
  beyond := 6
  exponentWidth := 2
  signedZero := true
  wholeMark := ""
  nan := "NaN"
  infinity := "+Inf"
  negativeInfinity := "-Inf"

end TagScript.Decimal
