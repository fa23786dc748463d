/-!
# `TagScript.Decimal.Binary`: the exact value of a binary number

A finite binary number is `significand · 2 ^ exponent`. Which decimals read back
as this number depends on the gaps to its two neighbours; the gap below is half
the gap above when the significand is the least one of its binade.

* `Binary.ofFloat`: the parts of a double-precision number.
* `Binary.ofSingle`: the parts of a single-precision number.
-/

set_option autoImplicit false

namespace TagScript.Decimal

/-- A non-negative number `significand · 2 ^ exponent` of a binary format. -/
structure Binary where
  significand : Nat
  exponent : Int
  /-- Whether the neighbour below is half as far away as the neighbour above. -/
  narrowBelow : Bool
deriving Repr, DecidableEq

/-- What the bits of a number stand for. -/
inductive Reading where
  | nan
  | infinite (negative : Bool)
  | finite (negative : Bool) (magnitude : Binary)
deriving Repr, DecidableEq

/-- Decode a bit pattern with the given numbers of exponent and fraction bits. -/
def Reading.ofBits (exponentBits fractionBits : Nat) (bits : Nat) : Reading :=
  let fraction := bits % Nat.pow 2 fractionBits
  let biased := (bits / Nat.pow 2 fractionBits) % Nat.pow 2 exponentBits
  let negative := (bits / Nat.pow 2 (fractionBits + exponentBits)) % 2 == 1
  let bias : Int := Int.pow 2 (exponentBits - 1) - 1
  if biased = Nat.pow 2 exponentBits - 1 then
    if fraction = 0 then .infinite negative else .nan
  else if biased = 0 then
    .finite negative ⟨fraction, 1 - bias - fractionBits, false⟩
  else
    .finite negative
      ⟨Nat.pow 2 fractionBits + fraction, (biased : Int) - bias - fractionBits,
        fraction == 0 && 1 < biased⟩

/-- The parts of a double-precision number. -/
def Reading.ofFloat (x : Float) : Reading :=
  Reading.ofBits 11 52 x.toBits.toNat

/-- The parts of a single-precision number. -/
def Reading.ofSingle (x : Float32) : Reading :=
  Reading.ofBits 8 23 x.toBits.toNat

end TagScript.Decimal
