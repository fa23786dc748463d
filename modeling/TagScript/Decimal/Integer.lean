import TagScript.Decimal.Numeral

/-!
# `TagScript.Decimal.Integer`: reading integers

An integer numeral is an optional sign and digits. The digits are decimal unless
they begin with a zero: then a mark tells their base, which is eight without one.
Single underscores may stand between digits.

* `parseInteger?`: an integer of 64 bits.
-/

set_option autoImplicit false

namespace TagScript.Decimal

/-- The base of digits, and the digits without the mark of it. -/
def splitRadix : List Char → Nat × List Char
  | '0' :: c :: d :: rest =>
    match radixBase? c with
    | some base => (base, d :: rest)
    | none => (8, c :: d :: rest)
  | '0' :: rest => (8, rest)
  | cs => (10, cs)

/-- Whether every underscore stands between two digits; `behind` tells whether a
digit came before. -/
def underscoresApart : Bool → List Char → Bool
  | _, [] => true
  | _, ['_'] => false
  | behind, '_' :: c :: rest => behind && c != '_' && underscoresApart true (c :: rest)
  | _, _ :: rest => underscoresApart true rest

/-- An integer of 64 bits. -/
def parseInteger? (s : String) : Option Int :=
  let (negative, unsigned) := splitSign s.toList
  let (base, marked) := splitRadix unsigned
  let digits := marked.filter (· != '_')
  let zero := unsigned.head? == some '0'
  if (digits.isEmpty && !zero) || unsigned.isEmpty then none
  else if !digits.all (isDigitOf base) || !underscoresApart zero marked then none
  else
    let n := ofDigits base digitValue digits
    if negative then (if n ≤ Nat.pow 2 63 then some (-n) else none)
    else (if n < Nat.pow 2 63 then some n else none)

end TagScript.Decimal
