/-!
# `TagScript.Text.Ranges`: classes of characters as ranges

The classes of the Unicode standard are kept as tables of closed ranges of code
points.
-/

set_option autoImplicit false

namespace TagScript.Text

/-- Whether a character lies in one of the ranges. -/
def among (ranges : List (Nat × Nat)) (c : Char) : Bool :=
  ranges.any fun r => r.1 ≤ c.toNat && c.toNat ≤ r.2

end TagScript.Text
