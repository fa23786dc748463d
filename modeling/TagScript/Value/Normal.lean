import TagScript.Value.Basic

/-!
# `TagScript.Value.Normal`: values from outside, in the template's kinds

Values that come from the embedding application are normalised before a template
sees them: every number becomes a plain number and every typed list an array. A
normalised list is a new object, so normalisation hands out fresh identities.
Maps and records are kept as they are.
-/

set_option autoImplicit false

namespace TagScript.Value

mutual

/-- Normalise a value, with the first unused identity; the new first unused
identity comes back with the result. -/
def normalize : Value → Nat → Value × Nat
  | .integer _ n, next => (.number (Float.ofInt n), next)
  | .single x, next => (.number x, next)
  | .array _ items, next =>
    let (items, later) := normalizeAll items (next + 1)
    (.array next items, later)
  | .texts _ items, next => (.array next (items.map .text), next + 1)
  | .integers _ items, next => (.array next (items.map fun n => .number (Float.ofInt n)), next + 1)
  | .numbers _ items, next => (.array next (items.map .number), next + 1)
  | v, next => (v, next)

/-- Normalise the elements of a list from left to right. -/
def normalizeAll : List Value → Nat → List Value × Nat
  | [], next => ([], next)
  | v :: rest, next =>
    let (v, next) := normalize v next
    let (rest, next) := normalizeAll rest next
    (v :: rest, next)

end

end TagScript.Value
