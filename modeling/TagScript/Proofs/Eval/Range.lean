import TagScript.Eval.Machine
import TagScript.Proofs.Decimal.Whole
import TagScript.Proofs.Scope.Confined

/-!
# `TagScript.Proofs.Eval.Range`: the ranges of whole numbers

A range computes how many elements it has as a number: the difference of its ends, rounded up. Each
element is a number too, the lower end and a count added. Between whole numbers up to `2 ^ 53` none
of this loses anything. The count is the difference of the two integers (`rangeItems_of_lt`), and
each element the sum of two (`sequence_eq`).

The ends of a range may be so far apart that their difference is rounded. The range is too long
then, and is found to be: a number that is rounded stays above the limit.

* `run_invoke_range`: a call pushes the elements as one array, or it stops with the fault.
* `invoke_range_of_whole`: what a call does with two whole numbers.
-/

set_option autoImplicit false

namespace TagScript

open Decimal Scope

namespace Native

variable {σ : Type} {a b : Int} {low high : Float} {x y : Value}

/-- The whole numbers from `a` on and below `b`. -/
def wholeNumbers (a b : Int) : List Value :=
  (List.range (b - a).toNat).map fun i : Nat => .number (Float.ofInt (a + i))

/-- None of the elements is rounded. -/
theorem sequence_eq (hlow : IsWhole low a) {count : Nat} (hcount : count ≤ 2 ^ 53) :
    sequence low count = (List.range count).map fun i : Nat => .number (Float.ofInt (a + i)) := by
  refine List.map_congr_left ?_
  intro i hi
  have hlt := List.mem_range.mp hi
  exact congrArg Value.number (hlow.add_ofInt (b := i) (by omega))

/-- Ends that are not in order have nothing between them. -/
theorem rangeItems_of_le (hx : IsWhole x.toNumber a) (hy : IsWhole y.toNumber b) (rest : List Value)
    (h : b ≤ a) : rangeItems (x :: y :: rest) = .ok [] := by
  have hge : y.toNumber ≤ x.toNumber := (hy.le_iff hx).mpr h
  rw [rangeItems, hx.isNaN, hy.isNaN]
  exact if_pos (decide_eq_true hge)

/-- Ends in order have as many whole numbers between them as the integers say. -/
theorem rangeItems_of_lt (hx : IsWhole x.toNumber a) (hy : IsWhole y.toNumber b)
    (rest : List Value) (h : a < b) :
    rangeItems (x :: y :: rest) =
      if maxRange < b - a then .error (.rangeLimit x.toNumber y.toNumber maxRange)
      else .ok (wholeNumbers a b) := by
  have hnot : ¬ y.toNumber ≤ x.toNumber := by
    rw [hy.le_iff hx]
    omega
  obtain ⟨n, hn⟩ : ∃ n : Nat, b - a = n := Int.eq_ofNat_of_zero_le (by omega)
  -- The count is the number that the difference is read as, and nothing has to be rounded up.
  have hcount : ceiling (y.toNumber - x.toNumber) = Float.ofNat n := by
    rw [hy.sub hx (by omega), hn]
    exact ceiling_ofNat n
  have hmax : maxRange = 2 ^ 20 := rfl
  have hlong : Float.ofNat n > Float.ofNat maxRange ↔ maxRange < n :=
    (ofNat_lt_ofNat_iff (by rw [hmax]; decide)).1
  rw [rangeItems, hx.isNaN, hy.isNaN]
  refine (if_neg (by simpa using hnot)).trans ?_
  dsimp only
  rw [hcount, hn]
  by_cases hn' : maxRange < n
  · rw [if_pos (hlong.mpr hn'), if_pos (by exact_mod_cast hn')]
  · -- Below the limit the count is exact.
    have hexact : (Float.ofNat n).toUInt64.toNat = n := by
      rw [(isWhole_ofNat (n := n) (by omega)).toNat_toUInt64 (by omega) (by omega),
        Int.toNat_natCast]
    rw [if_neg (fun hgt => hn' (hlong.mp hgt)), if_neg (by exact_mod_cast hn'), hexact,
      sequence_eq hx (by omega), wholeNumbers, hn, Int.toNat_natCast]

/-- A call of the operation pushes the range, or stops with the fault and pushes nothing. -/
theorem run_invoke_range (e : Nat) (args : List Value) (w : World σ) :
    (Native.range.invoke e args).run.run w =
      match rangeItems args with
      | .error fault => (.error fault, w)
      | .ok items =>
        (.ok .none, { w with tree :=
          { w.tree with fresh := w.tree.fresh + 1 }.push e (.array w.tree.fresh items) }) := by
  rw [invoke]
  cases rangeItems args <;> rfl

/-- The numbers of a range come in order, and none of them is repeated or reaches the upper end. -/
theorem wholeNumbers_ordered (ha : a.natAbs ≤ 2 ^ 53) (hb : b.natAbs ≤ 2 ^ 53) :
    (wholeNumbers a b).Pairwise (fun u v => u.toNumber < v.toNumber) ∧
      ∀ v ∈ wholeNumbers a b, v.toNumber < Float.ofInt b := by
  have whole : ∀ i < (b - a).toNat, IsWhole (Float.ofInt (a + (i : Nat))) (a + i) := by
    intro i hi
    exact isWhole_ofInt (by omega)
  constructor
  · refine List.pairwise_map.mpr (List.Pairwise.imp_of_mem ?_ List.pairwise_lt_range)
    intro i j hi hj hlt
    exact ((whole i (List.mem_range.mp hi)).lt_iff (whole j (List.mem_range.mp hj))).mpr (by omega)
  · intro v hv
    obtain ⟨i, hi, rfl⟩ := List.mem_map.mp hv
    have hlt := List.mem_range.mp hi
    exact ((whole i hlt).lt_iff (isWhole_ofInt hb)).mpr (by omega)

/-- **Ranges of whole numbers are exact.** Let two arguments be the whole numbers `a` and `b`, of
any kind and with zeros of either sign, and neither further from zero than `2 ^ 53`. If `b` is not
above `a` by more than the limit, a call of the operation from a scope pushes one array on the
operands of the scope and does nothing else. The array is that of the integers from `a` on and below
`b`, which is empty if there are none, each of them as the number that is equal to it, in order and
without repetition. If `b` is above `a` by more than the limit, the call stops with the fault that
says so, and leaves everything as it was. -/
theorem invoke_range_of_whole (w : World σ) (e : Nat) (x y : Value) (rest : List Value) (a b : Int)
    (hv : w.tree.Valid) (he : e < w.tree.scopes.size)
    (hx : (x.toNumber == Float.ofInt a) = true) (hy : (y.toNumber == Float.ofInt b) = true)
    (ha : a.natAbs ≤ 2 ^ 53) (hb : b.natAbs ≤ 2 ^ 53) :
    let out := (Native.range.invoke e (x :: y :: rest)).run.run w
    let range := Value.array w.tree.fresh (wholeNumbers a b)
    (b - a ≤ maxRange →
      out = (.ok .none,
        { w with tree := { w.tree with fresh := w.tree.fresh + 1 }.push e range }) ∧
      out.2.tree.operands e = range :: w.tree.operands e) ∧
    (maxRange < b - a → out = (.error (.rangeLimit x.toNumber y.toNumber maxRange), w)) ∧
    (wholeNumbers a b).length = (b - a).toNat ∧
    (wholeNumbers a b).Pairwise (fun u v => u.toNumber < v.toNumber) ∧
    ∀ v ∈ wholeNumbers a b, v.toNumber < Float.ofInt b := by
  intro out range
  have hx' := IsWhole.of_beq hx ha
  have hy' := IsWhole.of_beq hy hb
  have hrun : out = _ := run_invoke_range e (x :: y :: rest) w
  refine ⟨fun hle => ?_, fun hlt => ?_, ?_, wholeNumbers_ordered ha hb⟩
  · -- Where `b` is not above `a` there are no integers, and the range is empty.
    have hitems : rangeItems (x :: y :: rest) = .ok (wholeNumbers a b) := by
      by_cases hab : a < b
      · rw [rangeItems_of_lt hx' hy' rest hab, if_neg (by omega)]
      · rw [rangeItems_of_le hx' hy' rest (by omega), wholeNumbers,
          show (b - a).toNat = 0 by omega]
        rfl
    rw [hitems] at hrun
    refine ⟨hrun, ?_⟩
    rw [hrun]
    -- The array takes an identity before it is pushed, which leaves the tree valid.
    have hrenewed : Tree.Step e w.tree { w.tree with fresh := w.tree.fresh + 1 } :=
      .renew w.tree _ (Nat.le_succ _)
    exact Tree.operands_push (hv.step hrenewed) he range
  · rw [rangeItems_of_lt hx' hy' rest (by omega), if_pos hlt] at hrun
    exact hrun
  · rw [wholeNumbers, List.length_map, List.length_range]

/-- From a zero with a sign to three, on the empty stack of a new root. -/
theorem invoke_range_of_whole_zero :
    let w : World Unit := ⟨Tree.root [] 7, #[], (), 0⟩
    let out := (Native.range.invoke 0 [.number (-0.0), .integer .int 3]).run.run w
    out.2.tree.operands 0 = [.array 7 [.number 0, .number 1, .number 2]] := by
  intro w out
  have hv := (Tree.Reachable.root [] 7).valid
  exact ((invoke_range_of_whole w 0 (.number (-0.0)) (.integer .int 3) [] 0 3 hv Nat.zero_lt_one
    (by decide +kernel) (by decide +kernel) (by decide) (by decide)).1 (by decide)).2

end Native

end TagScript
