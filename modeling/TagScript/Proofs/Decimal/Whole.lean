import TagScript.Proofs.Decimal.Rounding
import TagScript.Value.Operator

/-!
# `TagScript.Proofs.Decimal.Whole`: numbers that are integers

A number has a mantissa of 53 bits, an exponent and a sign. A whole number that is at most `2 ^ 53`
fits into that, so it is computed with as an integer is. `IsWhole x a` says that the number `x` is
the integer `a`, and what follows says what comes of it:

* `isWhole_ofInt`, `IsWhole.of_beq`: an integer is read as the number that it is, and what is equal
  to such a number is one.
* `IsWhole.sub`, `IsWhole.add_ofInt`: a difference or a sum is that of the integers. It may be
  larger than `2 ^ 53`, and then it is rounded as the integer would be.
* `IsWhole.lt_iff`, `IsWhole.le_iff`: the order is that of the integers.
* `IsWhole.toNat_toUInt64`, `ceiling_ofNat`: a whole number is counted without loss, and is its own
  ceiling.

In the unpacked form a whole number is a mantissa of 53 bits that, with its exponent, comes to the
magnitude of the integer (`Magnitude`). A sum brings its parts to one exponent and adds them there.
Since rounding goes by the value, it is the sum of the integers that is rounded (`Whole.add`).

The last section is about whole numbers of any size. They may be rounded, or infinite, but they stay
away from zero (`unpack_ofInt_apply`), and those from `2 ^ 53` on above those below it
(`ofNat_lt_ofNat_iff`).
-/

set_option autoImplicit false

namespace TagScript.Decimal

open Float.Model Float.Model.UnpackedFloat

/-! ### Magnitudes -/

/-- With the exponent `j - 52` the mantissa `m`, which has 53 bits, comes to the magnitude `k`. -/
structure Magnitude (m j k : Nat) : Prop where
  full : Full m
  value : m * 2 ^ j = k * 2 ^ 52

namespace Magnitude

variable {s : UnpackedFloat.Sign} {m m' i j k k' : Nat}

/-- A magnitude is positive when its mantissa is. -/
theorem pos (h : Magnitude m j k) (hm : 0 < m) : 0 < k :=
  Nat.pos_of_mul_pos_right (h.value ▸ Nat.mul_pos hm (Nat.two_pow_pos j))

/-- The mantissa and the exponent are those that the magnitude is rounded to. -/
theorem round (h : Magnitude m j k) (hm : 0 < m) :
    UnpackedFloat.round Format.binary64 s k 0 = .finite s m ((j : Int) - 52) hm := by
  have hk := h.pos hm
  have hvalue := round_mul_two_pow s hm.ne' ((j : Int) - 52) j
  have hexponent : (j : Int) - 52 - j = 0 - (52 : Nat) := by omega
  rw [h.value, hexponent, round_mul_two_pow s hk.ne'] at hvalue
  rw [hvalue, round_full h.full (by omega) hm]

/-- A small magnitude has a small exponent. -/
theorem exponent_lt (h : Magnitude m j k) (hk : k < 2 ^ i) : j < i := by
  have hlt : 2 ^ j * 2 ^ 52 < 2 ^ i * 2 ^ 52 :=
    calc 2 ^ j * 2 ^ 52 ≤ m * 2 ^ j := by
          rw [Nat.mul_comm]
          exact Nat.mul_le_mul_right _ h.full.1
      _ = k * 2 ^ 52 := h.value
      _ < 2 ^ i * 2 ^ 52 := Nat.mul_lt_mul_of_pos_right hk (by decide)
  exact (Nat.pow_lt_pow_iff_right (by decide)).mp (Nat.lt_of_mul_lt_mul_right hlt)

/-- Up to `2 ^ 53` there is a mantissa for every magnitude. -/
theorem exists_of_le (hk : k ≠ 0) (hle : k ≤ 2 ^ 53) : ∃ m j, 0 < m ∧ Magnitude m j k := by
  rcases hle.lt_or_eq with hlt | rfl
  · -- The mantissa is made as long as it can be.
    have hlog : k.log2 ≤ 52 := Nat.le_of_lt_succ ((Nat.log2_lt hk).mpr hlt)
    have hpow : 2 ^ (52 - k.log2) * 2 ^ k.log2 = 2 ^ 52 := by
      rw [← Nat.pow_add, Nat.sub_add_cancel hlog]
    have hpos : 0 < 2 ^ (52 - k.log2) := Nat.two_pow_pos _
    refine ⟨k * 2 ^ (52 - k.log2), k.log2, Nat.mul_pos (Nat.pos_of_ne_zero hk) hpos, ⟨?_, ?_⟩, ?_⟩
    · rw [← hpow, Nat.mul_comm]
      exact Nat.mul_le_mul_right _ (Nat.log2_self_le hk)
    · have htwice : 2 ^ 53 = 2 ^ (k.log2 + 1) * 2 ^ (52 - k.log2) := by
        rw [← Nat.pow_add]
        congr 1
        omega
      rw [htwice]
      exact Nat.mul_lt_mul_of_pos_right Nat.lt_log2_self hpos
    · rw [Nat.mul_assoc, hpow]
  · -- The last one has one bit too many, which is zero.
    exact ⟨2 ^ 52, 53, by decide, ⟨le_refl _, by decide⟩, by decide⟩

/-- Magnitudes are in the order of their exponents, and then of their mantissas. -/
theorem compare (h : Magnitude m i k) (h' : Magnitude m' j k') :
    (Ord.compare ((i : Int) - 52) ((j : Int) - 52)).then (Ord.compare m m') = Ord.compare k k' := by
  -- With full mantissas the smaller exponent makes the smaller magnitude.
  have shorter : ∀ {n n' i j : Nat}, Full n → Full n' → i < j → n * 2 ^ i < n' * 2 ^ j := by
    intro n n' i j hn hn' hij
    calc n * 2 ^ i < 2 ^ 53 * 2 ^ i := Nat.mul_lt_mul_of_pos_right hn.2 (Nat.two_pow_pos i)
      _ = 2 ^ 52 * 2 ^ (i + 1) := by ring
      _ ≤ n' * 2 ^ j := Nat.mul_le_mul hn'.1 (Nat.pow_le_pow_right (by decide) hij)
  obtain ⟨hfull, hvalue⟩ := h
  obtain ⟨hfull', hvalue'⟩ := h'
  rcases lt_trichotomy i j with hlt | rfl | hgt
  · have hk : k < k' := by
      have := shorter hfull hfull' hlt
      omega
    rw [Int.compare_eq_lt.mpr (by omega), compare_lt_iff_lt.mpr hk]
    rfl
  · have hpos := Nat.two_pow_pos i
    rw [Int.compare_eq_eq.mpr rfl, Ordering.eq_then]
    rcases lt_trichotomy m m' with h | rfl | h
    · have hlt := Nat.mul_lt_mul_of_pos_right h hpos
      rw [compare_lt_iff_lt.mpr h, compare_lt_iff_lt.mpr (show k < k' by omega)]
    · rw [compare_eq_iff_eq.mpr rfl, compare_eq_iff_eq.mpr (show k = k' by omega)]
    · have hlt := Nat.mul_lt_mul_of_pos_right h hpos
      rw [compare_gt_iff_gt.mpr h, compare_gt_iff_gt.mpr (show k' < k by omega)]
  · have hk : k' < k := by
      have := shorter hfull' hfull hgt
      omega
    rw [Int.compare_eq_gt.mpr (by omega), compare_gt_iff_gt.mpr hk]
    rfl

end Magnitude

variable {s : UnpackedFloat.Sign} {m n : Nat} {e : Int}

/-! ### Whole numbers up to `2 ^ 53` -/

/-- The number is a whole number: it is a zero, or its mantissa comes to the magnitude together
with its exponent. -/
inductive Whole : UnpackedFloat → Int → Prop where
  | zero (s : UnpackedFloat.Sign) : Whole (.zero s) 0
  | finite {s : UnpackedFloat.Sign} {m j k : Nat} (hm : 0 < m) (h : Magnitude m j k)
      (hk : k ≤ 2 ^ 53) : Whole (.finite s m ((j : Int) - 52) hm) (s.apply k)

/-- The positive sign leaves an integer as it is. -/
@[simp] theorem apply_positive (n : Int) : UnpackedFloat.Sign.apply .positive n = n := rfl

/-- The negative sign negates it. -/
@[simp] theorem apply_negative (n : Int) : UnpackedFloat.Sign.apply .negative n = -n := rfl

/-- An integer is its magnitude with a sign. -/
theorem exists_apply_natAbs (n : Int) : ∃ s : UnpackedFloat.Sign, n = s.apply n.natAbs := by
  rcases Int.natAbs_eq n with h | h
  · exact ⟨.positive, h⟩
  · exact ⟨.negative, h⟩

/-- A whole number other than zero is its magnitude, rounded, with its sign. -/
theorem ofInt_apply {k : Nat} (hk : k ≠ 0) :
    UnpackedFloat.ofInt Format.binary64 (s.apply k) =
      UnpackedFloat.round Format.binary64 s k 0 := by
  cases s with
  | positive =>
      have hgt : (0 : Int) < k := by omega
      simp only [UnpackedFloat.ofInt, UnpackedFloat.normalize, apply_positive,
        Int.compare_eq_gt.mpr hgt, Int.toNat_natCast]
  | negative =>
      have hlt : -(k : Int) < 0 := by omega
      simp only [UnpackedFloat.ofInt, UnpackedFloat.normalize, apply_negative,
        Int.compare_eq_lt.mpr hlt, Int.neg_neg, Int.toNat_natCast]

namespace Whole

variable {u v : UnpackedFloat} {a b : Int}

/-- Zero aside, a whole number is written in one way. -/
theorem eq_ofInt (h : Whole u a) (ha : a ≠ 0) : u = UnpackedFloat.ofInt Format.binary64 a := by
  cases h with
  | zero s => exact absurd rfl ha
  | finite hm hmag hk => rw [ofInt_apply (hmag.pos hm).ne', hmag.round hm]

/-- The whole number zero is a zero of either sign. -/
theorem eq_zero (h : Whole u a) (ha : a = 0) : ∃ s, u = .zero s := by
  cases h with
  | zero s => exact ⟨s, rfl⟩
  | @finite s m j k hm hmag hk =>
      have hpos := hmag.pos hm
      cases s <;> simp only [apply_negative, apply_positive] at ha <;> omega

/-- An integer up to `2 ^ 53` is a whole number of the same value. -/
theorem ofInt (h : a.natAbs ≤ 2 ^ 53) : Whole (UnpackedFloat.ofInt Format.binary64 a) a := by
  by_cases ha : a = 0
  · subst ha
    exact .zero _
  obtain ⟨s, hs⟩ := exists_apply_natAbs a
  obtain ⟨m, j, hm, hmag⟩ := Magnitude.exists_of_le (Int.natAbs_ne_zero.mpr ha) h
  have hw : Whole (.finite s m ((j : Int) - 52) hm) (s.apply a.natAbs) := .finite hm hmag h
  rw [← hs] at hw
  exact hw.eq_ofInt ha ▸ hw

/-- The negative of a whole number is that of the negative integer. -/
theorem neg (h : Whole u a) : Whole u.neg (-a) := by
  cases h with
  | zero s => exact .zero (-s)
  | @finite s m j k hm hmag hk =>
      have hsign : -s.apply k = (-s).apply k := by
        cases s with
        | positive => rfl
        | negative => exact Int.neg_neg _
      rw [hsign]
      exact .finite hm hmag hk

/-- A shifted mantissa with its sign. -/
private theorem apply_mul_two_pow (s : UnpackedFloat.Sign) {m i j k : Nat} (hij : i ≤ j)
    (h : Magnitude m j k) :
    s.apply (m <<< ((j : Int) - 52 - ((i : Int) - 52)).toNat : Nat) * 2 ^ i =
      s.apply k * 2 ^ 52 := by
  have hshift : ((j : Int) - 52 - ((i : Int) - 52)).toNat = j - i := by omega
  have hpow : m <<< (j - i) * 2 ^ i = k * 2 ^ 52 := by
    rw [Nat.shiftLeft_eq, Nat.mul_assoc, ← Nat.pow_add, Nat.sub_add_cancel hij, h.value]
  have hcast : ((m <<< (j - i) : Nat) : Int) * 2 ^ i = (k : Int) * 2 ^ 52 := by
    exact_mod_cast hpow
  rw [hshift]
  cases s with
  | positive => exact hcast
  | negative => rw [apply_negative, apply_negative, Int.neg_mul, Int.neg_mul, hcast]

/-- A sum of whole numbers is rounded once. Zeros may have signs, so they are left out. -/
theorem add (hu : Whole u a) (hv : Whole v b) (hne : a ≠ 0 ∨ b ≠ 0) :
    UnpackedFloat.add Format.binary64 u v = UnpackedFloat.ofInt Format.binary64 (a + b) := by
  cases hu with
  | zero s =>
      rw [Int.zero_add, ← hv.eq_ofInt (by simpa using hne)]
      cases hv with
      | zero t => simp at hne
      | finite => rfl
  | @finite s m i k hm hmag hk =>
      have hu : Whole _ _ := .finite (s := s) hm hmag hk
      cases hv with
      | zero t =>
          rw [Int.add_zero, ← hu.eq_ofInt (by simpa using hne)]
          rfl
      | @finite t m' j k' hm' hmag' hk' =>
          -- The mantissas are brought to the smaller exponent and then added.
          have hmin : min ((i : Int) - 52) ((j : Int) - 52) = ((min i j : Nat) : Int) - 52 := by
            omega
          have hzeros := normalize_mul_two_pow
            (s.apply (m <<< ((i : Int) - 52 - (((min i j : Nat) : Int) - 52)).toNat : Nat) +
              t.apply (m' <<< ((j : Int) - 52 - (((min i j : Nat) : Int) - 52)).toNat : Nat))
            (((min i j : Nat) : Int) - 52) (min i j) .positive
          rw [Int.add_mul, apply_mul_two_pow s (Nat.min_le_left i j) hmag,
            apply_mul_two_pow t (Nat.min_le_right i j) hmag', ← Int.add_mul,
            show ((min i j : Nat) : Int) - 52 - (min i j : Nat) = 0 - (52 : Nat) by omega,
            normalize_mul_two_pow] at hzeros
          rw [UnpackedFloat.ofInt, hzeros, UnpackedFloat.add]
          simp only [decreaseExponent, hmin]

/-- A difference is the sum with the opposite number. -/
theorem sub_eq_add_neg (x y : UnpackedFloat) :
    UnpackedFloat.sub Format.binary64 x y = UnpackedFloat.add Format.binary64 x y.neg := by
  have hdifference : ∀ (s t : UnpackedFloat.Sign) (m n : Nat),
      s.apply m - t.apply n = s.apply m + (-t).apply n := by
    intro s t m n
    cases t with
    | positive => exact Int.sub_eq_add_neg
    | negative => exact (Int.sub_eq_add_neg).trans (congrArg _ (Int.neg_neg _))
  cases x <;> cases y <;> try rfl
  simp only [UnpackedFloat.sub, UnpackedFloat.neg, UnpackedFloat.add, hdifference]

/-- The difference of two different whole numbers is that of the integers. -/
theorem sub (hu : Whole u a) (hv : Whole v b) (hne : a ≠ b) :
    UnpackedFloat.sub Format.binary64 u v = UnpackedFloat.ofInt Format.binary64 (a - b) := by
  rw [sub_eq_add_neg, hu.add hv.neg (by omega), Int.sub_eq_add_neg]

/-- Positive numbers compare as their magnitudes do. -/
private theorem compare_apply_positive (k k' : Nat) :
    Ord.compare (UnpackedFloat.Sign.apply .positive k) (UnpackedFloat.Sign.apply .positive k') =
      Ord.compare k k' := by
  rw [apply_positive, apply_positive]
  rcases lt_trichotomy k k' with h | rfl | h
  · rw [compare_lt_iff_lt.mpr h, Int.compare_eq_lt.mpr (by omega)]
  · rw [compare_eq_iff_eq.mpr (rfl : k = k), Int.compare_eq_eq.mpr rfl]
  · rw [compare_gt_iff_gt.mpr h, Int.compare_eq_gt.mpr (by omega)]

/-- Negative ones compare the other way. -/
private theorem compare_apply_negative (k k' : Nat) :
    (Ord.compare k k').swap = Ord.compare (UnpackedFloat.Sign.apply .negative k)
      (UnpackedFloat.Sign.apply .negative k') := by
  rw [apply_negative, apply_negative]
  rcases lt_trichotomy k k' with h | rfl | h
  · rw [compare_lt_iff_lt.mpr h, Int.compare_eq_gt.mpr (by omega), Ordering.swap_lt]
  · rw [compare_eq_iff_eq.mpr (rfl : k = k), Int.compare_eq_eq.mpr rfl]
    rfl
  · rw [compare_gt_iff_gt.mpr h, Int.compare_eq_lt.mpr (by omega), Ordering.swap_gt]

/-- Whole numbers are in the order of the integers. -/
theorem compare (hu : Whole u a) (hv : Whole v b) : u.compare v = some (Ord.compare a b) := by
  cases hu with
  | zero s =>
      cases hv with
      | zero t => rfl
      | @finite t m j k hm hmag hk =>
          have hpos := hmag.pos hm
          cases t with
          | positive => exact congrArg some (Int.compare_eq_lt.mpr (by simpa)).symm
          | negative => exact congrArg some (Int.compare_eq_gt.mpr (by simpa)).symm
  | @finite s m i k hm hmag hk =>
      have hpos := hmag.pos hm
      cases hv with
      | zero t =>
          cases s with
          | positive => exact congrArg some (Int.compare_eq_gt.mpr (by simpa)).symm
          | negative => exact congrArg some (Int.compare_eq_lt.mpr (by simpa)).symm
      | @finite t m' j k' hm' hmag' hk' =>
          have hpos' := hmag'.pos hm'
          have hmagnitudes := hmag.compare hmag'
          -- Numbers of different signs are told apart by these. Of two negative numbers the one of
          -- the greater magnitude is the less.
          cases s <;> cases t
          · refine congrArg some (?_ : (_ : Ordering).swap = _)
            rw [hmagnitudes, compare_apply_negative]
          · have hlt : -(k : Int) < k' := by omega
            exact congrArg some (Int.compare_eq_lt.mpr hlt).symm
          · have hgt : -(k' : Int) < k := by omega
            exact congrArg some (Int.compare_eq_gt.mpr hgt).symm
          · exact congrArg some (hmagnitudes.trans (compare_apply_positive k k').symm)

/-- What compares as equal to a whole number is that whole number. -/
theorem of_compare_eq (hv : Whole v a) (h : u.compare v = some .eq) : Whole u a := by
  cases hv with
  | zero t =>
      cases u with
      | zero s => exact .zero s
      | finite s | infinity s => cases s <;> cases h
      | notANumber => cases h
  | @finite t n j k hn hmag hk =>
      have same : ∀ {m e}, (Ord.compare e ((j : Int) - 52)).then (Ord.compare m n) = .eq →
          e = (j : Int) - 52 ∧ m = n := fun heq =>
        (Ordering.then_eq_eq.mp heq).imp compare_eq_iff_eq.mp compare_eq_iff_eq.mp
      cases u with
      | zero s | infinity s => cases s <;> cases t <;> cases h
      | notANumber => cases h
      | finite s m e hm =>
          cases s <;> cases t
          · obtain ⟨rfl, rfl⟩ := same (Ordering.swap_eq_eq.mp (Option.some.inj h))
            exact .finite hn hmag hk
          · cases h
          · cases h
          · obtain ⟨rfl, rfl⟩ := same (Option.some.inj h)
            exact .finite hn hmag hk

/-- It is kept. -/
theorem unpack_pack (h : Whole u a) : (Float.Model.pack u).unpack = u := by
  cases h with
  | zero s => exact unpack_pack_zero
  | finite hm hmag hk =>
      have hj := hmag.exponent_lt (i := 54) (by omega)
      rw [unpack_pack_full hmag.full (by omega), if_pos (by omega)]

/-- A whole number has its value as an integer, within whatever bounds. -/
theorem toInt (h : Whole u a) (low high : Int) : u.toInt low high = a := by
  cases h with
  | zero s => rfl
  | @finite s m j k hm hmag hk =>
      have hvalue := hmag.value
      suffices hmagnitude : (m <<< ((j : Int) - 52 - 0).toNat) /
          2 ^ (0 - ((j : Int) - 52 - ((j : Int) - 52 - 0).toNat)).toNat = k by
        rw [UnpackedFloat.toInt, roundToInt]
        simp only [decreaseExponent, shiftToExponent, mantissa_shiftRight, hmagnitude]
      have hcancel : ∀ x : Nat, x * 2 ^ 52 = k * 2 ^ 52 → x = k := fun x hx =>
        Nat.eq_of_mul_eq_mul_right (by decide) hx
      -- The exponent is lowered to zero, or raised to it.
      rcases Nat.le_total j 52 with hj | hj
      · have hsplit : m = k * 2 ^ (52 - j) := by
          apply Nat.eq_of_mul_eq_mul_right (Nat.two_pow_pos j)
          rw [hvalue, Nat.mul_assoc, ← Nat.pow_add, Nat.sub_add_cancel hj]
        rw [show ((j : Int) - 52 - 0).toNat = 0 by omega, Nat.shiftLeft_zero,
          show (0 - ((j : Int) - 52 - (0 : Nat))).toNat = 52 - j by omega, hsplit,
          Nat.mul_div_cancel _ (Nat.two_pow_pos _)]
      · apply hcancel
        rw [show ((j : Int) - 52 - 0).toNat = j - 52 by omega,
          show (0 - ((j : Int) - 52 - ((j - 52 : Nat) : Int))).toNat = 0 by omega, Nat.pow_zero,
          Nat.div_one, Nat.shiftLeft_eq, Nat.mul_assoc, ← Nat.pow_add, Nat.sub_add_cancel hj,
          hvalue]

end Whole

/-! ### Numbers that are whole -/

/-- The number is the whole number `a`, or a zero of either sign if `a` is zero. -/
def IsWhole (x : Float) (a : Int) : Prop :=
  Whole x.toModel.unpack a

/-- A number made of an integer is the integer, rounded. -/
theorem unpack_ofInt (n : Int) :
    (Float.ofInt n).toModel.unpack =
      (Float.Model.pack (UnpackedFloat.ofInt Format.binary64 n)).unpack := by
  rw [toModel_ofInt]
  rfl

/-- One made of an integer up to `2 ^ 53` is a whole number of this value. -/
theorem isWhole_ofInt {a : Int} (h : a.natAbs ≤ 2 ^ 53) : IsWhole (Float.ofInt a) a := by
  have hw := Whole.ofInt h
  rw [IsWhole, unpack_ofInt, hw.unpack_pack]
  exact hw

/-- A number is less than another when it compares so. -/
theorem lt_iff_compare (x y : Float) :
    x < y ↔ x.toModel.unpack.compare y.toModel.unpack = some .lt := by
  show decide (x.toModel.unpack.lt y.toModel.unpack = true) = true ↔ _
  rw [decide_eq_true_iff, UnpackedFloat.lt, beq_iff_eq]

namespace IsWhole

variable {x y : Float} {a b : Int}

/-- What is equal to a whole number is one. -/
theorem of_beq (h : (x == Float.ofInt a) = true) (ha : a.natAbs ≤ 2 ^ 53) : IsWhole x a := by
  change (x.toModel.unpack.compare (Float.ofInt a).toModel.unpack == some .eq) = true at h
  exact (isWhole_ofInt ha).of_compare_eq (beq_iff_eq.mp h)

/-- A whole number is a number. -/
theorem isNaN (h : IsWhole x a) : x.isNaN = false := by
  show x.toModel.unpack.isNaN = false
  unfold IsWhole at h
  generalize x.toModel.unpack = u at h
  cases h <;> rfl

/-- Whole numbers compare as the integers do. -/
theorem lt_iff (hx : IsWhole x a) (hy : IsWhole y b) : x < y ↔ a < b := by
  rw [lt_iff_compare, hx.compare hy, Option.some.injEq, Int.compare_eq_lt]

/-- The same for the order that is not strict. -/
theorem le_iff (hx : IsWhole x a) (hy : IsWhole y b) : x ≤ y ↔ a ≤ b := by
  show decide (x.toModel.unpack.le y.toModel.unpack = true) = true ↔ _
  rw [decide_eq_true_iff, UnpackedFloat.le, hx.compare hy, Option.any_some]
  exact Int.isLE_compare

/-- The difference of two different whole numbers is that of the integers, as a number. -/
theorem sub (hx : IsWhole x a) (hy : IsWhole y b) (hne : a ≠ b) :
    x - y = Float.ofInt (a - b) := by
  show Float.ofModel (Float.Model.pack
    (UnpackedFloat.sub Format.binary64 x.toModel.unpack y.toModel.unpack)) = _
  rw [Whole.sub hx hy hne, ← Float.Model.ofInt, ← toModel_ofInt]

/-- A zero with a sign loses it. -/
theorem add_ofInt (hx : IsWhole x a) (hb : b.natAbs ≤ 2 ^ 53) :
    x + Float.ofInt b = Float.ofInt (a + b) := by
  have hy := Whole.ofInt hb
  have hsum : UnpackedFloat.add Format.binary64 x.toModel.unpack
      (UnpackedFloat.ofInt Format.binary64 b) = UnpackedFloat.ofInt Format.binary64 (a + b) := by
    by_cases hzero : a = 0 ∧ b = 0
    · obtain ⟨rfl, rfl⟩ := hzero
      obtain ⟨s, hs⟩ := Whole.eq_zero hx rfl
      rw [hs]
      cases s <;> rfl
    · exact Whole.add hx hy (by omega)
  show Float.ofModel (Float.Model.pack
    (UnpackedFloat.add Format.binary64 x.toModel.unpack (Float.ofInt b).toModel.unpack)) = _
  rw [unpack_ofInt, hy.unpack_pack, hsum, ← Float.Model.ofInt, ← toModel_ofInt]

/-- A whole number up to `2 ^ 53` is kept as an unsigned integer, unless it is negative. -/
theorem toNat_toUInt64 (hx : IsWhole x a) (ha : 0 ≤ a) (hle : a ≤ 2 ^ 53) :
    x.toUInt64.toNat = a.toNat := by
  show (UInt64.ofNatClamp (x.toModel.unpack.toInt 0 _).toNat).toNat = _
  have hlt : a.toNat < UInt64.size := by
    show a.toNat < 2 ^ 64
    omega
  rw [Whole.toInt hx, UInt64.ofNatClamp, dif_pos hlt, UInt64.toNat_ofNatLT]

end IsWhole

/-! ### Whole numbers of any size -/

/-- A whole number other than zero is neither zero nor no number, however large it is. -/
theorem unpack_ofInt_apply (s : UnpackedFloat.Sign) {k : Nat} (hk : k ≠ 0) :
    (Float.ofInt (s.apply k)).toModel.unpack = .infinity s ∨
      ∃ m e hm, (Float.ofInt (s.apply k)).toModel.unpack = .finite s m e hm ∧
        (k.log2 : Int) - 52 ≤ e := by
  obtain ⟨m, e, hm, hfinite, hfull, hlow, hhigh⟩ := round_nat s hk
  rw [unpack_ofInt, ofInt_apply hk, hfinite, unpack_pack_full hfull (by omega)]
  split
  · exact .inr ⟨m, e, hm, rfl, hlow⟩
  · exact .inl rfl

/-- A natural number up to `2 ^ 53` is a whole number of the same value. -/
theorem isWhole_ofNat (h : n ≤ 2 ^ 53) : IsWhole (Float.ofNat n) n :=
  isWhole_ofInt (a := (n : Int)) h

/-- A number below `2 ^ 53` is below every number from there on. -/
theorem compare_ofNat_of_le {k : Nat} (hk : k < 2 ^ 53) (hn : 2 ^ 53 ≤ n) :
    (Float.ofNat k).toModel.unpack.compare (Float.ofNat n).toModel.unpack = some .lt ∧
      (Float.ofNat n).toModel.unpack.compare (Float.ofNat k).toModel.unpack = some .gt := by
  have hne : n ≠ 0 := by omega
  have hlog : 53 ≤ n.log2 := (Nat.le_log2 hne).mpr hn
  -- The exponent of the one is above zero, or it is infinite, and that of the other is not.
  have hlarge : (Float.ofNat n).toModel.unpack = .infinity .positive ∨
      ∃ m e hm, (Float.ofNat n).toModel.unpack = .finite .positive m e hm ∧
        (n.log2 : Int) - 52 ≤ e := unpack_ofInt_apply .positive hne
  have hsmall : IsWhole (Float.ofNat k) k := isWhole_ofNat hk.le
  unfold IsWhole at hsmall
  generalize (Float.ofNat n).toModel.unpack = v at hlarge ⊢
  generalize (Float.ofNat k).toModel.unpack = u at hsmall ⊢
  generalize ha : (k : Int) = a at hsmall
  cases hsmall with
  | zero s => rcases hlarge with rfl | ⟨m, e, hm, rfl, -⟩ <;> exact ⟨rfl, rfl⟩
  | @finite s m j i hm hmag hi =>
      have hpos := hmag.pos hm
      cases s with
      | negative =>
          rw [apply_negative] at ha
          omega
      | positive =>
          have hj := hmag.exponent_lt (i := 53) (by rw [apply_positive] at ha; omega)
          rcases hlarge with rfl | ⟨m', e, hm', rfl, he⟩
          · exact ⟨rfl, rfl⟩
          · have hlt : (j : Int) - 52 < e := by omega
            constructor
            · rw [UnpackedFloat.compare, Int.compare_eq_lt.mpr hlt]
              rfl
            · rw [UnpackedFloat.compare, Int.compare_eq_gt.mpr hlt]
              rfl

/-- So numbers below `2 ^ 53` compare with all others as they should. -/
theorem ofNat_lt_ofNat_iff {k : Nat} (hk : k < 2 ^ 53) :
    (Float.ofNat k < Float.ofNat n ↔ k < n) ∧ (Float.ofNat n < Float.ofNat k ↔ n < k) := by
  by_cases hn : n ≤ 2 ^ 53
  · have hk' := isWhole_ofNat hk.le
    have hn' := isWhole_ofNat hn
    rw [hk'.lt_iff hn', hn'.lt_iff hk']
    omega
  · obtain ⟨hlt, hgt⟩ := compare_ofNat_of_le hk (by omega : 2 ^ 53 ≤ n)
    rw [lt_iff_compare, lt_iff_compare, hlt, hgt]
    simp
    omega

/-- A natural number is its own magnitude. -/
theorem abs_ofNat (n : Nat) : (Float.ofNat n).abs = Float.ofNat n := by
  suffices hmodel : Float.Model.pack (Float.ofNat n).toModel.unpack.abs =
      (Float.ofNat n).toModel from congrArg Float.ofModel hmodel
  rcases Nat.eq_zero_or_pos n with rfl | hpos
  · rfl
  · obtain ⟨m, e, hm, hfinite, hfull, hlow, hhigh⟩ := round_nat .positive hpos.ne'
    have hvalue : (Float.ofNat n).toModel = Float.Model.pack (.finite .positive m e hm) := by
      rw [toModel_ofNat, ← hfinite, ← ofInt_apply hpos.ne']
      rfl
    rw [hvalue, unpack_pack_full hfull (by omega)]
    split
    · rfl
    · exact (pack_of_large (by omega) hm).symm

/-- A whole number is its own ceiling. -/
theorem ceiling_ofNat (n : Nat) : ceiling (Float.ofNat n) = Float.ofNat n := by
  rw [ceiling, abs_ofNat]
  -- Only what is less than `2 ^ 52`, and greater than its count, is rounded up.
  refine if_neg ?_
  rintro ⟨hless, hsmall⟩
  have hlt : n < Nat.pow 2 52 := (ofNat_lt_ofNat_iff (by decide)).2.mp hsmall
  change n < 2 ^ 52 at hlt
  have hwhole := (isWhole_ofNat (n := n) (by omega)).toNat_toUInt64 (by omega) (by omega)
  rw [hwhole, Int.toNat_natCast] at hless
  exact lt_irrefl n ((ofNat_lt_ofNat_iff (by omega)).1.mp hless)

end TagScript.Decimal
