import Mathlib
import TagScript.Decimal.Numeral

/-!
# `TagScript.Proofs.Decimal.Overflow`: which numerals are too large

The largest finite number is `2 ^ 1024 - 2 ^ 971`. The next one, if there were one, would be
`2 ^ 1024`. A decimal from the middle of the two on is read as infinite, and no smaller one is:
`Numeral.isInf_toFloat_iff` says so of every numeral, in whole numbers.

A numeral is read in one of two ways. In general it is a product or a quotient of whole numbers that
is rounded once. What rounding does to the largest numbers is settled by the mantissa with the bit
behind it (`doubled`), and `isInf_pack_round` tells from this when the result is infinite. A short
numeral is a product or a quotient of two numbers instead. Then the exponents are too small for
anything to be infinite (`AtMost`).
-/

set_option autoImplicit false

namespace TagScript.Decimal

open Float.Model Float.Model.UnpackedFloat

/-! ### Rounding -/

/-- Twice a mantissa with the bits that were shifted out of it, rounded down. -/
def doubled (em : ExtendedMantissa) : Nat :=
  2 * em.mantissa + em.roundBit.toNat

/-- Shifting one bit out halves it. -/
theorem doubled_shiftRightOne (em : ExtendedMantissa) :
    doubled em.shiftRightOne = doubled em / 2 := by
  have hbit : (em.mantissa % 2 != 0).toNat = em.mantissa % 2 := by
    rcases Nat.mod_two_eq_zero_or_one em.mantissa with h | h <;> simp [h]
  have hround := em.roundBit.toNat_le
  rw [doubled, doubled, ExtendedMantissa.shiftRightOne, hbit]
  dsimp only
  omega

/-- Shifting `k` bits out divides it by `2 ^ k`. -/
theorem doubled_shiftRight (em : ExtendedMantissa) (k : Nat) :
    doubled (em >>> k) = doubled em / 2 ^ k := by
  induction k with
  | zero => exact (Nat.div_one _).symm
  | succ k ih =>
      change doubled (em >>> k).shiftRightOne = _
      rw [doubled_shiftRightOne, ih, Nat.div_div_eq_div_mul, Nat.pow_succ]

/-- Ties go to the even mantissa, so `2 ^ 53` is reached from half a unit below it on. -/
theorem pow_le_roundedMantissa_iff (em : ExtendedMantissa) :
    2 ^ 53 ≤ em.roundedMantissa ↔ 2 ^ 54 - 1 ≤ doubled em := by
  obtain ⟨mantissa, round, sticky⟩ := em
  cases round <;> cases sticky <;>
    simp only [doubled, ExtendedMantissa.roundedMantissa, ExtendedMantissa.accuracy,
      Accuracy.roundToNearestEven, Bool.toNat_false, Bool.toNat_true] <;>
    omega

/-- Rounding adds one to a mantissa at most. -/
theorem roundedMantissa_bounds (em : ExtendedMantissa) :
    em.mantissa ≤ em.roundedMantissa ∧ em.roundedMantissa ≤ em.mantissa + 1 := by
  obtain ⟨mantissa, round, sticky⟩ := em
  cases round <;> cases sticky <;>
    simp only [ExtendedMantissa.roundedMantissa, ExtendedMantissa.accuracy,
      Accuracy.roundToNearestEven] <;>
    omega

/-! ### Packing -/

/-- Bits stand for infinity when all those of the exponent are set and none of the mantissa. -/
theorem isInf_unpack_iff {b : BitVec Format.binary64.numBits} :
    (UnpackedFloat.unpack Format.binary64 b).isInf = true ↔
      unpackExponent b = -1#_ ∧ unpackMantissa b = 0#_ := by
  unfold UnpackedFloat.unpack
  dsimp only
  split
  · next h => split <;> simp_all [UnpackedFloat.isInf]
  · next h => split <;> (try split) <;> simp_all [UnpackedFloat.isInf]

/-- A zero is not written as infinity. -/
theorem isInf_pack_zero (s : Sign) : (Float.Model.pack (.zero s)).isInf = false := by
  cases s <;> decide

/-- Parts that are put together stand for infinity when the exponent and the mantissa do. -/
theorem isInf_unpack_packComponents {s : Sign} {exponent : BitVec 11} {mantissa : BitVec 52} :
    (UnpackedFloat.unpack Format.binary64
      (packComponents Format.binary64 s exponent mantissa)).isInf = true ↔
      exponent = -1#11 ∧ mantissa = 0#52 := by
  rw [isInf_unpack_iff, unpackExponent_packComponents, unpackMantissa_packComponents]

/-- The bits of a number that is neither zero nor infinite, unless its exponent is too large. -/
theorem pack_finite (s : Sign) (m : Nat) (e : Int) (hm : 0 < m) :
    UnpackedFloat.pack Format.binary64 (.finite s m e hm) =
      if 2047 ≤ (e + 1075).toNat then packedInfinity Format.binary64 s
      else
        packComponents Format.binary64 s
          (if m.log2 = 52 then BitVec.ofNat 11 (e + 1075).toNat else 0#11) (BitVec.ofNat 52 m) := by
  have hbias : e + (Format.binary64.exponentBias : Int) + ((52 : Nat) : Int) = e + 1075 := by
    change e + 1023 + 52 = e + 1075
    omega
  have hbits : Format.binary64.mantissaBits = 53 := rfl
  simp only [UnpackedFloat.pack, hbias, hbits, Nat.reduceEqDiff, Nat.reducePow,
    show ∀ n : Nat, 2048 ≤ n + 1 ↔ 2047 ≤ n by omega]
  split_ifs <;> rfl

/-- A biased exponent that is written is not that of infinity. -/
theorem ofNat_ne_neg_one {n : Nat} (h : n < 2047) : BitVec.ofNat 11 n ≠ -1#11 := by
  intro heq
  have hvalue := congrArg BitVec.toNat heq
  rw [BitVec.toNat_ofNat, Nat.mod_eq_of_lt (by omega)] at hvalue
  change n = 2047 at hvalue
  omega

/-- A finite number is written as infinity when its exponent is too large. -/
theorem isInf_pack_finite {s : Sign} {m : Nat} {e : Int} {hm : 0 < m} :
    (Float.Model.pack (.finite s m e hm)).isInf = true ↔ 972 ≤ e := by
  change (UnpackedFloat.unpack Format.binary64
    (UnpackedFloat.pack Format.binary64 (.finite s m e hm))).isInf = true ↔ _
  rw [pack_finite]
  by_cases hlarge : 972 ≤ e
  · rw [if_pos (by omega), packedInfinity, isInf_unpack_packComponents]
    exact ⟨fun _ => hlarge, fun _ => ⟨rfl, rfl⟩⟩
  · rw [if_neg (by omega), isInf_unpack_packComponents]
    refine ⟨fun h => ?_, fun h => absurd h hlarge⟩
    split at h
    · exact absurd h.1 (ofNat_ne_neg_one (by omega))
    · cases h.1

/-! ### The exponent of a rounded number -/

/-- A rounded number has 53 bits, or the least exponent when it is too small for that. -/
theorem targetExponent_eq (m : Nat) (e : Int) :
    Format.binary64.targetExponent (totalExponent m e) = max (m.log2 + e - 52) (-1074) := by
  change max ((m.log2 : Int) + 1 + e - 53) (-1074) = _
  omega

/-- Half of it is the mantissa. -/
theorem mantissa_eq (em : ExtendedMantissa) : em.mantissa = doubled em / 2 := by
  have := em.roundBit.toNat_le
  rw [doubled]
  omega

/-- Of the bits behind a mantissa it holds the first. -/
theorem doubled_ofMantissa (m : Nat) (accuracy : Accuracy) :
    2 * m ≤ doubled (.ofMantissaAndAccuracy m accuracy) ∧
      doubled (.ofMantissaAndAccuracy m accuracy) ≤ 2 * m + 1 := by
  rcases accuracy with _ | (_ | _ | _) <;>
    simp [doubled, ExtendedMantissa.ofMantissaAndAccuracy]

/-- Shifting `k` bits out divides the mantissa by `2 ^ k`, however exact it is. -/
theorem mantissa_shiftRight (m : Nat) (accuracy : Accuracy) (k : Nat) :
    (ExtendedMantissa.ofMantissaAndAccuracy m accuracy >>> k).mantissa = m / 2 ^ k := by
  obtain ⟨hle, hlt⟩ := doubled_ofMantissa m accuracy
  rw [mantissa_eq, doubled_shiftRight, Nat.div_div_eq_div_mul, Nat.mul_comm,
    ← Nat.div_div_eq_div_mul]
  congr 1
  omega

/-- How far a mantissa is shifted before it is rounded. -/
def firstShift (m : Nat) (e : Int) : Nat :=
  (max (m.log2 + e - 52) (-1074) - e).toNat

/-- The mantissa after the first rounding. -/
def firstRounded (m : Nat) (e : Int) (accuracy : Accuracy) : Nat :=
  (ExtendedMantissa.ofMantissaAndAccuracy m accuracy >>> firstShift m e).roundedMantissa

/-- After the first rounding a mantissa is `2 ^ 53` at most. -/
theorem firstRounded_le (m : Nat) (e : Int) (accuracy : Accuracy) :
    firstRounded m e accuracy ≤ 2 ^ 53 := by
  refine (roundedMantissa_bounds _).2.trans ?_
  rw [mantissa_shiftRight, Nat.succ_le_iff, Nat.div_lt_iff_lt_mul (Nat.two_pow_pos _),
    ← Nat.pow_add]
  refine Nat.lt_log2_self.trans_le (Nat.pow_le_pow_right (by decide) ?_)
  rw [firstShift]
  omega

/-- A mantissa that is in range is shifted by one exactly if it is the next power of two. -/
theorem firstShift_of_le {r : Nat} {e : Int} (hr : r ≤ 2 ^ 53) (he : -1074 ≤ e) :
    firstShift r e = if r < 2 ^ 53 then 0 else 1 := by
  rw [firstShift]
  split
  · next hlt =>
    have hlog : r.log2 ≤ 52 := by
      by_cases hzero : r = 0
      · simp [hzero]
      · exact Nat.le_of_lt_succ ((Nat.log2_lt hzero).mpr hlt)
    omega
  · next hge =>
    obtain rfl : r = 2 ^ 53 := by omega
    rw [Nat.log2_two_pow]
    omega

/-- Rounding shifts once more only where the mantissa was rounded up to the next power of two. -/
theorem roundWithAccuracy_eq (s : Sign) (m : Nat) (e : Int) (accuracy : Accuracy) :
    roundWithAccuracy Format.binary64 s m e accuracy =
      if h : firstRounded m e accuracy = 0 then .zero s
      else if firstRounded m e accuracy < 2 ^ 53 then
        .finite s (firstRounded m e accuracy) (e + firstShift m e) (Nat.pos_of_ne_zero h)
      else .finite s (2 ^ 52) (e + firstShift m e + 1) (by decide) := by
  have hround : roundWithAccuracy Format.binary64 s m e accuracy =
      if h : firstRounded m e accuracy / 2 ^ firstShift (firstRounded m e accuracy)
          (e + firstShift m e) = 0 then .zero s
      else .finite s _ (e + firstShift m e
        + firstShift (firstRounded m e accuracy) (e + firstShift m e)) (Nat.pos_of_ne_zero h) := by
    simp only [roundWithAccuracy, shiftToTargetExponent, shiftToExponent, targetExponent_eq,
      mantissa_shiftRight]
    rfl
  have hle := firstRounded_le m e accuracy
  have hlow : -1074 ≤ e + firstShift m e := by
    rw [firstShift]
    omega
  -- Nothing is rounded a second time: what is left is a shift by one place or by none.
  have hshift := firstShift_of_le hle hlow
  rw [hround]
  by_cases hlt : firstRounded m e accuracy < 2 ^ 53
  · rw [if_pos hlt] at hshift
    simp only [hshift, if_pos hlt, Nat.pow_zero, Nat.div_one, Nat.cast_zero, add_zero]
  · rw [if_neg hlt] at hshift
    have heq : firstRounded m e accuracy = 2 ^ 53 := by omega
    simp only [hshift]
    simp only [heq]
    rfl

/-- A rounded number is infinite if its exponent is, or if its mantissa was rounded up to the next
power of two and its exponent is the largest one. -/
theorem isInf_pack_round_iff {s : Sign} {m : Nat} {e : Int} {accuracy : Accuracy} :
    (Float.Model.pack (roundWithAccuracy Format.binary64 s m e accuracy)).isInf = true ↔
      firstRounded m e accuracy ≠ 0 ∧ 972 ≤ e + firstShift m e ∨
        2 ^ 53 ≤ firstRounded m e accuracy ∧ 971 ≤ e + firstShift m e := by
  rw [roundWithAccuracy_eq]
  by_cases hzero : firstRounded m e accuracy = 0
  · rw [dif_pos hzero, isInf_pack_zero]
    simp [hzero]
  · rw [dif_neg hzero]
    by_cases hlt : firstRounded m e accuracy < 2 ^ 53
    · rw [if_pos hlt, isInf_pack_finite]
      omega
    · rw [if_neg hlt, isInf_pack_finite]
      omega

/-- A number whose exponent has to be raised is infinite from the middle between the largest finite
number and the next power of two on. -/
theorem isInf_pack_round {s : Sign} {m : Nat} {e : Int} {accuracy : Accuracy} (he : e ≤ 970) :
    (Float.Model.pack (roundWithAccuracy Format.binary64 s m e accuracy)).isInf = true ↔
      (2 ^ 54 - 1) * 2 ^ (971 - e).toNat ≤ doubled (.ofMantissaAndAccuracy m accuracy) := by
  obtain ⟨hle, hge⟩ := doubled_ofMantissa m accuracy
  have hpos : 0 < 2 ^ (971 - e).toNat := Nat.two_pow_pos _
  rw [isInf_pack_round_iff]
  -- By the place of the leading bit against that of the largest number. Only where they are the
  -- same do the other bits count.
  rcases lt_trichotomy m.log2 (52 + (971 - e).toNat) with hsmall | hequal | hlarge
  · have hm : m < 2 ^ 52 * 2 ^ (971 - e).toNat := by
      rw [← Nat.pow_add]
      exact Nat.lt_log2_self.trans_le (Nat.pow_le_pow_right (by decide) hsmall)
    have hexponent : e + firstShift m e < 971 := by
      rw [firstShift]
      omega
    generalize 2 ^ (971 - e).toNat = p at *
    omega
  · have hshift : firstShift m e = (971 - e).toNat := by
      rw [firstShift]
      omega
    have hexponent : e + firstShift m e = 971 := by omega
    have hrounded : 2 ^ 53 ≤ firstRounded m e accuracy ↔
        (2 ^ 54 - 1) * 2 ^ (971 - e).toNat ≤ doubled (.ofMantissaAndAccuracy m accuracy) := by
      rw [firstRounded, pow_le_roundedMantissa_iff, doubled_shiftRight, hshift,
        Nat.le_div_iff_mul_le hpos]
    rw [← hrounded]
    omega
  · have hne : m ≠ 0 := by
      rintro rfl
      simp at hlarge
    have hm : 2 ^ 53 * 2 ^ (971 - e).toNat ≤ m := by
      rw [← Nat.pow_add, ← Nat.le_log2 hne]
      omega
    have hshift : firstShift m e = m.log2 - 52 := by
      rw [firstShift]
      omega
    have hrounded : 0 < firstRounded m e accuracy := by
      refine Nat.lt_of_lt_of_le ?_ (roundedMantissa_bounds _).1
      rw [mantissa_shiftRight, hshift]
      exact Nat.div_pos ((Nat.le_log2 hne).mp (Nat.sub_le _ _)) (Nat.two_pow_pos _)
    generalize 2 ^ (971 - e).toNat = p at *
    omega

/-! ### Decimal fractions -/

/-- There is no bit behind an exact mantissa. -/
theorem doubled_exact (m : Nat) : doubled (.ofMantissaAndAccuracy m .exact) = 2 * m :=
  Nat.add_zero _

/-- The bit behind a quotient is that of the fraction. -/
theorem doubled_fraction (n : Nat) {d : Nat} (hd : 0 < d) :
    doubled (.ofMantissaAndAccuracy (n / d) (accuracyOfFraction (n % d) d)) = 2 * n / d := by
  have hdouble : 2 * n = d * (2 * (n / d)) + 2 * (n % d) := by
    conv_lhs => rw [← Nat.div_add_mod n d]
    ring
  have hlt := Nat.mod_lt n hd
  rw [hdouble, Nat.mul_add_div hd]
  unfold accuracyOfFraction
  split
  · next hzero => rw [doubled_exact, hzero, Nat.mul_zero, Nat.zero_div, Nat.add_zero]
  · have hbit : 2 * (n % d) / d = if d ≤ 2 * (n % d) then 1 else 0 := by
      split
      · apply Nat.div_eq_of_lt_le <;> omega
      · exact Nat.div_eq_of_lt (by omega)
    rw [hbit]
    rcases lt_trichotomy (2 * (n % d)) d with hless | hequal | hgreater
    · rw [compare_lt_iff_lt.mpr hless, if_neg (by omega)]
      rfl
    · rw [compare_eq_iff_eq.mpr hequal, if_pos (by omega)]
      rfl
    · rw [compare_gt_iff_gt.mpr hgreater, if_pos (by omega)]
      rfl

/-- The middle between the largest finite number and the next power of two. -/
def overflowBound : Nat := (2 ^ 54 - 1) * 2 ^ 970

/-- Below a point `k` bits up, the bound is that of `isInf_pack_round`. -/
theorem overflowBound_mul_pow (k : Nat) :
    overflowBound * 2 ^ (k + 1) = (2 ^ 54 - 1) * 2 ^ (971 - -(k : Int)).toNat := by
  rw [overflowBound, Nat.mul_assoc, ← Nat.pow_add,
    show (971 - -(k : Int)).toNat = 970 + (k + 1) by omega]

/-- The bound is positive, and not above `2 ^ 1024`. -/
theorem overflowBound_bounds : 0 < overflowBound ∧ overflowBound ≤ 2 ^ (54 + 970) := by
  have hbounds : ∀ k, 0 < (2 ^ 54 - 1) * 2 ^ k ∧ (2 ^ 54 - 1) * 2 ^ k ≤ 2 ^ (54 + k) := fun k =>
    ⟨Nat.mul_pos (by decide) (Nat.two_pow_pos k), by
      rw [Nat.pow_add]
      exact Nat.mul_le_mul_right _ (by decide)⟩
  exact hbounds 970

/-- A product is infinite from the bound on, however far its first factor is shifted. -/
theorem isInf_pack_product {a n k : Nat} {ha : 0 < a <<< k} {hn : 0 < n} :
    (Float.Model.pack (UnpackedFloat.mul Format.binary64 (.finite .positive (a <<< k) (-k) ha)
      (.finite .positive n 0 hn))).isInf = true ↔ overflowBound ≤ a * n := by
  have hround : UnpackedFloat.mul Format.binary64 (.finite .positive (a <<< k) (-k) ha)
      (.finite .positive n 0 hn) =
        roundWithAccuracy Format.binary64 .positive (a <<< k * n) (-k) .exact := by
    rw [UnpackedFloat.mul, add_zero]
    rfl
  have hdouble : 2 * (a <<< k * n) = a * n * 2 ^ (k + 1) := by
    rw [Nat.shiftLeft_eq]
    ring
  rw [hround, isInf_pack_round (by omega), doubled_exact, hdouble, ← overflowBound_mul_pow]
  exact Nat.mul_le_mul_right_iff (Nat.two_pow_pos _)

/-- A quotient is infinite when the dividend is the bound times the divisor or more. -/
theorem isInf_pack_quotient {a n : Nat} {ha : 0 < a} {hn : 0 < n} :
    (Float.Model.pack (UnpackedFloat.div Format.binary64 (.finite .positive a 0 ha)
      (.finite .positive n 0 hn))).isInf = true ↔ overflowBound * n ≤ a := by
  -- The dividend is shifted first, so that the quotient has bits enough. How far does not matter.
  obtain ⟨t, ht, hround⟩ : ∃ t : Int, t ≤ 0 ∧ UnpackedFloat.div Format.binary64
      (.finite .positive a 0 ha) (.finite .positive n 0 hn) =
        roundWithAccuracy Format.binary64 .positive (a <<< (0 - t).toNat / n) t
          (accuracyOfFraction (a <<< (0 - t).toNat % n) n) :=
    ⟨_, min_le_left 0 _, rfl⟩
  obtain ⟨k, rfl⟩ := Int.exists_eq_neg_ofNat ht
  have hdouble : 2 * a <<< (0 - -(k : Int)).toNat = a * 2 ^ (k + 1) := by
    rw [Nat.shiftLeft_eq, show (0 - -(k : Int)).toNat = k by omega]
    ring
  rw [hround, isInf_pack_round (by omega), doubled_fraction _ hn, hdouble,
    Nat.le_div_iff_mul_le hn, ← overflowBound_mul_pow, Nat.mul_right_comm]
  exact Nat.mul_le_mul_right_iff (Nat.two_pow_pos _)

/-- A decimal that is rounded once is infinite when its value is the bound or more. -/
theorem isInf_ofScientific_model (m : Nat) (e : Int) :
    (Float.Model.ofScientific m e).isInf = true ↔
      overflowBound * 10 ^ (-e).toNat ≤ m * 10 ^ e.toNat := by
  obtain ⟨hpos, hle⟩ := overflowBound_bounds
  have hpow : ∀ {i k : Nat}, i ≤ k → 2 ^ i ≤ 10 ^ k := fun {i k} h =>
    (Nat.pow_le_pow_left (by decide) i).trans (Nat.pow_le_pow_right (by decide) h)
  change (Float.Model.pack (UnpackedFloat.ofScientific Format.binary64 m e)).isInf = true ↔ _
  unfold UnpackedFloat.ofScientific
  -- Zero and the exponents that are far out of range are settled without arithmetic.
  split_ifs with hzero hlarge hsmall hnonneg
  · have hbound : 0 < overflowBound * 10 ^ (-e).toNat := Nat.mul_pos hpos (Nat.pow_pos (by decide))
    rw [isInf_pack_zero, hzero, Nat.zero_mul]
    exact iff_of_false Bool.false_ne_true hbound.not_ge
  · change 2048 < e at hlarge
    have hbound : overflowBound ≤ m * 10 ^ e.toNat :=
      (hle.trans (hpow (by omega))).trans (Nat.le_mul_of_pos_left _ (Nat.pos_of_ne_zero hzero))
    rw [show (-e).toNat = 0 by omega, Nat.pow_zero, Nat.mul_one]
    exact iff_of_true (by decide) hbound
  · change e < -(2048 + (m.log2 : Int)) at hsmall
    have hbound : m < overflowBound * 10 ^ (-e).toNat :=
      (Nat.lt_log2_self.trans_le (hpow (by omega))).trans_le (Nat.le_mul_of_pos_left _ hpos)
    rw [isInf_pack_zero, show e.toNat = 0 by omega, Nat.pow_zero, Nat.mul_one]
    exact iff_of_false Bool.false_ne_true hbound.not_ge
  · refine isInf_pack_product.trans ?_
    rw [show (-e).toNat = 0 by omega, Nat.pow_zero, Nat.mul_one]
  · refine isInf_pack_quotient.trans ?_
    rw [show e.toNat = 0 by omega, Nat.pow_zero, Nat.mul_one]

/-! ### Short decimals -/

/-- Zero, or a finite number with an exponent that is at most `k`. -/
def AtMost (k : Int) : UnpackedFloat → Prop
  | .zero _ => True
  | .finite _ m e _ => m < 2 ^ 53 ∧ e ≤ k
  | _ => False

/-- Such a number is not infinite. -/
theorem AtMost.isInf {k : Int} {x : UnpackedFloat} (h : AtMost k x) : x.isInf = false := by
  cases x with
  | zero | finite => rfl
  | infinity | notANumber => cases h

/-- Bits stand for such a number when those of the exponent are few enough. -/
theorem atMost_unpack {k : Int} {b : BitVec Format.binary64.numBits}
    (hexponent : (unpackExponent b).toNat < 2047)
    (hle : ((unpackExponent b).toNat : Int) ≤ k + 1075) (hk : -1074 ≤ k) :
    AtMost k (UnpackedFloat.unpack Format.binary64 b) := by
  have hbias : (Format.binary64.exponentBias : Int) +
      (Format.binary64.mantissaBitsWithoutImplicit : Int) = 1075 := rfl
  unfold UnpackedFloat.unpack
  dsimp only
  split
  · next h =>
    rw [h] at hexponent
    exact absurd hexponent (by decide)
  split
  · next h =>
    split
    · trivial
    · refine ⟨(BitVec.isLt _).trans (by decide), ?_⟩
      rw [h, hbias, BitVec.toNat_zero]
      omega
  · refine ⟨BitVec.isLt _, ?_⟩
    rw [hbias]
    omega

/-- A number that is not infinite keeps its exponent, unless this is too small. -/
theorem atMost_unpack_pack {k : Int} {s : Sign} {m : Nat} {e : Int} {hm : 0 < m} (he : e ≤ k)
    (hk : -1074 ≤ k) (hlarge : k ≤ 971) :
    AtMost k (Float.Model.pack (.finite s m e hm)).unpack := by
  change AtMost k (UnpackedFloat.unpack Format.binary64
    (UnpackedFloat.pack Format.binary64 (.finite s m e hm)))
  rw [pack_finite, if_neg (by omega)]
  have hexponent : (BitVec.ofNat 11 (e + 1075).toNat).toNat = (e + 1075).toNat := by
    rw [BitVec.toNat_ofNat, Nat.mod_eq_of_lt (by omega)]
  refine atMost_unpack ?_ ?_ hk
  all_goals
    rw [unpackExponent_packComponents]
    split
    · rw [hexponent]
      omega
    · rw [BitVec.toNat_zero]
      omega

/-- A zero stays one. -/
theorem atMost_unpack_zero {k : Int} {s : Sign} :
    AtMost k (Float.Model.pack (.zero s)).unpack := by
  have hunpack : (Float.Model.pack (.zero s)).unpack = .zero s := by
    cases s <;> rfl
  rw [hunpack]
  trivial

/-- A mantissa of `n` bits is rounded to one of 53 bits. -/
theorem atMost_round {k : Int} {s : Sign} {m n : Nat} {e : Int} {accuracy : Accuracy}
    (hm : m < 2 ^ n) (he : e < k) (hn : e + n < k + 52) (hk : -1074 < k) (hlarge : k ≤ 971) :
    AtMost k (Float.Model.pack (roundWithAccuracy Format.binary64 s m e accuracy)).unpack := by
  have hlog : m.log2 ≤ n := by
    by_cases hzero : m = 0
    · simp [hzero]
    · exact ((Nat.log2_lt hzero).mpr hm).le
  have hexponent : e + firstShift m e < k := by
    rw [firstShift]
    omega
  rw [roundWithAccuracy_eq]
  split
  · exact atMost_unpack_zero
  · split
    · exact atMost_unpack_pack (by omega) (by omega) hlarge
    · exact atMost_unpack_pack (by omega) (by omega) hlarge

/-- A whole number below `2 ^ 53` has an exponent of two at most. -/
theorem atMost_ofNat {n : Nat} (h : n < 2 ^ 53) :
    AtMost 2 (Float.Model.pack (UnpackedFloat.ofNat Format.binary64 n)).unpack := by
  rw [UnpackedFloat.ofNat, UnpackedFloat.ofInt, UnpackedFloat.normalize]
  split
  · next hless => exact absurd (Int.compare_eq_lt.mp hless) (by omega)
  · exact atMost_unpack_zero
  · rw [Int.toNat_natCast]
    unfold UnpackedFloat.round decreaseExponent
    dsimp only
    -- The number is shifted to the left, and its exponent lowered by as much.
    generalize (0 - Format.binary64.targetExponent (totalExponent n 0)).toNat = k
    refine atMost_round (n := 53 + k) ?_ (by omega) (by omega) (by decide) (by decide)
    rw [Nat.shiftLeft_eq, Nat.pow_add]
    exact Nat.mul_lt_mul_of_pos_right h (Nat.two_pow_pos k)

/-- The exponents of the powers of ten that are numbers. -/
def isPower : UnpackedFloat → Bool
  | .finite _ m e _ => decide (m < 2 ^ 53 ∧ -52 ≤ e ∧ e ≤ 22)
  | _ => false

/-- The powers of ten up to the 22nd have such exponents. -/
theorem isPower_exactlyRepresentable : ∀ i : Fin 23,
    isPower (Float.exactlyRepresentablePowersOfTen[i]).toModel.unpack = true := by
  decide

/-- A small number times a power of ten is not infinite. -/
theorem AtMost.mul {x y : UnpackedFloat} (hx : AtMost 2 x) (hy : isPower y = true) :
    (Float.Model.pack (UnpackedFloat.mul Format.binary64 x y)).isInf = false := by
  cases y with
  | zero | infinity | notANumber => cases hy
  | finite t n f hn =>
      obtain ⟨hn', -, hf⟩ := of_decide_eq_true hy
      cases x with
      | infinity | notANumber => cases hx
      | zero s => exact isInf_pack_zero _
      | finite s m e hm =>
          obtain ⟨hm', he⟩ := hx
          have hproduct : m * n < 2 ^ (53 + 53) := by
            rw [Nat.pow_add]
            exact Nat.mul_lt_mul'' hm' hn'
          exact (atMost_round (k := 100) hproduct (by omega) (by omega) (by decide)
            (by decide)).isInf

/-- Nor is a small number divided by one. -/
theorem AtMost.div {x y : UnpackedFloat} (hx : AtMost 2 x) (hy : isPower y = true) :
    (Float.Model.pack (UnpackedFloat.div Format.binary64 x y)).isInf = false := by
  cases y with
  | zero | infinity | notANumber => cases hy
  | finite t n f hn =>
      obtain ⟨-, hf, -⟩ := of_decide_eq_true hy
      cases x with
      | infinity | notANumber => cases hx
      | zero s => exact isInf_pack_zero _
      | finite s m e hm =>
          obtain ⟨hm', he⟩ := hx
          -- The dividend is shifted first, to an exponent that is not above that of the quotient.
          obtain ⟨r, hr, hround⟩ : ∃ r : Int, r ≤ e - f ∧
              UnpackedFloat.div Format.binary64 (.finite s m e hm) (.finite t n f hn) =
                roundWithAccuracy Format.binary64 (s / t) (m <<< (e - f - r).toNat / n) r
                  (accuracyOfFraction (m <<< (e - f - r).toNat % n) n) :=
            ⟨_, min_le_left _ _, rfl⟩
          have hquotient : m <<< (e - f - r).toNat / n < 2 ^ (53 + (e - f - r).toNat) := by
            refine (Nat.div_le_self _ _).trans_lt ?_
            rw [Nat.shiftLeft_eq, Nat.pow_add]
            exact Nat.mul_lt_mul_of_pos_right hm' (Nat.two_pow_pos _)
          rw [hround]
          exact (atMost_round (k := 100) hquotient (by omega) (by omega) (by decide)
            (by decide)).isInf

/-- A short decimal is not infinite. -/
theorem isInf_ofScientific_eq_false {m e : Nat} {negative : Bool} (hm : m < 2 ^ 53) (he : e ≤ 22) :
    (Float.ofScientific m negative e).isInf = false := by
  have hpower := isPower_exactlyRepresentable ⟨e, by omega⟩
  have hm' : AtMost 2 (m.toUInt64.toFloat).toModel.unpack := by
    change AtMost 2
      (Float.Model.pack (UnpackedFloat.ofNat Format.binary64 m.toUInt64.toNat)).unpack
    rw [Nat.toUInt64_eq, UInt64.toNat_ofNat_of_lt' (hm.trans (by decide))]
    exact atMost_ofNat hm
  rw [Float.ofScientific, dif_pos ⟨hm, he⟩]
  split
  · exact hm'.div hpower
  · exact hm'.mul hpower

/-! ### Numerals -/

/-- Whether a decimal is too large does not depend on how it is computed. -/
theorem isInf_ofScientific_iff {m : Nat} {e : Int} :
    (Float.ofScientific m (decide (e < 0)) e.natAbs).isInf = true ↔
      overflowBound * 10 ^ (-e).toNat ≤ m * 10 ^ e.toNat := by
  by_cases hshort : m < 2 ^ 53 ∧ e.natAbs ≤ 22
  · have hbound : m * 10 ^ e.toNat < overflowBound * 10 ^ (-e).toNat :=
      calc m * 10 ^ e.toNat
          ≤ 2 ^ 53 * 10 ^ 22 :=
            Nat.mul_le_mul hshort.1.le (Nat.pow_le_pow_right (by decide) (by omega))
        _ < overflowBound := by decide +kernel
        _ ≤ overflowBound * 10 ^ (-e).toNat := Nat.le_mul_of_pos_right _ (Nat.pow_pos (by decide))
    rw [isInf_ofScientific_eq_false hshort.1 hshort.2]
    exact iff_of_false Bool.false_ne_true hbound.not_ge
  · have hexponent :
        (if decide (e < 0) then Int.negOfNat e.natAbs else Int.ofNat e.natAbs) = e := by
      simp only [decide_eq_true_eq, Int.negOfNat_eq, Int.ofNat_eq_natCast]
      split <;> omega
    rw [Float.ofScientific, dif_neg hshort, hexponent]
    exact isInf_ofScientific_model m e

/-- A number is infinite, not a number, or finite with an exponent that can be written. -/
theorem unpack_cases (x : Float.Model) :
    (∃ s, x.unpack = .infinity s) ∨ x.unpack = .notANumber ∨ AtMost 971 x.unpack := by
  by_cases hexponent : (@unpackExponent Format.binary64 x.toBits.toBitVec).toNat < 2047
  · exact .inr (.inr (atMost_unpack hexponent (by omega) (by decide)))
  · have hlast : @unpackExponent Format.binary64 x.toBits.toBitVec = -1#11 := by
      have hlt : (@unpackExponent Format.binary64 x.toBits.toBitVec).toNat < 2048 :=
        BitVec.isLt _
      apply BitVec.eq_of_toNat_eq
      change _ = 2047
      omega
    rw [Float.Model.unpack, UnpackedFloat.unpack]
    dsimp only
    rw [if_pos hlast]
    split
    · exact .inl ⟨_, rfl⟩
    · exact .inr (.inl rfl)

/-- The sign does not make a number infinite. -/
theorem isInf_neg (x : Float) : (-x).isInf = x.isInf := by
  change (Float.Model.pack x.toModel.unpack.neg).isInf = x.toModel.unpack.isInf
  rcases unpack_cases x.toModel with ⟨s, h⟩ | h | h
  · rw [h]
    cases s <;> decide
  · rw [h]
    decide
  · rw [h.isInf]
    cases hx : x.toModel.unpack with
    | infinity | notANumber =>
        rw [hx] at h
        cases h
    | zero s => exact isInf_pack_zero _
    | finite s m e hm =>
        rw [hx] at h
        rw [← Bool.not_eq_true, UnpackedFloat.neg, isInf_pack_finite]
        have := h.2
        omega

/-- A number has as many digits as there are powers of ten up to it. -/
theorem digitsOf_bounds {n : Nat} (h : 0 < n) :
    ∃ k, (digitsOf n).length = k + 1 ∧ 10 ^ k ≤ n ∧ n < 10 ^ (k + 1) := by
  obtain ⟨k, hk⟩ := Nat.exists_eq_succ_of_ne_zero (Nat.length_toDigits_pos (b := 10) (n := n)).ne'
  refine ⟨k, hk, ?_, (Nat.length_toDigits_le_iff (by decide) k.succ_pos).mp hk.le⟩
  cases k with
  | zero => exact h
  | succ k =>
      rw [← Nat.not_lt, ← Nat.length_toDigits_le_iff (by decide) k.succ_pos]
      omega

namespace Numeral

variable {n : Numeral}

/-- The numeral is too large to be a finite number. -/
def Overflows (n : Numeral) : Prop :=
  overflowBound * 10 ^ (-n.exponent).toNat ≤ n.coefficient * 10 ^ n.exponent.toNat

instance (n : Numeral) : Decidable n.Overflows :=
  inferInstanceAs (Decidable (_ ≤ _))

/-- A numeral whose digits end far enough behind the point does not overflow. -/
theorem not_overflows_of_small
    (h : n.coefficient = 0 ∨ ((digitsOf n.coefficient).length : Int) + n.exponent < -330) :
    ¬n.Overflows := by
  have hpos := overflowBound_bounds.1
  rw [Overflows, Nat.not_le]
  rcases Nat.eq_zero_or_pos n.coefficient with hzero | hcoefficient
  · rw [hzero, Nat.zero_mul]
    exact Nat.mul_pos hpos (Nat.pow_pos (by decide))
  · obtain ⟨k, hlength, -, hlt⟩ := digitsOf_bounds hcoefficient
    rw [show n.exponent.toNat = 0 by omega, Nat.pow_zero, Nat.mul_one]
    calc n.coefficient < 10 ^ (k + 1) := hlt
      _ ≤ 10 ^ (-n.exponent).toNat := Nat.pow_le_pow_right (by decide) (by omega)
      _ ≤ overflowBound * 10 ^ (-n.exponent).toNat := Nat.le_mul_of_pos_left _ hpos

/-- A numeral whose digits begin far enough before the point overflows. -/
theorem overflows_of_large (hne : n.coefficient ≠ 0)
    (h : 310 < ((digitsOf n.coefficient).length : Int) + n.exponent) : n.Overflows := by
  obtain ⟨k, hlength, hle, -⟩ := digitsOf_bounds (Nat.pos_of_ne_zero hne)
  calc overflowBound * 10 ^ (-n.exponent).toNat
      ≤ 10 ^ 310 * 10 ^ (-n.exponent).toNat := Nat.mul_le_mul_right _ (by decide +kernel)
    _ = 10 ^ (310 + (-n.exponent).toNat) := by rw [Nat.pow_add]
    _ ≤ 10 ^ (k + n.exponent.toNat) := Nat.pow_le_pow_right (by decide) (by omega)
    _ = 10 ^ k * 10 ^ n.exponent.toNat := Nat.pow_add ..
    _ ≤ n.coefficient * 10 ^ n.exponent.toNat := Nat.mul_le_mul_right _ hle

/-- A decimal that is used for every numeral too large is infinite. -/
theorem isInf_ofScientific_large : (Float.ofScientific 1 false 400).isInf = true :=
  isInf_ofScientific_iff (e := 400) |>.mpr (by decide +kernel)

/-- **A numeral is read as infinite exactly if it overflows**, in whichever way it is read. -/
theorem isInf_toFloat_iff (n : Numeral) : n.toFloat.isInf = true ↔ n.Overflows := by
  have hsign : ∀ x : Float, (if n.negative then -x else x).isInf = x.isInf := fun x => by
    split
    · exact isInf_neg x
    · rfl
  rw [Numeral.toFloat, hsign]
  split
  · next hsmall => exact iff_of_false (by decide) (not_overflows_of_small hsmall)
  split
  · next hne hlarge =>
    exact iff_of_true isInf_ofScientific_large
      (overflows_of_large (fun hzero => hne (.inl hzero)) hlarge)
  · exact isInf_ofScientific_iff

-- The shortest decimals of the largest number and of what lies above it.
example :
    ¬Overflows ⟨false, 17976931348623157, 292⟩ ∧ Overflows ⟨false, 17976931348623159, 292⟩ := by
  decide +kernel

end Numeral

end TagScript.Decimal
