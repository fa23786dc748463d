import TagScript.Proofs.Decimal.Overflow

/-!
# `TagScript.Proofs.Decimal.Rounding`: numbers that are rounded once

Numbers are computed with in an unpacked form, a mantissa with an exponent, in which one number can
be written in several ways. What keeps that apart from the results is that rounding goes by the
value: a mantissa with zeros appended to it, and an exponent lowered by as much, are rounded to the
same (`round_mul_two_pow`). What comes out has a mantissa of 53 bits (`Full`), if it is not very
small. Such a number is rounded to itself (`round_full`), and packing keeps it unless it is too
large (`unpack_pack_full`).

A whole number is read as a number in one of three ways, by its size and its sign. All of them round
it once (`toModel_ofInt`).
-/

set_option autoImplicit false

namespace TagScript.Decimal

open Float.Model Float.Model.UnpackedFloat

/-! ### Rounding goes by the value -/

/-- Appending zeros to a number makes it longer by their number. -/
theorem log2_mul_two_pow {m : Nat} (hm : m ≠ 0) (k : Nat) : (m * 2 ^ k).log2 = m.log2 + k := by
  induction k with
  | zero => rw [Nat.pow_zero, Nat.mul_one, Nat.add_zero]
  | succ k ih =>
      have hne : m * 2 ^ k ≠ 0 := Nat.mul_ne_zero hm (Nat.two_pow_pos k).ne'
      rw [Nat.pow_succ', Nat.mul_left_comm, Nat.log2_two_mul hne, ih, Nat.add_assoc]

/-- Bits may be shifted out in two goes. -/
theorem shiftRight_add (em : ExtendedMantissa) (i k : Nat) : em >>> (k + i) = em >>> k >>> i := by
  induction i with
  | zero => rfl
  | succ i ih =>
      show (em >>> (k + i)).shiftRightOne = (em >>> k >>> i).shiftRightOne
      rw [ih]

/-- Zeros are shifted out without a trace. -/
theorem shiftRight_mul_two_pow (m k : Nat) :
    ExtendedMantissa.ofMantissaAndAccuracy (m * 2 ^ k) .exact >>> k =
      .ofMantissaAndAccuracy m .exact := by
  induction k generalizing m with
  | zero => rw [Nat.pow_zero, Nat.mul_one]; rfl
  | succ k ih =>
      show
        (ExtendedMantissa.ofMantissaAndAccuracy (m * 2 ^ (k + 1)) .exact >>> k).shiftRightOne = _
      rw [Nat.pow_succ', ← Nat.mul_assoc, ih, ExtendedMantissa.shiftRightOne]
      simp [ExtendedMantissa.ofMantissaAndAccuracy]

/-- Zeros that are appended while the exponent is lowered leave the leading bit where it was. -/
theorem totalExponent_mul_two_pow {m : Nat} (hm : m ≠ 0) (e : Int) (k : Nat) :
    totalExponent (m * 2 ^ k) (e - k) = totalExponent m e := by
  rw [totalExponent, totalExponent, log2_mul_two_pow hm]
  omega

/-- A mantissa that has to be shortened is rounded to the same if zeros are appended to it. -/
theorem roundWithAccuracy_mul_two_pow (s : Sign) {m : Nat} (hm : m ≠ 0) {e : Int} (k : Nat)
    (he : e ≤ max (m.log2 + e - 52) (-1074)) :
    roundWithAccuracy Format.binary64 s (m * 2 ^ k) (e - k) .exact =
      roundWithAccuracy Format.binary64 s m e .exact := by
  have hshift : shiftToTargetExponent Format.binary64 (m * 2 ^ k) (e - k) .exact =
      shiftToTargetExponent Format.binary64 m e .exact := by
    unfold shiftToTargetExponent shiftToExponent
    rw [totalExponent_mul_two_pow hm, targetExponent_eq]
    -- The zeros are shifted out first, and then there is as much left to shift as without them.
    have hamount : (max (m.log2 + e - 52) (-1074) - (e - k)).toNat
        = k + (max (m.log2 + e - 52) (-1074) - e).toNat := by omega
    dsimp only
    rw [hamount, shiftRight_add, shiftRight_mul_two_pow]
    refine Prod.ext rfl ?_
    dsimp only
    omega
  simp only [roundWithAccuracy, hshift]

/-- Rounding begins with a mantissa that is long enough. How long it is made does not matter. -/
theorem round_eq_roundWithAccuracy (s : Sign) {m : Nat} (hm : m ≠ 0) {e : Int} {i : Nat}
    (hi : e - i ≤ max (m.log2 + e - 52) (-1074)) :
    UnpackedFloat.round Format.binary64 s m e =
      roundWithAccuracy Format.binary64 s (m * 2 ^ i) (e - i) .exact := by
  unfold UnpackedFloat.round decreaseExponent
  rw [targetExponent_eq]
  dsimp only
  rw [Nat.shiftLeft_eq]
  generalize hfirst : (e - max ((m.log2 : Int) + e - 52) (-1074)).toNat = first
  have hne : m * 2 ^ first ≠ 0 := Nat.mul_ne_zero hm (Nat.two_pow_pos first).ne'
  have henough : e - first ≤ max (((m * 2 ^ first).log2 : Int) + (e - first) - 52) (-1074) := by
    rw [log2_mul_two_pow hm]
    omega
  -- It is made as long as it has to be, and what is more than that is zeros.
  obtain ⟨more, rfl⟩ : ∃ more, i = first + more := Nat.exists_eq_add_of_le (by omega)
  rw [← roundWithAccuracy_mul_two_pow s hne more henough, Nat.mul_assoc, ← Nat.pow_add]
  congr 1
  omega

/-- What is rounded is the number, whichever way it is written. -/
theorem round_mul_two_pow (s : Sign) {m : Nat} (hm : m ≠ 0) (e : Int) (k : Nat) :
    UnpackedFloat.round Format.binary64 s (m * 2 ^ k) (e - k) =
      UnpackedFloat.round Format.binary64 s m e := by
  have hne : m * 2 ^ k ≠ 0 := Nat.mul_ne_zero hm (Nat.two_pow_pos k).ne'
  obtain ⟨i, hi⟩ : ∃ i : Nat, e - i ≤ max (m.log2 + e - 52) (-1074) :=
    ⟨(e + 1074).toNat, by omega⟩
  rw [round_eq_roundWithAccuracy s hne (i := i) (by rw [log2_mul_two_pow hm]; omega),
    round_eq_roundWithAccuracy s hm (i := k + i) (by omega), Nat.mul_assoc, ← Nat.pow_add]
  congr 1
  omega

/-- The same for numbers with a sign. -/
theorem normalize_mul_two_pow (n e : Int) (k : Nat) (zeroSign : Sign) :
    normalize Format.binary64 (n * 2 ^ k) (e - k) zeroSign =
      normalize Format.binary64 n e zeroSign := by
  have hpos : (0 : Int) < 2 ^ k := Int.pow_pos (by decide)
  have hcast : ∀ j : Nat, ((j : Int) * 2 ^ k).toNat = j * 2 ^ k := fun j => by
    rw [← Int.toNat_natCast (j * 2 ^ k)]
    push_cast
    rfl
  rcases lt_trichotomy n 0 with hneg | rfl | hpos'
  · obtain ⟨j, rfl⟩ : ∃ j : Nat, n = -(j : Int) := ⟨n.natAbs, by omega⟩
    have hj : j ≠ 0 := by omega
    have hlt : -(j : Int) * 2 ^ k < 0 := Int.mul_neg_of_neg_of_pos hneg hpos
    simp only [UnpackedFloat.normalize, Int.compare_eq_lt.mpr hneg, Int.compare_eq_lt.mpr hlt]
    rw [Int.neg_mul, Int.neg_neg, Int.neg_neg, hcast, Int.toNat_natCast, round_mul_two_pow _ hj]
  · rw [Int.zero_mul]
    rfl
  · obtain ⟨j, rfl⟩ : ∃ j : Nat, n = (j : Int) := ⟨n.natAbs, by omega⟩
    have hj : j ≠ 0 := by omega
    have hgt : 0 < (j : Int) * 2 ^ k := Int.mul_pos hpos' hpos
    simp only [UnpackedFloat.normalize, Int.compare_eq_gt.mpr hpos', Int.compare_eq_gt.mpr hgt]
    rw [hcast, Int.toNat_natCast, round_mul_two_pow _ hj]

/-! ### Mantissas of 53 bits -/

/-- The mantissa has all the bits that a mantissa can have. -/
def Full (m : Nat) : Prop :=
  2 ^ 52 ≤ m ∧ m < 2 ^ 53

variable {s : Sign} {m n : Nat} {e : Int}

/-- The leading bit is the 53rd. -/
theorem Full.log2 (h : Full m) : m.log2 = 52 :=
  (Nat.log2_eq_iff (by have := h.1; omega)).mpr h

/-- A number with such a mantissa is rounded to itself. -/
theorem roundWithAccuracy_full (h : Full m) (he : -1074 ≤ e) (hm : 0 < m) :
    roundWithAccuracy Format.binary64 s m e .exact = .finite s m e hm := by
  have hshift : firstShift m e = 0 := by
    rw [firstShift, h.log2]
    omega
  have hrounded : firstRounded m e .exact = m := by
    rw [firstRounded, hshift]
    rfl
  rw [roundWithAccuracy_eq, hshift]
  simp only [hrounded, dif_neg hm.ne', if_pos h.2, Nat.cast_zero, add_zero]

/-- Such a number is rounded to itself, whatever length it is brought to first. -/
theorem round_full (h : Full m) (he : -1074 ≤ e) (hm : 0 < m) :
    UnpackedFloat.round Format.binary64 s m e = .finite s m e hm := by
  rw [round_eq_roundWithAccuracy s hm.ne' (i := 0) (by rw [h.log2]; omega)]
  simpa using roundWithAccuracy_full h he hm

/-- A whole number has such a mantissa after rounding. -/
theorem round_nat (s : Sign) (hn : n ≠ 0) :
    ∃ m e, ∃ hm : 0 < m,
      UnpackedFloat.round Format.binary64 s n 0 = .finite s m e hm ∧ Full m ∧
      (n.log2 : Int) - 52 ≤ e ∧ e ≤ (n.log2 : Int) - 51 := by
  -- With 52 zeros the mantissa is not too short, so all that is done is to shorten it.
  have hzeros := (round_mul_two_pow s hn 0 52).symm
  have hne : n * 2 ^ 52 ≠ 0 := Nat.mul_ne_zero hn (by decide)
  have hlog : (n * 2 ^ 52).log2 = n.log2 + 52 := log2_mul_two_pow hn 52
  rw [round_eq_roundWithAccuracy s hne (i := 0) (by rw [hlog]; omega)] at hzeros
  simp only [Nat.pow_zero, Nat.mul_one, Nat.cast_zero, Int.sub_zero] at hzeros
  have hshift : firstShift (n * 2 ^ 52) (0 - (52 : Nat)) = n.log2 := by
    rw [firstShift, hlog]
    omega
  have hlong : 2 ^ 52 ≤ firstRounded (n * 2 ^ 52) (0 - (52 : Nat)) .exact := by
    refine le_trans ?_ (roundedMantissa_bounds _).1
    rw [mantissa_shiftRight, hshift, Nat.le_div_iff_mul_le (Nat.two_pow_pos _), Nat.mul_comm]
    exact Nat.mul_le_mul_right _ (Nat.log2_self_le hn)
  rw [hzeros, roundWithAccuracy_eq, dif_neg (by omega), hshift]
  split
  · next hlt => exact ⟨_, _, by omega, rfl, ⟨hlong, hlt⟩, by omega, by omega⟩
  · exact ⟨_, _, by decide, rfl, ⟨le_refl _, by decide⟩, by omega, by omega⟩

/-! ### Packing -/

/-- The sign that is read is the one that was written. -/
theorem unpackSign_packComponents {spec : Float.Model.Format} {exponent mantissa} :
    unpackSign (packComponents spec s exponent mantissa) = s.toBitVec := by
  ext i hi
  obtain rfl : i = 0 := by omega
  simp [unpackSign, packComponents, BitVec.getLsbD_append, BitVec.getElem_append]

/-- The leading bit of a mantissa is not written, but known. -/
theorem toNat_append_ofNat (h : Full m) : (1#1 ++ BitVec.ofNat 52 m).toNat = m := by
  obtain ⟨hle, hlt⟩ := h
  rw [BitVec.toNat_append, ← Nat.shiftLeft_add_eq_or_of_lt (BitVec.isLt _), Nat.shiftLeft_eq]
  show 1 * 2 ^ 52 + m % 2 ^ 52 = m
  omega

/-- A zero is kept with its sign. -/
theorem unpack_pack_zero : (Float.Model.pack (.zero s)).unpack = .zero s := by
  cases s <;> rfl

/-- A number with a mantissa of 53 bits is kept, unless it is too large. -/
theorem unpack_pack_full (h : Full m) (he : -1074 ≤ e) (hm : 0 < m) :
    (Float.Model.pack (.finite s m e hm)).unpack =
      if e ≤ 971 then .finite s m e hm else .infinity s := by
  show UnpackedFloat.unpack Format.binary64
    (UnpackedFloat.pack Format.binary64 (.finite s m e hm)) = _
  have hsign : Sign.ofBitVec s.toBitVec = s := by
    cases s <;> rfl
  rw [pack_finite, h.log2, if_pos rfl]
  by_cases hlarge : e ≤ 971
  · -- The exponent is written without loss, and is neither of the two with a meaning of their own.
    have hexponent : (BitVec.ofNat 11 (e + 1075).toNat).toNat = (e + 1075).toNat := by
      rw [BitVec.toNat_ofNat, Nat.mod_eq_of_lt (by omega)]
    have hzero : BitVec.ofNat 11 (e + 1075).toNat ≠ 0#11 := fun h0 => by
      rw [h0, BitVec.toNat_zero] at hexponent
      omega
    rw [if_neg (by omega), if_pos hlarge]
    unfold UnpackedFloat.unpack
    dsimp only
    rw [unpackExponent_packComponents, if_neg (ofNat_ne_neg_one (by omega)), if_neg hzero]
    simp only [unpackMantissa_packComponents, unpackSign_packComponents, hsign, hexponent]
    have hmantissa := toNat_append_ofNat h
    have hvalue : ((e + 1075).toNat : Int) - ((Format.binary64.exponentBias : Int) +
        (Format.binary64.mantissaBitsWithoutImplicit : Int)) = e := by
      show ((e + 1075).toNat : Int) - (1023 + 52) = e
      omega
    simp only [hmantissa, hvalue]
  · rw [if_pos (by omega), if_neg hlarge, packedInfinity]
    unfold UnpackedFloat.unpack
    dsimp only
    rw [unpackExponent_packComponents, if_pos rfl, unpackMantissa_packComponents,
      unpackSign_packComponents, hsign]
    rfl

/-- A number that is too large is written as infinity. -/
theorem pack_of_large (he : 971 < e) (hm : 0 < m) :
    Float.Model.pack (.finite s m e hm) = Float.Model.pack (.infinity s) := by
  simp only [Float.Model.pack, pack_finite, if_pos (show 2047 ≤ (e + 1075).toNat by omega)]
  rfl

/-! ### Whole numbers, read as numbers -/

/-- Rounding does not depend on the sign. -/
theorem round_neg : (UnpackedFloat.round Format.binary64 s m e).neg =
    UnpackedFloat.round Format.binary64 (-s) m e := by
  unfold UnpackedFloat.round
  dsimp only
  simp only [roundWithAccuracy_eq]
  split_ifs <;> rfl

/-- A natural number is rounded once, in whichever way it is read. -/
theorem toModel_ofNat (n : Nat) : (Float.ofNat n).toModel = Float.Model.ofNat n := by
  rcases Nat.eq_zero_or_pos n with rfl | hpos
  · rfl
  have hne := hpos.ne'
  have hgt : (0 : Int) < (n : Int) := by omega
  have hround : UnpackedFloat.ofNat Format.binary64 n =
      UnpackedFloat.round Format.binary64 .positive n 0 := by
    simp only [UnpackedFloat.ofNat, UnpackedFloat.ofInt, UnpackedFloat.normalize,
      Int.compare_eq_gt.mpr hgt, Int.toNat_natCast]
  show (Float.ofScientific n false 0).toModel =
    Float.Model.pack (UnpackedFloat.ofNat Format.binary64 n)
  rw [hround, Float.ofScientific]
  by_cases hsmall : n < 2 ^ 53
  · -- A short number is multiplied by a power of ten, here by one.
    obtain ⟨m, e, hm, hfinite, hfull, hlow, hhigh⟩ := round_nat .positive hne
    have hlog : n.log2 < 53 := (Nat.log2_lt hne).mpr hsmall
    have hone : (Float.exactlyRepresentablePowersOfTen[0]).toModel.unpack =
        .finite .positive (2 ^ 52) (-52) (by decide) := by
      rfl
    rw [dif_pos ⟨hsmall, by decide⟩]
    show Float.Model.pack (UnpackedFloat.mul Format.binary64
      (Float.Model.pack (UnpackedFloat.ofNat Format.binary64 n.toUInt64.toNat)).unpack
      (Float.exactlyRepresentablePowersOfTen[0]).toModel.unpack) = _
    rw [Nat.toUInt64_eq, UInt64.toNat_ofNat_of_lt' (hsmall.trans (by decide)), hround, hfinite,
      unpack_pack_full hfull (by omega), if_pos (by omega), hone]
    show Float.Model.pack (roundWithAccuracy Format.binary64 .positive (m * 2 ^ 52)
      (e - (52 : Nat)) .exact) = _
    rw [roundWithAccuracy_mul_two_pow .positive hm.ne' 52 (by rw [hfull.log2]; omega),
      roundWithAccuracy_full hfull (by omega) hm]
  · -- A long one is read with zeros appended to it.
    have hlog : 53 ≤ n.log2 := (Nat.le_log2 hne).mpr (by omega)
    rw [dif_neg (fun h => hsmall h.1)]
    show Float.Model.pack (UnpackedFloat.ofScientific Format.binary64 n 0) = _
    unfold UnpackedFloat.ofScientific
    have hexponent : ¬(0 : Int) < -((2 ^ Format.binary64.exponentBits : Int) + n.log2) := by
      show ¬(0 : Int) < -(2048 + (n.log2 : Int))
      omega
    rw [dif_neg hne, if_neg (by decide), if_neg hexponent, if_pos (le_refl _)]
    show Float.Model.pack (roundWithAccuracy Format.binary64 .positive (n <<< 53 * 1)
      (0 - (53 : Nat)) .exact) = _
    rw [round_eq_roundWithAccuracy .positive hne (i := 53) (by omega), Nat.mul_one,
      Nat.shiftLeft_eq]

/-- And so is an integer. -/
theorem toModel_ofInt (n : Int) : (Float.ofInt n).toModel = Float.Model.ofInt n := by
  cases n with
  | ofNat n => exact toModel_ofNat n
  | negSucc n =>
      obtain ⟨m, e, hm, hfinite, hfull, hlow, hhigh⟩ := round_nat .positive n.succ_ne_zero
      have hnegative : UnpackedFloat.ofInt Format.binary64 (Int.negSucc n) =
          .finite .negative m e hm := by
        have hneg := congrArg UnpackedFloat.neg hfinite
        rw [round_neg] at hneg
        simp only [UnpackedFloat.ofInt, UnpackedFloat.normalize,
          Int.compare_eq_lt.mpr (Int.negSucc_lt_zero n)]
        exact hneg
      have hpositive : UnpackedFloat.ofNat Format.binary64 n.succ = .finite .positive m e hm :=
        hfinite
      show Float.Model.pack (Float.ofNat n.succ).toModel.unpack.neg =
        Float.Model.pack (UnpackedFloat.ofInt Format.binary64 (Int.negSucc n))
      rw [toModel_ofNat, Float.Model.ofNat, hpositive, hnegative,
        unpack_pack_full hfull (by omega)]
      split
      · rfl
      · exact (pack_of_large (by omega) hm).symm

end TagScript.Decimal
