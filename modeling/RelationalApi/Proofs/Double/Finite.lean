import Mathlib

/-!
# Finite doubles

The doubles of whole numbers of 64 bits are finite.  Rounding raises an exponent by no more than the
number of bits of the mantissa, which leaves such numbers far below the exponents that overflow.
-/

namespace RelationalApi
namespace Double

open Float.Model
open Float.Model.UnpackedFloat

/-- An unpacked double that is zero, or finite with an exponent up to a bound. -/
inductive Moderate (bound : Int) : UnpackedFloat -> Prop
  | zero (sign : UnpackedFloat.Sign) : Moderate bound (.zero sign)
  | finite
      {sign : UnpackedFloat.Sign}
      {mantissa : Nat}
      {exponent : Int}
      {positive : 0 < mantissa}
      (low : exponent ≤ bound) :
      Moderate bound (.finite sign mantissa exponent positive)

theorem Moderate.mono
    {bound wider : Int}
    {value : UnpackedFloat}
    (moderate : Moderate bound value)
    (isWider : bound ≤ wider) :
    Moderate wider value := by
  cases moderate with
  | zero sign => exact .zero sign
  | finite low => exact .finite (Int.le_trans low isWider)

theorem log2_lt_of_lt {number bits : Nat} (small : number < 2 ^ bits) (hasBits : 0 < bits) :
    number.log2 < bits := by
  by_cases isZero : number = 0
  · rw [isZero, Nat.log2_zero]
    exact hasBits
  · exact (Nat.log2_lt isZero).2 small

theorem mantissa_repeat_le (count : Nat) (extended : ExtendedMantissa) :
    (Nat.repeat ExtendedMantissa.shiftRightOne count extended).mantissa ≤ extended.mantissa := by
  induction count with
  | zero => exact Nat.le_refl _
  | succ count inductionHypothesis =>
      exact Nat.le_trans (Nat.div_le_self _ _) inductionHypothesis

theorem roundedMantissa_le (extended : ExtendedMantissa) :
    extended.roundedMantissa ≤ extended.mantissa + 1 := by
  obtain ⟨mantissa, roundBit, stickyBit⟩ := extended
  cases roundBit <;> cases stickyBit <;>
    simp only [ExtendedMantissa.roundedMantissa, ExtendedMantissa.accuracy,
      Accuracy.roundToNearestEven] <;>
    omega

/-- Shifting to the target exponent does not raise the mantissa, and raises the exponent by no more
than the mantissa has bits. -/
theorem shiftToTargetExponent_le
    {mantissa bits : Nat}
    {exponent bound : Int}
    (accuracy : Accuracy)
    (small : mantissa < 2 ^ bits)
    (hasBits : 0 < bits)
    (low : exponent ≤ bound)
    (notTooLow : -1074 ≤ bound) :
    (shiftToTargetExponent Format.binary64 mantissa exponent accuracy).1.mantissa ≤ mantissa ∧
      (shiftToTargetExponent Format.binary64 mantissa exponent accuracy).2 ≤ bound + bits := by
  have log := log2_lt_of_lt small hasBits
  constructor
  · refine Nat.le_trans (mantissa_repeat_le _ _) ?_
    rcases accuracy with _ | (_ | _ | _) <;> exact Nat.le_refl _
  · simp only [shiftToTargetExponent, shiftToExponent, Format.targetExponent, totalExponent,
      Format.minExponent, Format.mantissaBits]
    omega

/-- Rounding raises an exponent by no more than the bits of the mantissa on either of its shifts. -/
theorem roundWithAccuracy_moderate
    (bound : Int)
    {sign : Sign}
    {mantissa bits : Nat}
    {exponent : Int}
    {accuracy : Accuracy}
    (small : mantissa < 2 ^ bits)
    (low : exponent ≤ bound)
    (notTooLow : -1074 ≤ bound) :
    Moderate (bound + 2 * bits + 4)
      (roundWithAccuracy Format.binary64 sign mantissa exponent accuracy) := by
  have twice : 2 ^ (bits + 1) = 2 ^ bits + 2 ^ bits := by omega
  have positive : 0 < 2 ^ bits := Nat.two_pow_pos bits
  have widened : mantissa < 2 ^ (bits + 1) := by omega
  obtain ⟨firstMantissa, firstExponent⟩ :=
    shiftToTargetExponent_le accuracy widened (by omega) low notTooLow
  rw [roundWithAccuracy]
  generalize shiftToTargetExponent Format.binary64 mantissa exponent accuracy = first at *
  obtain ⟨extended, shifted⟩ := first
  have rounded := roundedMantissa_le extended
  dsimp only at firstMantissa firstExponent
  have stillSmall : extended.roundedMantissa < 2 ^ (bits + 1) := by omega
  obtain ⟨_, secondExponent⟩ :=
    shiftToTargetExponent_le .exact stillSmall (by omega) firstExponent (by omega)
  dsimp only
  split
  · exact .zero sign
  · refine .finite (Int.le_trans secondExponent ?_)
    push_cast
    omega

/-- The mantissa of an unpacked double has 53 bits. -/
theorem unpack_mantissa_lt
    (bits : BitVec Format.binary64.numBits)
    {sign : Sign}
    {mantissa : Nat}
    {exponent : Int}
    {positive : 0 < mantissa}
    (unpacked : UnpackedFloat.unpack Format.binary64 bits =
      .finite sign mantissa exponent positive) :
    mantissa < 2 ^ 53 := by
  unfold UnpackedFloat.unpack at unpacked
  dsimp only at unpacked
  split at unpacked
  · split at unpacked <;> cases unpacked
  · split at unpacked
    · split at unpacked
      · cases unpacked
      · cases unpacked
        exact Nat.lt_trans (BitVec.isLt _) (by decide)
    · cases unpacked
      exact BitVec.isLt _

/-- A double whose exponent bits are not all set unpacks to a moderate one, with the exponent that
these bits hold. -/
theorem unpack_moderate
    {bits : BitVec Format.binary64.numBits}
    {bound : Int}
    (notAllSet : @unpackExponent Format.binary64 bits ≠ -1#_)
    (low : ((@unpackExponent Format.binary64 bits).toNat : Int) ≤ bound + 1074) :
    Moderate bound (UnpackedFloat.unpack Format.binary64 bits) := by
  unfold UnpackedFloat.unpack
  dsimp only
  rw [if_neg notAllSet]
  have bias : (Format.binary64.exponentBias : Int) = 1023 := rfl
  split
  · split
    · exact .zero _
    · refine .finite ?_
      rw [bias]
      push_cast
      omega
  · refine .finite ?_
    rw [bias]
    push_cast
    omega

/-- Packing keeps a moderate double moderate, where the bound is far below what overflows. -/
theorem unpack_pack_moderate
    (bound : Int)
    {value : UnpackedFloat}
    (moderate : Moderate bound value)
    (notTooLow : -1074 ≤ bound)
    (notTooHigh : bound ≤ 900) :
    Moderate (bound + 1)
      (UnpackedFloat.unpack Format.binary64 (UnpackedFloat.pack Format.binary64 value)) := by
  cases moderate with
  | zero sign =>
      refine unpack_moderate ?_ ?_
      · rw [UnpackedFloat.pack, packedZero, unpackExponent_packComponents]
        decide
      · rw [UnpackedFloat.pack, packedZero, unpackExponent_packComponents]
        change (0 : Int) ≤ _
        omega
  | @finite sign mantissa exponent positive low =>
      have bias : Format.binary64.exponentBias = 1023 := rfl
      have components : ∃ held : Nat, held ≤ (bound + 1075).toNat ∧
          @unpackExponent Format.binary64
            (UnpackedFloat.pack Format.binary64 (.finite sign mantissa exponent positive)) =
              BitVec.ofNat 11 held := by
        rw [UnpackedFloat.pack, bias]
        dsimp only
        rw [if_neg (by omega)]
        split
        · rw [unpackExponent_packComponents]
          exact ⟨_, by omega, rfl⟩
        · rw [unpackExponent_packComponents]
          exact ⟨0, by omega, rfl⟩
      obtain ⟨held, isHeld, exponentBits⟩ := components
      have heldBits : (BitVec.ofNat 11 held).toNat = held := by
        rw [BitVec.toNat_ofNat]
        exact Nat.mod_eq_of_lt (by omega)
      refine unpack_moderate ?_ ?_
      · rw [exponentBits]
        intro allSet
        have heldAll := congrArg BitVec.toNat allSet
        rw [heldBits] at heldAll
        have all : (-1#11 : BitVec 11).toNat = 2047 := by decide
        rw [all] at heldAll
        omega
      · rw [exponentBits, heldBits]
        omega

/-- Rounding a whole number of 64 bits gives a moderate double. -/
theorem round_moderate
    {sign : Sign}
    {number : Nat}
    (small : number < 2 ^ 64) :
    Moderate 240 (UnpackedFloat.round Format.binary64 sign number 0) := by
  have log := log2_lt_of_lt small (by omega)
  rw [UnpackedFloat.round, decreaseExponent]
  have shift : (0 - Format.binary64.targetExponent (totalExponent number 0)).toNat ≤ 53 := by
    simp only [Format.targetExponent, totalExponent, Format.minExponent, Format.mantissaBits]
    omega
  generalize (0 - Format.binary64.targetExponent (totalExponent number 0)).toNat = count at shift ⊢
  have shifted : number <<< count < 2 ^ 118 := by
    rw [Nat.shiftLeft_eq]
    calc
      number * 2 ^ count < 2 ^ 64 * 2 ^ count :=
        Nat.mul_lt_mul_of_pos_right small (Nat.two_pow_pos count)
      _ ≤ 2 ^ 64 * 2 ^ 54 :=
        Nat.mul_le_mul_left _ (Nat.pow_le_pow_right (by decide) (by omega))
      _ = 2 ^ 118 := by decide
  have low : (0 : Int) - (count : Int) ≤ 0 := by omega
  exact (roundWithAccuracy_moderate 0 shifted low (by decide)).mono (by decide)

theorem ofUInt64_moderate (number : UInt64) :
    Moderate 241 number.toFloat.toModel.unpack := by
  refine unpack_pack_moderate 240 ?_ (by omega) (by omega)
  change Moderate 240 (UnpackedFloat.normalize Format.binary64 (number.toNat : Int) 0 .positive)
  rw [UnpackedFloat.normalize]
  have small := number.toNat_lt
  split
  · rename_i negative
    rw [Int.compare_eq_lt] at negative
    omega
  · exact .zero _
  · exact round_moderate (by omega)

/-- A product of finite doubles is moderate. -/
theorem mul_finite_moderate
    (bound : Int)
    (bits : Nat)
    {leftSign rightSign : Sign}
    {left right : Nat}
    {leftExponent rightExponent : Int}
    {leftPositive : 0 < left}
    {rightPositive : 0 < right}
    (small : left * right < 2 ^ bits)
    (low : leftExponent + rightExponent ≤ bound)
    (notTooLow : -1074 ≤ bound) :
    Moderate (bound + 2 * bits + 4)
      (UnpackedFloat.mul Format.binary64
        (.finite leftSign left leftExponent leftPositive)
        (.finite rightSign right rightExponent rightPositive)) :=
  roundWithAccuracy_moderate bound small low notTooLow

/-- A product with one is moderate. -/
theorem mul_one_moderate
    {value : Float}
    (moderate : Moderate 241 value.toModel.unpack) :
    Moderate 456 (value * Float.ofBits 0x3FF0000000000000).toModel.unpack := by
  refine unpack_pack_moderate 455 ?_ (by omega) (by omega)
  have one : (Float.ofBits 0x3FF0000000000000).toModel.unpack =
      .finite .positive (2 ^ 52) (-52) (by decide) := by
    rfl
  rw [one]
  have mantissas := @unpack_mantissa_lt value.toModel.toBits.toBitVec
  change ∀ {sign mantissa exponent positive},
    value.toModel.unpack = .finite sign mantissa exponent positive -> mantissa < 2 ^ 53 at mantissas
  generalize value.toModel.unpack = unpacked at moderate mantissas ⊢
  cases moderate with
  | zero sign => exact .zero _
  | finite low =>
      have small := mantissas rfl
      exact (mul_finite_moderate 241 105 (by omega) (by omega) (by decide)).mono (by decide)

theorem ofScientific_moderate
    {number : Nat}
    (notZero : number ≠ 0)
    (small : number < 2 ^ 64) :
    Moderate 238 (UnpackedFloat.ofScientific Format.binary64 number 0) := by
  have notHuge : ¬(0 : Int) > 2 ^ Format.binary64.exponentBits := by decide
  have notTiny : ¬(0 : Int) < -(2 ^ Format.binary64.exponentBits + number.log2) := by
    change ¬(0 : Int) < -(2048 + number.log2)
    omega
  have bits : Format.binary64.mantissaBits = 53 := rfl
  have power : 10 ^ Int.toNat 0 = 1 := rfl
  have product : number <<< Format.binary64.mantissaBits * 10 ^ Int.toNat 0 < 2 ^ 117 := by
    rw [bits, power, Nat.shiftLeft_eq]
    omega
  rw [UnpackedFloat.ofScientific, dif_neg notZero, if_neg notHuge, if_neg notTiny,
    if_pos (Int.le_refl 0)]
  exact mul_finite_moderate 0 117 product (by decide) (by decide)

/-- The double of a natural number of 64 bits is moderate. -/
theorem ofNat_moderate
    {number : Nat}
    (small : number < 2 ^ 64) :
    Moderate 456 (Float.ofNat number).toModel.unpack := by
  change Moderate 456 (Float.ofScientific number false 0).toModel.unpack
  rw [Float.ofScientific]
  split
  · exact mul_one_moderate (ofUInt64_moderate number.toUInt64)
  · rename_i large
    have notZero : number ≠ 0 := by omega
    exact (unpack_pack_moderate 238 (ofScientific_moderate notZero small) (by decide)
      (by decide)).mono (by decide)

theorem neg_moderate
    {value : Float}
    {bound : Int}
    (moderate : Moderate bound value.toModel.unpack)
    (notTooLow : -1074 ≤ bound)
    (notTooHigh : bound ≤ 900) :
    Moderate (bound + 1) (Float.neg value).toModel.unpack := by
  refine unpack_pack_moderate bound ?_ notTooLow notTooHigh
  generalize value.toModel.unpack = unpacked at moderate ⊢
  cases moderate with
  | zero sign => exact .zero _
  | finite low => exact .finite low

theorem isFinite_of_moderate
    {value : Float}
    {bound : Int}
    (moderate : Moderate bound value.toModel.unpack) :
    value.isFinite = true := by
  change value.toModel.unpack.isFinite = true
  generalize value.toModel.unpack = unpacked at moderate ⊢
  cases moderate <;> rfl

/-- The double of a whole number of 64 bits, signed or not, is finite. -/
theorem isFinite_ofInt
    {number : Int}
    (notTooSmall : -2 ^ 63 ≤ number)
    (notTooLarge : number < 2 ^ 64) :
    (Float.ofInt number).isFinite = true := by
  cases number with
  | ofNat number =>
      have small : number < 2 ^ 64 := by
        change (number : Int) < 2 ^ 64 at notTooLarge
        omega
      exact isFinite_of_moderate (ofNat_moderate small)
  | negSucc number =>
      have small : number.succ < 2 ^ 64 := by omega
      exact isFinite_of_moderate (neg_moderate (ofNat_moderate small) (by decide) (by decide))

/-- A finite double is a number and not infinite. -/
theorem not_isNaN_isInf_of_isFinite
    {value : Float}
    (finite : value.isFinite = true) :
    value.isNaN = false ∧ value.isInf = false := by
  change value.toModel.unpack.isFinite = true at finite
  change value.toModel.unpack.isNaN = false ∧ value.toModel.unpack.isInf = false
  cases shape : value.toModel.unpack <;> rw [shape] at finite <;>
    first
      | exact ⟨rfl, rfl⟩
      | cases finite

end Double
end RelationalApi
