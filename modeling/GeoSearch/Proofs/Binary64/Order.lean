import GeoSearch.Proofs.Decimal.Rounding
import GeoSearch.Proofs.Document.Order
/-!
The order of finite binary64 numbers is that of their values.
-/
namespace GeoSearch.Binary64

open Float.Model (UnpackedFloat)
open Float.Model.UnpackedFloat (Sign)

variable {x y : Float}

/-! ### Unpacked numbers -/

def sign (x : Float) : Sign := if negative x then .negative else .positive

theorem ofBitVec_eq (b : BitVec 1) :
    Sign.ofBitVec b = if b.toNat == 1 then .negative else .positive := by
  obtain rfl | rfl : b = 0#1 ∨ b = 1#1 := by
    revert b
    decide
  · rfl
  · rfl

theorem unpackSign_eq (x : Float) :
    Sign.ofBitVec (@UnpackedFloat.unpackSign .binary64 x.toModel.toBits.toBitVec) = sign x := by
  have bit : (@UnpackedFloat.unpackSign .binary64 x.toModel.toBits.toBitVec).toNat =
      x.toBits.toNat / 2 ^ 63 := by
    have bits := x.toBits.toNat_lt
    simp only [Float.toBits] at bits
    simp [UnpackedFloat.unpackSign, BitVec.extractLsb_toNat, Nat.shiftRight_eq_div_pow, Float.toBits]
    omega
  rw [ofBitVec_eq, bit, sign, negative_eq]

/-- A finite number is a zero, or its significand at its scale. -/
theorem unpack_finite (finite : x.isFinite = true) :
    (significand x = 0 ∧ x.toModel.unpack = .zero (sign x)) ∨
      ∃ positive, x.toModel.unpack = .finite (sign x) (significand x) (scale x) positive := by
  have known : x.toModel.unpack.isFinite = true := finite
  have exponent := unpackExponent_eq x
  have fraction := unpackMantissa_eq x
  have sign := unpackSign_eq x
  unfold Float.Model.unpack UnpackedFloat.unpack at known ⊢
  dsimp only at known ⊢
  rw [sign] at known ⊢
  split at known
  · split at known <;> cases known
  · next inner =>
    rw [if_neg inner]
    split
    · next least =>
      have zero : exponentField x = 0 := by
        rw [← exponent, least]
        rfl
      split
      · next none =>
        refine .inl ⟨?_, rfl⟩
        rw [significand, if_pos zero, ← fraction, none]
        rfl
      · next some =>
        have significand : significand x = fractionField x := if_pos zero
        have scale : scale x = -1074 := if_pos zero
        have positive : 0 < fractionField x := by
          rw [← fraction]
          exact Nat.pos_of_ne_zero fun zero => some (BitVec.eq_of_toNat_eq zero)
        simp only [fraction, exponent, zero, significand, scale]
        exact .inr ⟨positive, rfl⟩
    · next normal =>
      have nonzero : exponentField x ≠ 0 := by
        intro zero
        exact normal (BitVec.eq_of_toNat_eq (exponent.trans zero))
      have significand : significand x = 0x10000000000000 + fractionField x := if_neg nonzero
      have scale : scale x = exponentField x - 1075 := if_neg nonzero
      have joined : (1#1 ++ @UnpackedFloat.unpackMantissa .binary64 x.toModel.toBits.toBitVec).toNat =
          0x10000000000000 + fractionField x := by
        rw [BitVec.toNat_append, ← Nat.shiftLeft_add_eq_or_of_lt (BitVec.isLt _), fraction]
        rfl
      simp only [joined, exponent, significand, scale]
      exact .inr ⟨by omega, rfl⟩

/-! ### Magnitudes -/

theorem magnitude_eq (x : Float) : magnitude x = significand x * (2 : Rat) ^ scale x := by
  rw [magnitude, twoPow_eq]

theorem magnitude_nonneg (x : Float) : 0 ≤ magnitude x := by
  rw [magnitude_eq]
  positivity

theorem magnitude_pos (nonzero : 0 < significand x) : 0 < magnitude x := by
  rw [magnitude_eq]
  have : (0 : Rat) < significand x := Nat.cast_pos.mpr nonzero
  positivity

theorem magnitude_zero (zero : significand x = 0) : magnitude x = 0 := by
  rw [magnitude_eq, zero, Nat.cast_zero, zero_mul]

theorem significand_lt (x : Float) : significand x < 2 ^ 53 := by
  have := fractionField_lt x
  unfold significand
  split <;> omega

/-- A number at a greater scale has the greater magnitude. -/
theorem magnitude_lt_of_scale (less : scale x < scale y) : magnitude x < magnitude y := by
  have normal : 2 ^ 52 ≤ significand y := by
    have nonzero : exponentField y ≠ 0 := by
      intro zero
      unfold scale at less
      rw [if_pos zero] at less
      split at less <;> omega
    rw [significand, if_neg nonzero]
    omega
  have small : (significand x : Rat) < 2 ^ 53 := by exact_mod_cast significand_lt x
  have large : (2 : Rat) ^ 52 ≤ significand y := by exact_mod_cast normal
  have step : (2 : Rat) ^ (scale x + 1) ≤ 2 ^ scale y := zpow_le_zpow_right₀ (by norm_num) less
  have unit : (0 : Rat) < 2 ^ scale x := zpow_pos (by norm_num) _
  rw [magnitude_eq, magnitude_eq]
  calc (significand x : Rat) * 2 ^ scale x < 2 ^ 53 * 2 ^ scale x := mul_lt_mul_of_pos_right small unit
    _ = 2 ^ 52 * 2 ^ (scale x + 1) := by
      rw [zpow_add_one₀ (by norm_num)]
      ring
    _ ≤ significand y * 2 ^ scale y := by gcongr

theorem compare_magnitude (x y : Float) :
    (compare (scale x) (scale y)).then (compare (significand x) (significand y)) =
      compare (magnitude x) (magnitude y) := by
  rcases lt_trichotomy (scale x) (scale y) with less | same | greater
  · rw [compare_lt_iff_lt.mpr less, compare_lt_iff_lt.mpr (magnitude_lt_of_scale less)]
    rfl
  · have unit : (0 : Rat) < 2 ^ scale y := zpow_pos (by norm_num) _
    rw [compare_eq_iff_eq.mpr same, magnitude_eq, magnitude_eq, same]
    rcases lt_trichotomy (significand x) (significand y) with less | same | greater
    · rw [compare_lt_iff_lt.mpr less,
        compare_lt_iff_lt.mpr (mul_lt_mul_of_pos_right (Nat.cast_lt.mpr less) unit)]
      rfl
    · rw [same, compare_eq_iff_eq.mpr rfl, compare_eq_iff_eq.mpr rfl]
      rfl
    · rw [compare_gt_iff_gt.mpr greater,
        compare_gt_iff_gt.mpr (mul_lt_mul_of_pos_right (Nat.cast_lt.mpr greater) unit)]
      rfl
  · rw [compare_gt_iff_gt.mpr greater, compare_gt_iff_gt.mpr (magnitude_lt_of_scale greater)]
    rfl

/-! ### Values -/

theorem value_eq (x : Float) :
    value x = match sign x with
      | .positive => magnitude x
      | .negative => -magnitude x := by
  unfold value sign
  split <;> rfl

theorem abs_value (x : Float) : |value x| = magnitude x := by
  unfold value
  split
  · rw [abs_neg, abs_of_nonneg (magnitude_nonneg x)]
  · rw [abs_of_nonneg (magnitude_nonneg x)]

theorem compare_neg (a b : Rat) : compare (-a) (-b) = (compare a b).swap := by
  rcases lt_trichotomy a b with less | same | greater
  · rw [compare_lt_iff_lt.mpr less, compare_gt_iff_gt.mpr (neg_lt_neg less)]
    rfl
  · rw [same, compare_eq_iff_eq.mpr rfl, compare_eq_iff_eq.mpr rfl]
    rfl
  · rw [compare_gt_iff_gt.mpr greater, compare_lt_iff_lt.mpr (neg_lt_neg greater)]
    rfl

/-- Finite numbers compare as their values do. -/
theorem compare_eq (left : x.isFinite = true) (right : y.isFinite = true) :
    x.toModel.unpack.compare y.toModel.unpack = some (compare (value x) (value y)) := by
  have magnitudes := compare_magnitude x y
  rw [value_eq, value_eq]
  rcases unpack_finite left with ⟨zero, first⟩ | ⟨positive, first⟩ <;>
    rcases unpack_finite right with ⟨zero', second⟩ | ⟨positive', second⟩ <;>
    rw [first, second]
  · rw [magnitude_zero zero, magnitude_zero zero']
    cases sign x <;> cases sign y <;> simp [UnpackedFloat.compare]
  · have above := magnitude_pos positive'
    have below : -magnitude y < 0 := neg_neg_of_pos above
    rw [magnitude_zero zero]
    cases sign x <;> cases sign y <;>
      simp [UnpackedFloat.compare, compare_lt_iff_lt.mpr above, compare_gt_iff_gt.mpr below]
  · have above := magnitude_pos positive
    have below : -magnitude x < 0 := neg_neg_of_pos above
    rw [magnitude_zero zero']
    cases sign x <;> cases sign y <;>
      simp [UnpackedFloat.compare, compare_gt_iff_gt.mpr above, compare_lt_iff_lt.mpr below]
  · have above := magnitude_pos positive
    have above' := magnitude_pos positive'
    have apart : -magnitude x < magnitude y := by linarith
    have apart' : -magnitude y < magnitude x := by linarith
    cases sign x <;> cases sign y
    · rw [UnpackedFloat.compare, compare_neg, magnitudes]
    · rw [UnpackedFloat.compare, compare_lt_iff_lt.mpr apart]
    · rw [UnpackedFloat.compare, compare_gt_iff_gt.mpr apart']
    · rw [UnpackedFloat.compare, magnitudes]

section

variable (left : x.isFinite = true) (right : y.isFinite = true)

include left right

theorem lt_iff : x < y ↔ value x < value y := by
  have model : x < y ↔ (x.toModel.unpack.compare y.toModel.unpack == some .lt) = true :=
    decide_eq_true_iff
  rw [model, compare_eq left right, beq_iff_eq, Option.some.injEq, compare_lt_iff_lt]

theorem le_iff : x ≤ y ↔ value x ≤ value y := by
  have model : x ≤ y ↔ (x.toModel.unpack.compare y.toModel.unpack).any (·.isLE) = true :=
    decide_eq_true_iff
  rw [model, compare_eq left right, Option.any_some, ← compare_le_iff_le]
  exact Ordering.isLE_iff_ne_gt

theorem beq_iff : (x == y) = true ↔ value x = value y := by
  have model : (x == y) = (x.toModel.unpack.compare y.toModel.unpack == some .eq) := rfl
  rw [model, compare_eq left right, beq_iff_eq, Option.some.injEq, compare_eq_iff_eq]

end

/-! ### The lesser and the greater number -/

theorem isNaN_of_finite (finite : x.isFinite = true) : x.isNaN = false := by
  have model : x.isNaN = x.toModel.unpack.isNaN := rfl
  rw [model]
  rcases unpack_finite finite with ⟨-, unpacked⟩ | ⟨_, unpacked⟩ <;> rw [unpacked] <;> rfl

theorem least_of_numbers (left : x.isNaN = false) (right : y.isNaN = false) :
    least x y = if y < x then y else x := by
  rw [least, left, right]
  rfl

theorem greatest_of_numbers (left : x.isNaN = false) (right : y.isNaN = false) :
    greatest x y = if x < y then y else x := by
  rw [greatest, left, right]
  rfl

section

variable (left : x.isFinite = true) (right : y.isFinite = true)

include left right

theorem least_eq : least x y = if y < x then y else x :=
  least_of_numbers (isNaN_of_finite left) (isNaN_of_finite right)

theorem greatest_eq : greatest x y = if x < y then y else x :=
  greatest_of_numbers (isNaN_of_finite left) (isNaN_of_finite right)

theorem finite_least : (least x y).isFinite = true := by
  rw [least_eq left right]
  split
  · exact right
  · exact left

theorem finite_greatest : (greatest x y).isFinite = true := by
  rw [greatest_eq left right]
  split
  · exact right
  · exact left

theorem value_least : value (least x y) = min (value x) (value y) := by
  rw [least_eq left right]
  split
  · next less => exact (min_eq_right ((lt_iff right left).mp less).le).symm
  · next other => exact (min_eq_left (not_lt.mp (mt (lt_iff right left).mpr other))).symm

theorem value_greatest : value (greatest x y) = max (value x) (value y) := by
  rw [greatest_eq left right]
  split
  · next less => exact (max_eq_right ((lt_iff left right).mp less).le).symm
  · next other => exact (max_eq_left (not_lt.mp (mt (lt_iff left right).mpr other))).symm

end

/-- What lies between finite numbers is finite. -/
theorem finite_of_between {low high : Float} (left : low.isFinite = true) (right : high.isFinite = true)
    (above : low ≤ x) (below : x ≤ high) : x.isFinite = true := by
  have above : (low.toModel.unpack.compare x.toModel.unpack).any (·.isLE) = true :=
    of_decide_eq_true above
  have below : (x.toModel.unpack.compare high.toModel.unpack).any (·.isLE) = true :=
    of_decide_eq_true below
  change x.toModel.unpack.isFinite = true
  cases number : x.toModel.unpack with
  | zero => rfl
  | finite => rfl
  | notANumber =>
    rw [number] at below
    cases below
  | infinity direction =>
    rw [number] at above below
    cases direction with
    | positive =>
      rcases unpack_finite right with ⟨-, unpacked⟩ | ⟨_, unpacked⟩ <;> rw [unpacked] at below <;>
        cases below
    | negative =>
      rcases unpack_finite left with ⟨-, unpacked⟩ | ⟨_, unpacked⟩ <;> rw [unpacked] at above <;>
        cases above

end GeoSearch.Binary64
