import GeoSearch.Decimal.Shortest
import Mathlib
/-!
The fields of a binary64 number, which together determine it, and the reals that round to it. Those that
round to different magnitudes are different: where two intervals meet, one of them does not hold its end.
-/
namespace GeoSearch

namespace Binary64

/-! ### Fields -/

section

open Float.Model (UnpackedFloat Format)

variable {x y : Float}

theorem exponentField_eq (x : Float) :
    exponentField x = x.toBits.toNat / 2 ^ 52 % 2 ^ 11 := by
  have mask (n : Nat) : n &&& 0x7FF = n % 2 ^ 11 := Nat.and_two_pow_sub_one_eq_mod n 11
  simp [exponentField, mask, Nat.shiftRight_eq_div_pow]

theorem fractionField_eq (x : Float) : fractionField x = x.toBits.toNat % 2 ^ 52 := by
  have mask (n : Nat) : n &&& 0xFFFFFFFFFFFFF = n % 2 ^ 52 := Nat.and_two_pow_sub_one_eq_mod n 52
  simp [fractionField, mask]

theorem negative_eq (x : Float) : negative x = (x.toBits.toNat / 2 ^ 63 == 1) := by
  rw [negative, Bool.eq_iff_iff, beq_iff_eq, beq_iff_eq, ← UInt64.toNat_inj]
  simp [Nat.shiftRight_eq_div_pow]

theorem fractionField_lt (x : Float) : fractionField x < 2 ^ 52 := by
  rw [fractionField_eq]
  exact Nat.mod_lt _ (by decide)

theorem eq_of_toBits (same : x.toBits = y.toBits) : x = y := by
  obtain ⟨⟨bits, valid⟩⟩ := x
  obtain ⟨⟨others, valid'⟩⟩ := y
  obtain rfl : bits = others := same
  rfl

theorem eq_of_fields (sign : negative x = negative y) (exponent : exponentField x = exponentField y)
    (fraction : fractionField x = fractionField y) : x = y := by
  rw [exponentField_eq, exponentField_eq] at exponent
  rw [fractionField_eq, fractionField_eq] at fraction
  rw [negative_eq, negative_eq, Bool.eq_iff_iff, beq_iff_eq, beq_iff_eq] at sign
  have left := x.toBits.toNat_lt
  have right := y.toBits.toNat_lt
  refine eq_of_toBits (UInt64.toNat_inj.mp ?_)
  omega

theorem compare_zero_iff (u : UnpackedFloat) :
    u.compare (.zero .positive) = some .eq ↔ ∃ sign, u = .zero sign := by
  rcases u with ⟨_ | _⟩ | _ | sign | ⟨_ | _, m, e, _⟩ <;> simp [UnpackedFloat.compare]

theorem unpackExponent_eq (x : Float) :
    (@UnpackedFloat.unpackExponent .binary64 x.toModel.toBits.toBitVec).toNat =
      exponentField x := by
  rw [exponentField_eq]
  simp [UnpackedFloat.unpackExponent, BitVec.extractLsb_toNat, Nat.shiftRight_eq_div_pow, Float.toBits]

theorem unpackMantissa_eq (x : Float) :
    (@UnpackedFloat.unpackMantissa .binary64 x.toModel.toBits.toBitVec).toNat =
      fractionField x := by
  rw [fractionField_eq]
  simp [UnpackedFloat.unpackMantissa, BitVec.extractLsb_toNat, Float.toBits]

theorem beq_zero_iff (x : Float) :
    (x == 0.0) = true ↔ exponentField x = 0 ∧ fractionField x = 0 := by
  have model : (x == 0.0) = (x.toModel.unpack.compare (.zero .positive) == some .eq) := rfl
  rw [model, beq_iff_eq, compare_zero_iff, ← unpackExponent_eq, ← unpackMantissa_eq]
  unfold Float.Model.unpack UnpackedFloat.unpack
  dsimp only
  split
  · next greatest =>
    -- An infinity or no number at all.
    rw [greatest]
    split <;> simp
  · split
    · next least =>
      split
      · next zero => simp [least, zero]
      · next nonzero =>
        have fraction : (@UnpackedFloat.unpackMantissa .binary64 x.toModel.toBits.toBitVec).toNat ≠ 0 :=
          fun zero => nonzero (BitVec.eq_of_toNat_eq zero)
        simp [fraction]
    · next nonzero =>
      have exponent : (@UnpackedFloat.unpackExponent .binary64 x.toModel.toBits.toBitVec).toNat ≠ 0 :=
        fun zero => nonzero (BitVec.eq_of_toNat_eq zero)
      simp [exponent]

end

/-! ### Units -/

theorem pow_or_fraction (base : Nat) (e : Int) :
    (if 0 ≤ e then (Nat.pow base e.toNat : Rat) else mkRat 1 (Nat.pow base (-e).toNat)) =
      (base : Rat) ^ e := by
  split
  · next up =>
    obtain ⟨n, rfl⟩ := Int.eq_ofNat_of_zero_le up
    simp
  · next down =>
    obtain ⟨n, rfl⟩ : ∃ n : Nat, e = -n := ⟨(-e).toNat, by omega⟩
    simp [Rat.mkRat_eq_div]

theorem twoPow_eq (e : Int) : twoPow e = (2 : Rat) ^ e := pow_or_fraction 2 e

theorem tenPow_eq (e : Int) : tenPow e = (10 : Rat) ^ e := pow_or_fraction 10 e

def doublings (x : Float) : Nat := exponentField x - 1

theorem scale_eq (x : Float) : scale x = doublings x - 1074 := by
  unfold scale doublings
  split <;> omega

end Binary64

/-! ### Intervals -/

namespace Decimal

open Binary64

variable {x y : Float}

/-- The lower end of the interval, in quarters of the least unit. -/
def lowerEnd (x : Float) : Nat :=
  (4 * significand x - if fractionField x = 0 ∧ 1 < exponentField x then 1 else 2) * 2 ^ doublings x

def upperEnd (x : Float) : Nat := (4 * significand x + 2) * 2 ^ doublings x

def quarter : Rat := twoPow (-1076)

theorem quarter_pos : 0 < quarter := by
  rw [quarter, twoPow_eq]
  exact zpow_pos (by norm_num) _

theorem unit_eq (x : Float) : twoPow (scale x - 2) = (2 ^ doublings x : Nat) * quarter := by
  rw [quarter, twoPow_eq, twoPow_eq, scale_eq, Nat.cast_pow, ← zpow_natCast, Nat.cast_ofNat,
    ← zpow_add₀ (by norm_num)]
  congr 1
  omega

theorem lower_eq (x : Float) : (roundingInterval x).lower = lowerEnd x * quarter := by
  rw [roundingInterval, unit_eq, lowerEnd, Nat.cast_mul, mul_assoc]

theorem upper_eq (x : Float) : (roundingInterval x).upper = upperEnd x * quarter := by
  rw [roundingInterval, unit_eq, upperEnd, Nat.cast_mul, mul_assoc]

/-- The interval of a number ends where that of the next one starts, or before. Where they meet, one
of the two significands is odd. -/
theorem ends_apart (less : exponentField x < exponentField y ∨
      exponentField x = exponentField y ∧ fractionField x < fractionField y) :
    upperEnd x < lowerEnd y ∨
      upperEnd x = lowerEnd y ∧ ¬ (significand x % 2 = 0 ∧ significand y % 2 = 0) := by
  have left := fractionField_lt x
  have right := fractionField_lt y
  obtain ⟨more, further⟩ : ∃ more, doublings y = doublings x + more :=
    Nat.exists_eq_add_of_le (by unfold doublings; omega)
  have unit : 0 < 2 ^ doublings x := Nat.two_pow_pos _
  -- Both ends are compared in the unit of the smaller number.
  have scaled (n : Nat) : n * 2 ^ doublings y = n * 2 ^ more * 2 ^ doublings x := by
    rw [further, Nat.pow_add, Nat.mul_comm (2 ^ doublings x), ← Nat.mul_assoc]
  rw [upperEnd, lowerEnd, scaled, Nat.mul_lt_mul_right unit, Nat.mul_left_inj (Nat.ne_of_gt unit)]
  unfold doublings at further
  unfold significand
  rcases less with less | ⟨same, less⟩
  · have normal : exponentField y ≠ 0 := by omega
    rw [if_neg normal]
    match more with
    | 0 => split <;> split <;> omega
    | 1 => split <;> split <;> omega
    | more + 2 =>
      -- The greater number is at least twice as large.
      have four : 4 ≤ 2 ^ (more + 2) := by
        rw [Nat.pow_add]
        exact Nat.le_mul_of_pos_left 4 (Nat.two_pow_pos more)
      refine .inl (Nat.lt_of_lt_of_le ?_ (Nat.mul_le_mul_left _ four))
      split <;> split <;> omega
  · obtain rfl : more = 0 := by omega
    rw [same, Nat.pow_zero, Nat.mul_one]
    split <;> split <;> omega

theorem Interval.contains_iff (interval : Interval) (r : Rat) :
    interval.contains r = true ↔ interval.lower ≤ r ∧ r ≤ interval.upper ∧
      (interval.closed = false → interval.lower < r ∧ r < interval.upper) := by
  unfold contains
  cases interval.closed with
  | true => simp
  | false =>
    simp only [Bool.false_eq_true, if_false, Bool.and_eq_true, decide_eq_true_eq, forall_const]
    exact ⟨fun inside => ⟨inside.1.le, inside.2.le, inside⟩, fun inside => inside.2.2⟩

theorem closed_eq (x : Float) : (roundingInterval x).closed = decide (significand x % 2 = 0) := rfl

theorem not_contains_of_less (less : exponentField x < exponentField y ∨
      exponentField x = exponentField y ∧ fractionField x < fractionField y) {r : Rat}
    (left : (roundingInterval x).contains r = true) : (roundingInterval y).contains r = false := by
  rw [Bool.eq_false_iff]
  intro right
  obtain ⟨-, below, strictBelow⟩ := (Interval.contains_iff _ r).mp left
  obtain ⟨above, -, strictAbove⟩ := (Interval.contains_iff _ r).mp right
  rw [closed_eq] at strictBelow strictAbove
  rw [upper_eq] at below strictBelow
  rw [lower_eq] at above strictAbove
  rcases ends_apart less with apart | ⟨meet, odd⟩
  · have gap : (upperEnd x : Rat) * quarter < lowerEnd y * quarter :=
      mul_lt_mul_of_pos_right (Nat.cast_lt.mpr apart) quarter_pos
    exact absurd (lt_of_le_of_lt below gap) (not_lt.mpr above)
  · rw [meet] at below strictBelow
    by_cases even : significand x % 2 = 0
    · have strict := (strictAbove (by simpa using fun other => odd ⟨even, other⟩)).1
      exact absurd below (not_le.mpr strict)
    · have strict := (strictBelow (by simpa using even)).2
      exact absurd above (not_le.mpr strict)

/-- A number that rounds to two numbers shows that they have the same magnitude. -/
theorem fields_eq_of_contains {r : Rat} (left : (roundingInterval x).contains r = true)
    (right : (roundingInterval y).contains r = true) :
    exponentField x = exponentField y ∧ fractionField x = fractionField y := by
  have before := fun less => (not_contains_of_less (x := x) (y := y) less left).symm.trans right
  have after := fun less => (not_contains_of_less (x := y) (y := x) less right).symm.trans left
  simp only [Bool.false_eq_true, imp_false, not_or, not_and, Nat.not_lt] at before after
  omega

end Decimal

end GeoSearch
