import GeoSearch.Proofs.Decimal.Rounding
/-!
The shortest decimal of a number rounds to it.
-/
namespace GeoSearch.Decimal

open Binary64

theorem nearestOnGrid?_contains {tie : Tie} {interval : Interval} {r : Rat} {exponent : Int}
    {d : Decimal} (found : nearestOnGrid? tie interval r exponent = some d) :
    interval.contains d.value = true := by
  unfold nearestOnGrid? at found
  dsimp only at found
  split at found
  · cases found
  · next low _ =>
    cases found
    exact low
  · next high =>
    cases found
    exact high
  · next low high =>
    split at found
    · cases found; exact low
    · split at found
      · cases found; exact high
      · split at found <;> cases found
        · exact low
        · exact high

theorem value_eq (d : Decimal) : d.value = d.coefficient * (10 : Rat) ^ d.exponent := by
  rw [value, tenPow_eq]

theorem stripGo_value (fuel coefficient : Nat) (exponent : Int) :
    (strip.go fuel coefficient exponent).value = value ⟨coefficient, exponent⟩ := by
  induction fuel generalizing coefficient exponent with
  | zero => rfl
  | succ fuel ih =>
    rw [strip.go]
    split
    · next whole =>
      have tens : coefficient = 10 * (coefficient / 10) := by omega
      rw [ih, value_eq, value_eq, zpow_add_one₀ (by norm_num)]
      conv_rhs => rw [tens]
      push_cast
      ring
    · rfl

/-- Zeros at the end of the coefficient do not count. -/
theorem strip_value (d : Decimal) : d.strip.value = d.value := by
  unfold strip
  split
  · next none => simp [value, none]
  · exact stripGo_value ..

theorem magnitude_eq (x : Float) :
    magnitude x = ((4 * significand x) * 2 ^ doublings x : Nat) * quarter := by
  have unit : twoPow (scale x) = 4 * twoPow (scale x - 2) := by
    rw [twoPow_eq, twoPow_eq, zpow_sub₀ (by norm_num)]
    ring
  rw [magnitude, unit, unit_eq]
  push_cast
  ring

/-- A number lies in its own interval. -/
theorem magnitude_contains {x : Float} (positive : 0 < significand x) :
    (roundingInterval x).contains (magnitude x) = true := by
  have unit : 0 < 2 ^ doublings x := Nat.two_pow_pos _
  have below : lowerEnd x < 4 * significand x * 2 ^ doublings x := by
    rw [lowerEnd, Nat.mul_lt_mul_right unit]
    split <;> omega
  have above : 4 * significand x * 2 ^ doublings x < upperEnd x := by
    rw [upperEnd, Nat.mul_lt_mul_right unit]
    omega
  have lower : (roundingInterval x).lower < magnitude x := by
    rw [lower_eq, magnitude_eq]
    exact mul_lt_mul_of_pos_right (Nat.cast_lt.mpr below) quarter_pos
  have upper : magnitude x < (roundingInterval x).upper := by
    rw [upper_eq, magnitude_eq]
    exact mul_lt_mul_of_pos_right (Nat.cast_lt.mpr above) quarter_pos
  exact (Interval.contains_iff _ _).mpr ⟨lower.le, upper.le, fun _ => ⟨lower, upper⟩⟩

/-- What is whole after some doublings is whole after as many steps of ten. -/
theorem value_floor {r : Rat} {m n : Nat} (doubled : r * 2 ^ n = m) :
    value ⟨(r * tenPow n).floor.toNat, -n⟩ = r := by
  have tens : r * tenPow n = (m * 5 ^ n : Nat) := by
    rw [tenPow_eq, zpow_natCast, show (10 : Rat) = 2 * 5 by norm_num, mul_pow, ← mul_assoc, doubled]
    push_cast
    rfl
  have floor : (r * tenPow n).floor.toNat = m * 5 ^ n := by
    rw [tens, ← Int.cast_natCast, Rat.floor_intCast, Int.toNat_natCast]
  rw [value_eq, floor, ← tens, tenPow_eq, mul_assoc, ← zpow_add₀ (by norm_num)]
  simp

theorem magnitude_doubled (x : Float) :
    magnitude x * 2 ^ 1074 = (significand x * 2 ^ doublings x : Nat) := by
  generalize depth : (1074 : Nat) = n
  have scale : scale x = doublings x - n := by rw [scale_eq, ← depth]; rfl
  rw [magnitude, twoPow_eq, scale, zpow_sub₀ (by norm_num), zpow_natCast, zpow_natCast, mul_assoc,
    div_mul_cancel₀ _ (by positivity)]
  push_cast
  rfl

theorem shortest_contains (tie : Tie) {x : Float} (positive : 0 < significand x) :
    (roundingInterval x).contains (shortest tie x).value = true := by
  unfold shortest
  dsimp only
  split
  · next d hit =>
    obtain ⟨n, -, found⟩ := List.exists_of_findSome?_eq_some hit
    rw [strip_value]
    exact nearestOnGrid?_contains found
  · have whole : value ⟨(magnitude x * tenPow 1074).floor.toNat, -1074⟩ = magnitude x :=
      value_floor (magnitude_doubled x)
    rw [whole]
    exact magnitude_contains positive

end GeoSearch.Decimal
