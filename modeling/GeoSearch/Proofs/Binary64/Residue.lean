import GeoSearch.Proofs.Binary64.Rounding
/-!
The two bits that rounding keeps of what a significand loses, and the integer that they round to: it is
the nearest one, with a half going to the even neighbour.
-/
namespace GeoSearch.Binary64

open Float.Model.UnpackedFloat (Accuracy ExtendedMantissa accuracyOfFraction)

variable {em : ExtendedMantissa} {r t : Rat}

/-! ### Integers nearest to a rational -/

theorem half_eq : mkRat 1 2 = (1 / 2 : Rat) := by decide +kernel

/-- A floor by its bounds. -/
theorem floor_eq {n : Int} (below : (n : Rat) ≤ t) (above : t < n + 1) : t.floor = n := by
  apply le_antisymm
  · rw [← Int.lt_add_one_iff, Rat.floor_lt_iff]
    exact_mod_cast above
  · rwa [Rat.le_floor_iff]

/-- The nearest integer lies within a half. -/
theorem roundHalfEven_spec (t : Rat) : |roundHalfEven t - t| ≤ 1 / 2 := by
  have low := Rat.floor_le t
  have high := Rat.lt_floor_add_one t
  push_cast at high
  unfold roundHalfEven
  rw [half_eq]
  dsimp only
  split_ifs <;> rw [abs_le] <;> push_cast <;> constructor <;> linarith

theorem floor_le_roundHalfEven (t : Rat) :
    t.floor ≤ roundHalfEven t ∧ roundHalfEven t ≤ t.floor + 1 := by
  unfold roundHalfEven
  dsimp only
  split_ifs <;> omega

theorem roundHalfEven_mono (order : r ≤ t) : roundHalfEven r ≤ roundHalfEven t := by
  have floors : r.floor ≤ t.floor := Rat.le_floor_iff.mpr ((Rat.floor_le r).trans order)
  rcases floors.lt_or_eq with less | same
  · have first := floor_le_roundHalfEven r
    have second := floor_le_roundHalfEven t
    omega
  · unfold roundHalfEven
    rw [same, half_eq]
    dsimp only
    split_ifs <;> first | omega | (exfalso; linarith)

/-! ### Extended significands -/

def Stands (em : ExtendedMantissa) (t : Rat) : Prop :=
  match em.roundBit, em.stickyBit with
  | false, false => t = em.mantissa
  | false, true => em.mantissa < t ∧ t < em.mantissa + 1 / 2
  | true, false => t = em.mantissa + 1 / 2
  | true, true => em.mantissa + 1 / 2 < t ∧ t < em.mantissa + 1

theorem stands_exact (m : Nat) : Stands (.ofMantissaAndAccuracy m .exact) m := rfl

/-- A quotient of integers, with what is left of the division. -/
theorem stands_fraction {n d : Nat} (some : 0 < d) :
    Stands (.ofMantissaAndAccuracy (n / d) (accuracyOfFraction (n % d) d)) (n / d) := by
  have divisor : (0 : Rat) < d := Nat.cast_pos.mpr some
  have division : (n : Rat) / d = (n / d : Nat) + (n % d : Nat) / d := by
    rw [div_eq_iff divisor.ne', add_mul, div_mul_cancel₀ _ divisor.ne']
    exact_mod_cast (Nat.div_add_mod' n d).symm
  have small : ((n % d : Nat) : Rat) / d < 1 :=
    (div_lt_one divisor).mpr (Nat.cast_lt.mpr (Nat.mod_lt n some))
  rw [division]
  generalize n / d = quotient
  generalize n % d = left at small ⊢
  rcases Nat.eq_zero_or_pos left with rfl | rest
  · rw [accuracyOfFraction, if_pos rfl, Nat.cast_zero, zero_div, add_zero]
    rfl
  have above : (0 : Rat) < left / d := div_pos (Nat.cast_pos.mpr rest) divisor
  rw [accuracyOfFraction, if_neg rest.ne']
  rcases lt_trichotomy (2 * left) d with less | same | more
  · have half : (left : Rat) / d < 1 / 2 := by
      rw [div_lt_div_iff₀ divisor (by norm_num)]
      exact_mod_cast (by omega : left * 2 < 1 * d)
    rw [compare_lt_iff_lt.mpr less]
    exact ⟨lt_add_of_pos_right _ above, add_lt_add_right half _⟩
  · have half : (left : Rat) / d = 1 / 2 := by
      rw [div_eq_div_iff divisor.ne' (by norm_num)]
      exact_mod_cast (by omega : left * 2 = 1 * d)
    rw [compare_eq_iff_eq.mpr same]
    exact congrArg (_ + ·) half
  · have half : (1 : Rat) / 2 < left / d := by
      rw [div_lt_div_iff₀ (by norm_num) divisor]
      exact_mod_cast (by omega : 1 * d < left * 2)
    rw [compare_gt_iff_gt.mpr more]
    exact ⟨add_lt_add_right half _, add_lt_add_right small _⟩

namespace Stands

theorem bounds (stands : Stands em t) : (em.mantissa : Rat) ≤ t ∧ t < em.mantissa + 1 := by
  obtain ⟨m, round, sticky⟩ := em
  cases round <;> cases sticky <;> simp only [Stands] at stands ⊢ <;> constructor <;> linarith

theorem half (stands : Stands em t) : Stands em.shiftRightOne (t / 2) := by
  obtain ⟨m, round, sticky⟩ := em
  have halves : (m : Rat) = 2 * (m / 2 : Nat) + (m % 2 : Nat) := by
    exact_mod_cast (Nat.div_add_mod m 2).symm
  rcases Nat.mod_two_eq_zero_or_one m with even | odd
  · rw [even, Nat.cast_zero] at halves
    have bit : (m % 2 != 0) = false := by rw [even]; rfl
    cases round <;> cases sticky <;>
      simp only [Stands, ExtendedMantissa.shiftRightOne, bit, Bool.or_self, Bool.or_true,
        Bool.or_false] at stands ⊢ <;>
      first | linarith | (constructor <;> linarith)
  · rw [odd, Nat.cast_one] at halves
    have bit : (m % 2 != 0) = true := by rw [odd]; rfl
    cases round <;> cases sticky <;>
      simp only [Stands, ExtendedMantissa.shiftRightOne, bit, Bool.or_self, Bool.or_true,
        Bool.or_false] at stands ⊢ <;>
      first | linarith | (constructor <;> linarith)

theorem shift (stands : Stands em t) (k : Nat) : Stands (em >>> k) (t / 2 ^ k) := by
  induction k with
  | zero => simpa [HShiftRight.hShiftRight, Nat.repeat] using stands
  | succ k ih =>
    have step : em >>> (k + 1) = (em >>> k).shiftRightOne := rfl
    rw [step, pow_succ, ← div_div]
    exact ih.half

/-- Rounding an extended significand gives the nearest integer. -/
theorem rounded (stands : Stands em t) : (em.roundedMantissa : Int) = roundHalfEven t := by
  have floor : t.floor = em.mantissa := floor_eq stands.bounds.1 stands.bounds.2
  unfold roundHalfEven
  rw [floor, half_eq]
  obtain ⟨m, round, sticky⟩ := em
  dsimp only
  rw [Int.cast_natCast]
  cases round <;> cases sticky <;> simp only [Stands] at stands <;>
    simp only [ExtendedMantissa.roundedMantissa, ExtendedMantissa.accuracy, Accuracy.roundToNearestEven]
  · rw [if_pos (by linarith)]
  · rw [if_pos (by linarith)]
  · rw [if_neg (by linarith), if_neg (by linarith)]
    split_ifs <;> omega
  · rw [if_neg (by linarith), if_pos (by linarith)]
    omega

end Stands

end GeoSearch.Binary64
