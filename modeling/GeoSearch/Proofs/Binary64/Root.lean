import GeoSearch.Proofs.Binary64.Arithmetic
import Mathlib.Analysis.Real.Sqrt
/-!
Square roots of binary64 numbers, as near to the real ones as rounding allows.
-/
namespace GeoSearch.Binary64

open Float.Model (UnpackedFloat Format totalExponent)
open Float.Model.UnpackedFloat (Accuracy ExtendedMantissa roundWithAccuracy)

variable {x : Float} {m : Nat} {e : Int}

/-- Rounding moves a number that is far from the ends of the range by a small part of itself. -/
theorem Rounds.near {q : Rat} (rounds : Rounds q x) (normal : 1 / 10 ^ 60 ≤ |(q : ℝ)|)
    (fits : |(q : ℝ)| ≤ 10 ^ 60) :
    x.isFinite = true ∧ |(value x : ℝ) - q| ≤ |(q : ℝ)| / 2 ^ 51 := by
  have least : 1 / 10 ^ 60 ≤ |q| := by
    rw [← Rat.cast_le (K := ℝ)]
    push_cast
    exact normal
  have most : |q| ≤ 10 ^ 60 := by exact_mod_cast fits
  have low : (2 : Rat) ^ (-1000 : Int) ≤ 2 ^ (-200 : Int) := zpow_le_zpow_right₀ one_le_two (by decide)
  have high : (2 : Rat) ^ (200 : Int) ≤ 2 ^ (1022 : Int) := zpow_le_zpow_right₀ one_le_two (by decide)
  obtain ⟨finite, error⟩ := rounds.relative (low.trans (le_trans (by norm_num) least))
    (most.trans (le_trans (by norm_num) high))
  exact ⟨finite, by exact_mod_cast error⟩

/-- What is rounded from a number that is not negative is hardly smaller, or that number is tiny. -/
theorem Rounds.hardly_smaller {q : Rat} (rounds : Rounds q x) (nonneg : 0 ≤ q) (fits : q ≤ 10 ^ 60) :
    (q : ℝ) * (1 - 1 / 2 ^ 51) ≤ value x + 1 / 10 ^ 60 := by
  have right : |(q : ℝ)| = q := abs_of_nonneg (by exact_mod_cast nonneg)
  rcases le_or_gt (1 / 10 ^ 60) (q : ℝ) with normal | tiny
  · obtain ⟨-, moved⟩ := rounds.near (by rwa [right]) (by rw [right]; exact_mod_cast fits)
    rw [right, abs_le] at moved
    norm_num at moved ⊢
    linarith
  · have least : (0 : ℝ) ≤ value x := by
      exact_mod_cast zero_exact.2.ge.trans
        (rounds.le_value zero_exact.1 (zero_exact.2.trans_le nonneg))
    have positive : (0 : ℝ) ≤ q := by exact_mod_cast nonneg
    norm_num at tiny ⊢
    linarith

/-- Some rational stands where a significand and what is known of the rest do. -/
theorem exists_stands (m : Nat) (a : Accuracy) :
    ∃ t : Rat, Stands (.ofMantissaAndAccuracy m a) t ∧ (m : Rat) ≤ t ∧ t < m + 1 := by
  have start : (ExtendedMantissa.ofMantissaAndAccuracy m a).mantissa = m := by
    rcases a with _ | _ | _ | _ <;> rfl
  have found : ∃ t : Rat, Stands (.ofMantissaAndAccuracy m a) t := by
    rcases a with _ | _ | _ | _
    · exact ⟨m, rfl⟩
    · refine ⟨m + 1 / 4, ?_⟩
      change (m : Rat) < m + 1 / 4 ∧ (m : Rat) + 1 / 4 < m + 1 / 2
      constructor <;> linarith
    · exact ⟨m + 1 / 2, rfl⟩
    · refine ⟨m + 3 / 4, ?_⟩
      change (m : Rat) + 1 / 2 < m + 3 / 4 ∧ (m : Rat) + 3 / 4 < m + 1
      constructor <;> linarith
  obtain ⟨t, stands⟩ := found
  have bounds := stands.bounds
  rw [start] at bounds
  exact ⟨t, stands, bounds⟩

def rootScale (m : Nat) (e : Int) : Int :=
  min (e.ediv 2) (Format.binary64.targetExponent ((totalExponent m e + 1).ediv 2))

theorem rootScale_le (m : Nat) (least : -1074 ≤ e) :
    -600 ≤ rootScale m e ∧ 2 * rootScale m e ≤ e ∧ 2 * rootScale m e + 104 ≤ m.log2 + e := by
  have half (n : Int) : n.ediv 2 = n / 2 := rfl
  simp only [rootScale, Format.targetExponent, totalExponent, Format.mantissaBits,
    Format.minExponent, half]
  omega

/-- A root of a significand at least, before it is rounded. -/
theorem sqrt_eq_nearest (some : 0 < m) (least : -1074 ≤ e) :
    ∃ r : Rat, Float.ofModel (.pack (.sqrt .binary64 (.finite .positive m e some))) = nearest r ∧
      2 ^ (-548 : Int) ≤ r ∧ |(r : ℝ) - √(m * 2 ^ e)| ≤ √(m * 2 ^ e) / 2 ^ 52 := by
  obtain ⟨scale, room, long⟩ := rootScale_le m least
  generalize g_eq : rootScale m e = g at scale room long
  generalize n_eq : m <<< (e - 2 * g).toNat = n
  obtain ⟨a, model⟩ : ∃ a, UnpackedFloat.sqrt .binary64 (.finite .positive m e some) =
      roundWithAccuracy .binary64 .positive n.sqrt g a := by
    subst g_eq n_eq
    exact ⟨_, rfl⟩
  have shifted : (n : ℝ) * (2 ^ g) ^ 2 = m * 2 ^ e := by
    have power : (((e - 2 * g).toNat : Nat) : Int) = e - 2 * g := Int.toNat_of_nonneg (by omega)
    rw [← n_eq, Nat.shiftLeft_eq, Nat.cast_mul, Nat.cast_pow, Nat.cast_ofNat, mul_assoc,
      ← zpow_natCast, power, ← zpow_natCast, ← zpow_mul, ← zpow_add₀ two_ne_zero]
    congr 2
    push_cast
    ring
  have full : 2 ^ 52 ≤ n.sqrt := by
    rw [Nat.le_sqrt, ← n_eq, Nat.shiftLeft_eq, ← pow_add]
    calc 2 ^ (52 + 52) ≤ 2 ^ (m.log2 + (e - 2 * g).toNat) := Nat.pow_le_pow_right (by decide) (by omega)
      _ = 2 ^ m.log2 * 2 ^ (e - 2 * g).toNat := pow_add _ _ _
      _ ≤ m * 2 ^ (e - 2 * g).toNat := Nat.mul_le_mul_right _ (Nat.log2_self_le some.ne')
  have bits : 52 ≤ n.sqrt.log2 := (Nat.le_log2 (by omega)).mpr full
  obtain ⟨t, stands, low, high⟩ := exists_stands n.sqrt a
  have whole : (2 : Rat) ^ 52 ≤ n.sqrt := by exact_mod_cast full
  have unit : (0 : ℝ) < 2 ^ g := zpow_pos two_pos _
  have rounded := round_eq_nearest (e := g) .positive stands (by linarith) (by omega) (.inl (by omega))
  refine ⟨t * 2 ^ g, (congrArg _ (congrArg _ model)).trans rounded, ?_, ?_⟩
  · calc (2 : Rat) ^ (-548 : Int) = 2 ^ 52 * 2 ^ (-600 : Int) := by
          rw [← zpow_natCast, ← zpow_add₀ two_ne_zero]
          rfl
      _ ≤ t * 2 ^ g := mul_le_mul (whole.trans low) (zpow_le_zpow_right₀ one_le_two scale)
          (by positivity) (by linarith)
  · have root : √(m * 2 ^ e) = √n * 2 ^ g := by
      rw [← shifted, Real.sqrt_mul (Nat.cast_nonneg n), Real.sqrt_sq unit.le]
    have below : (n.sqrt : ℝ) ≤ √n := Real.nat_sqrt_le_real_sqrt
    have above : √n < n.sqrt + 1 := Real.real_sqrt_lt_nat_sqrt_succ
    have large : (2 : ℝ) ^ 52 ≤ √n := le_trans (by exact_mod_cast full) below
    have least : (n.sqrt : ℝ) ≤ t := by exact_mod_cast low
    have most : (t : ℝ) < n.sqrt + 1 := by exact_mod_cast high
    rw [root]
    push_cast
    rw [← sub_mul, abs_mul, abs_of_pos unit, mul_div_right_comm]
    refine mul_le_mul_of_nonneg_right ?_ unit.le
    rw [le_div_iff₀ (by positivity)]
    have apart : |(t : ℝ) - √n| ≤ 1 := abs_le.mpr ⟨by linarith, by linarith⟩
    nlinarith

theorem magnitude_of_pos (positive : 0 < value x) : sign x = .positive ∧ value x = magnitude x := by
  have signs := signed_value x
  cases sign : sign x with
  | positive => exact ⟨rfl, by rw [← signs, sign]; rfl⟩
  | negative =>
    rw [sign] at signs
    have below : -magnitude x = value x := signs
    linarith [magnitude_nonneg x]

/-- What is at most twice a root is far from the greatest number. -/
theorem le_of_le_twice_root (finite : x.isFinite = true) {r : Rat}
    (twice : (r : ℝ) ≤ √(value x) * 2) : r ≤ 2 ^ (1022 : Int) := by
  have most : √(value x) ≤ 2 ^ 512 := by
    have fits : value x ≤ 2 ^ 1024 := (le_abs_self _).trans (abs_value_lt finite).le
    refine Real.sqrt_le_iff.mpr ⟨by positivity, ?_⟩
    rw [← pow_mul]
    exact (Rat.cast_le.mpr fits).trans_eq (by rw [Rat.cast_pow, Rat.cast_ofNat])
  have order : (r : ℝ) ≤ 2 ^ (1022 : Int) := by
    calc (r : ℝ) ≤ 2 ^ 512 * 2 := twice.trans (mul_le_mul_of_nonneg_right most two_pos.le)
      _ = 2 ^ ((513 : Nat) : Int) := by rw [← pow_succ, ← zpow_natCast]
      _ ≤ 2 ^ (1022 : Int) := zpow_le_zpow_right₀ one_le_two (by decide)
  exact_mod_cast order

/-- A square root is near the real one. -/
theorem sqrt_near (finite : x.isFinite = true) (nonneg : 0 ≤ value x) : x.sqrt.isFinite = true ∧
    |(value x.sqrt : ℝ) - √(value x)| ≤ √(value x) / 2 ^ 50 := by
  have model : x.sqrt = .ofModel (.pack (.sqrt .binary64 x.toModel.unpack)) := rfl
  rcases nonneg.eq_or_lt' with zero | positive
  · have still : x.sqrt = .ofModel (.pack (.zero (sign x))) := by
      rw [model, unpack_zero finite zero]
      rfl
    rw [still, (value_zero _).2, zero]
    exact ⟨(value_zero _).1, by simp⟩
  obtain ⟨some, number⟩ := unpack_nonzero finite positive.ne'
  obtain ⟨plain, size⟩ := magnitude_of_pos positive
  have exact : (value x : ℝ) = significand x * 2 ^ scale x := by
    rw [size, magnitude_eq]
    push_cast
    rfl
  obtain ⟨r, found, normal, near⟩ := sqrt_eq_nearest some (scale_range finite).1
  rw [← exact] at near
  have rounds : Rounds r x.sqrt := by
    left
    rw [model, ← found, ← plain, ← number]
  have root := Real.sqrt_nonneg (value x)
  obtain ⟨low, high⟩ := abs_le.mp near
  have above : 0 < r := (zpow_pos two_pos _).trans_le normal
  have small : r ≤ 2 ^ (1022 : Int) := by
    refine le_of_le_twice_root finite ?_
    norm_num at high
    linarith
  rw [← abs_of_pos above] at small
  obtain ⟨known, error⟩ := rounds.relative (by
    rw [abs_of_pos above]
    exact (zpow_le_zpow_right₀ one_le_two (by decide)).trans normal) small
  refine ⟨known, ?_⟩
  have moved : |(value x.sqrt : ℝ) - r| ≤ r / 2 ^ 51 := by
    rw [abs_of_pos above] at error
    exact_mod_cast error
  have := abs_sub_le (value x.sqrt : ℝ) r √(value x)
  norm_num at moved near low high ⊢
  linarith

end GeoSearch.Binary64
