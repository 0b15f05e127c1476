import GeoSearch.Proofs.Trigonometry.FixedPoint
import Mathlib.Analysis.SpecialFunctions.Complex.Arctan
import Mathlib.Analysis.SpecialFunctions.Trigonometric.Series
/-!
The series of the sine, the cosine and the arctangent in fixed-point numbers. Each term is off by a few
units, so a sum is off by a few units for each term, and by what the series has left.
-/
namespace GeoSearch.Trigonometry

open Finset (range sum_range_succ)

variable {places shift : Nat} {x : Int} {X : ℝ}

theorem Below.near {a : Int} {t : ℝ} (below : Below places a t) :
    |real places a - t| ≤ unit places :=
  abs_le.mpr ⟨by linarith [below.lt], by linarith [below.le, @unit_pos places]⟩

/-! ### Sines and cosines -/

/-- A term of the series of the cosine, or with a shift of one of the sine. -/
noncomputable def circularTerm (shift : Nat) (X : ℝ) (k : Nat) : ℝ :=
  (-1) ^ k * X ^ (2 * k + shift) / (2 * k + shift).factorial

/-- Twelve to a power is at most six times every other factorial. -/
theorem twelve_pow_le (shift k : Nat) : 12 ^ k ≤ 6 * (2 * k + shift).factorial := by
  have even (k : Nat) : 12 ^ k ≤ 6 * (2 * k).factorial := by
    induction k with
    | zero => decide
    | succ k ih =>
      cases k with
      | zero => decide
      | succ k =>
        have step : (2 * (k + 1 + 1)).factorial =
            (2 * (k + 1) + 2) * ((2 * (k + 1) + 1) * (2 * (k + 1)).factorial) := rfl
        have twelve : 12 ≤ (2 * (k + 1) + 2) * (2 * (k + 1) + 1) := by nlinarith
        rw [step, pow_succ]
        calc 12 ^ (k + 1) * 12 ≤ 6 * (2 * (k + 1)).factorial *
              ((2 * (k + 1) + 2) * (2 * (k + 1) + 1)) := Nat.mul_le_mul ih twelve
          _ = _ := by ring
  exact (even k).trans (Nat.mul_le_mul_left 6 (Nat.factorial_le (Nat.le_add_right _ _)))

theorem abs_circularTerm_le (shift : Nat) (small : |X| ≤ 1) (k : Nat) :
    |circularTerm shift X k| ≤ 6 * (1 / 12) ^ k := by
  have positive : (0 : ℝ) < (2 * k + shift).factorial := Nat.cast_pos.mpr (Nat.factorial_pos _)
  have size : ((12 ^ k : Nat) : ℝ) ≤ (6 * (2 * k + shift).factorial : Nat) :=
    Nat.cast_le.mpr (twelve_pow_le shift k)
  push_cast at size
  rw [circularTerm, abs_div, abs_mul, abs_pow, abs_neg, abs_one, one_pow, one_mul, abs_pow,
    abs_of_pos positive, div_le_iff₀ positive, one_div, inv_pow, mul_right_comm, ← div_eq_mul_inv,
    le_div_iff₀ (by positivity)]
  calc |X| ^ (2 * k + shift) * 12 ^ k ≤ 1 * 12 ^ k :=
        mul_le_mul_of_nonneg_right (pow_le_one₀ (abs_nonneg X) small) (by positivity)
    _ ≤ _ := by rwa [one_mul]

theorem circularTerm_succ (shift : Nat) (X : ℝ) (k : Nat) : circularTerm shift X (k + 1) =
    -(circularTerm shift X k * X ^ 2) / ((2 * k + 1 + shift) * (2 * k + 2 + shift) : Nat) := by
  have step : (2 * (k + 1) + shift).factorial =
      (2 * k + 2 + shift) * ((2 * k + 1 + shift) * (2 * k + shift).factorial) := by
    rw [show 2 * (k + 1) + shift = 2 * k + shift + 1 + 1 by ring, Nat.factorial_succ,
      Nat.factorial_succ]
    ring
  have nonzero : ((2 * k + shift).factorial : ℝ) ≠ 0 :=
    Nat.cast_ne_zero.mpr (Nat.factorial_ne_zero _)
  rw [circularTerm, circularTerm, step]
  push_cast
  field_simp
  ring

/-- One more term: the sum and the term after it. -/
def circularStep (places shift : Nat) (square : Int) (state : Int × Int) (k : Nat) : Int × Int :=
  (state.1 + state.2,
    -(mul places state.2 square) / ((2 * k + 1 + shift) * (2 * k + 2 + shift) : Nat))

theorem circular_eq (odd : Bool) (x : Int) : circular places odd x =
    ((List.range (places / 4 + 4)).foldl
      (circularStep places (if odd then 1 else 0) (mul places x x))
      (0, if odd then x else one places)).1 := by
  cases odd <;> rfl

structure CircularNear (places shift : Nat) (X : ℝ) (k : Nat) (state : Int × Int) : Prop where
  sum : |real places state.1 - ∑ i ∈ range k, circularTerm shift X i| ≤ 5 * k * unit places
  term : |real places state.2 - circularTerm shift X k| ≤ 5 * unit places

theorem abs_circularTerm_le_one (small : |X| ≤ 1) (k : Nat) : |circularTerm shift X k| ≤ 1 := by
  have positive : (1 : ℝ) ≤ (2 * k + shift).factorial := Nat.one_le_cast.mpr (Nat.factorial_pos _)
  rw [circularTerm, abs_div, abs_mul, abs_pow, abs_neg, abs_one, one_pow, one_mul, abs_pow,
    abs_of_pos (one_pos.trans_le positive), div_le_one (one_pos.trans_le positive)]
  exact (pow_le_one₀ (abs_nonneg X) small).trans positive

/-- A square is less than a unit below the real one. -/
theorem square_near (small : |real places x| ≤ 1) : |real places (mul places x x)| ≤ 1 ∧
    |real places (mul places x x) - real places x ^ 2| ≤ unit places := by
  have below := @below_mul places x x
  have least : unit places ≤ 1 := by
    rw [unit, div_le_one (by positivity)]
    exact one_le_pow₀ one_le_two
  have square : real places x * real places x ≤ 1 := by
    rw [← sq, ← sq_abs]
    exact pow_le_one₀ (abs_nonneg _) small
  have nonneg := mul_self_nonneg (real places x)
  refine ⟨abs_le.mpr ⟨?_, below.le.trans square⟩, ?_⟩
  · linarith [below.lt]
  · rw [sq]
    exact below.near

theorem CircularNear.step {state : Int × Int} {k : Nat} (small : |real places x| ≤ 1)
    (near : CircularNear places shift (real places x) k state) :
    CircularNear places shift (real places x) (k + 1)
      (circularStep places shift (mul places x x) state k) := by
  obtain ⟨sum, term⟩ := near
  obtain ⟨bounded, square⟩ := square_near small
  have first := @abs_circularTerm_le_one shift _ small k
  have next := circularTerm_succ shift (real places x) k
  have positive := @unit_pos places
  constructor
  · rw [sum_range_succ, circularStep, real_add]
    push_cast
    have apart := abs_add_le (real places state.1 - ∑ i ∈ range k, circularTerm shift (real places x) i)
      (real places state.2 - circularTerm shift (real places x) k)
    rw [add_sub_add_comm]
    linarith
  · rw [next, circularStep]
    generalize circularTerm shift (real places x) k = T at first term
    generalize mul places x x = squared at bounded square
    have many : 2 ≤ (2 * k + 1 + shift) * (2 * k + 2 + shift) := by nlinarith
    generalize (2 * k + 1 + shift) * (2 * k + 2 + shift) = d at many
    have divisor : (2 : ℝ) ≤ d := by exact_mod_cast many
    have product := (@below_mul places state.2 squared).near
    have quotient := (@below_div places (d : Int) (by omega)
      (-mul places state.2 squared)).near
    rw [real_neg, Int.cast_natCast] at quotient
    generalize mul places state.2 squared = m at product quotient
    -- the two products differ by what the term and the square are off
    have moved : |real places state.2 * real places squared - T * real places x ^ 2| ≤
        6 * unit places := by
      have split : real places state.2 * real places squared - T * real places x ^ 2 =
          (real places state.2 - T) * real places squared +
            T * (real places squared - real places x ^ 2) := by ring
      rw [split]
      refine (abs_add_le _ _).trans ?_
      rw [abs_mul, abs_mul]
      have one := mul_le_mul term bounded (abs_nonneg _) (by positivity)
      have other := mul_le_mul first square (abs_nonneg _) zero_le_one
      linarith
    have apart : |real places m - T * real places x ^ 2| ≤ 7 * unit places := by
      have := abs_sub_le (real places m) (real places state.2 * real places squared)
        (T * real places x ^ 2)
      linarith
    have divided : |-real places m / d - -(T * real places x ^ 2) / d| ≤ 7 / 2 * unit places := by
      rw [← sub_div, abs_div, abs_of_pos (by linarith : (0 : ℝ) < d), div_le_iff₀ (by linarith),
        neg_sub_neg, abs_sub_comm]
      nlinarith
    have := abs_sub_le (real places (-m / (d : Int))) (-real places m / d)
      (-(T * real places x ^ 2) / d)
    linarith

theorem circularNear_foldl (small : |real places x| ≤ 1) {first : Int}
    (start : real places first = circularTerm shift (real places x) 0) (n : Nat) :
    CircularNear places shift (real places x) n ((List.range n).foldl
      (circularStep places shift (mul places x x)) (0, first)) := by
  induction n with
  | zero =>
    constructor
    · simp [real]
    · rw [List.range_zero, List.foldl_nil, start, sub_self, abs_zero]
      linarith [@unit_pos places]
  | succ n ih =>
    rw [List.range_succ, List.foldl_concat]
    exact ih.step small

structure Working (places : Nat) : Prop where
  least : 192 ≤ places
  most : places ≤ 195

namespace Working

theorem unit_le (working : Working places) : unit places ≤ 1 / 2 ^ 192 := by
  rw [unit]
  exact one_div_le_one_div_of_le (by positivity) (pow_le_pow_right₀ one_le_two working.least)

end Working

/-- The sum of the first terms, and what the series has left. -/
theorem circular_foldl_near (working : Working places) (small : |real places x| ≤ 1) {first : Int}
    (start : real places first = circularTerm shift (real places x) 0) {limit : ℝ}
    (series : HasSum (circularTerm shift (real places x)) limit) :
    |real places ((List.range (places / 4 + 4)).foldl
      (circularStep places shift (mul places x x)) (0, first)).1 - limit| ≤ 1 / 10 ^ 50 := by
  have terms : places / 4 + 4 = 52 := by
    obtain ⟨least, most⟩ := working
    omega
  have sum := (circularNear_foldl small start 52).sum
  have rest := norm_sub_le_of_geometric_bound_of_hasSum (by norm_num)
    (abs_circularTerm_le shift small) series 52
  have last := working.unit_le
  rw [Real.norm_eq_abs] at rest
  rw [terms]
  have apart := abs_sub_le (real places ((List.range 52).foldl
    (circularStep places shift (mul places x x)) (0, first)).1)
    (∑ i ∈ range 52, circularTerm shift (real places x) i) limit
  push_cast at sum
  norm_num at rest last ⊢
  linarith

theorem sine_near (working : Working places) (small : |real places x| ≤ 1) :
    |real places (circular places true x) - Real.sin (real places x)| ≤ 1 / 10 ^ 50 := by
  rw [circular_eq]
  refine circular_foldl_near working small ?_ (Real.hasSum_sin _)
  simp [circularTerm]

theorem cosine_near (working : Working places) (small : |real places x| ≤ 1) :
    |real places (circular places false x) - Real.cos (real places x)| ≤ 1 / 10 ^ 50 := by
  rw [circular_eq]
  refine circular_foldl_near working small ?_ (Real.hasSum_cos _)
  simp [circularTerm, real_one]

/-! ### Arctangents -/

noncomputable def arctanTerm (X : ℝ) (k : Nat) : ℝ := (-1) ^ k * X ^ (2 * k + 1) / (2 * k + 1 : Nat)

theorem abs_arctanTerm_le (X : ℝ) (k : Nat) : |arctanTerm X k| ≤ |X| * (X ^ 2) ^ k := by
  have positive : (1 : ℝ) ≤ (2 * k + 1 : Nat) := Nat.one_le_cast.mpr (Nat.le_add_left _ _)
  rw [arctanTerm, abs_div, abs_mul, abs_pow, abs_neg, abs_one, one_pow, one_mul, abs_pow,
    abs_of_pos (one_pos.trans_le positive), ← sq_abs, ← pow_mul, ← pow_succ']
  exact div_le_self (by positivity) positive

def arctanStep (next : Int → Int) (state : Int × Int) (k : Nat) : Int × Int :=
  (if k % 2 = 0 then state.1 + state.2 / (2 * k + 1 : Nat) else state.1 - state.2 / (2 * k + 1 : Nat),
    next state.2)

theorem arctanInverse_eq (places n : Nat) : arctanInverse places n =
    ((List.range (places / (2 * n.log2) + 2)).foldl
      (arctanStep fun power => power / (n * n : Nat)) (0, one places / n)).1 :=
  rfl

structure ArctanNear (places : Nat) (X : ℝ) (k : Nat) (state : Int × Int) : Prop where
  sum : |real places state.1 - ∑ i ∈ range k, arctanTerm X i| ≤ 4 * k * unit places
  power : |real places state.2 - X ^ (2 * k + 1)| ≤ 3 * unit places

theorem ArctanNear.step {state : Int × Int} {k : Nat} {next : Int → Int}
    (near : ArctanNear places X k state)
    (power : |real places (next state.2) - X ^ (2 * (k + 1) + 1)| ≤ 3 * unit places) :
    ArctanNear places X (k + 1) (arctanStep next state k) := by
  obtain ⟨sum, before⟩ := near
  refine ⟨?_, power⟩
  have divisor : (1 : ℝ) ≤ (2 * k + 1 : Nat) := Nat.one_le_cast.mpr (Nat.le_add_left _ _)
  have positive : (0 : ℝ) < (2 * k + 1 : Nat) := one_pos.trans_le divisor
  have quotient := (@below_div places ((2 * k + 1 : Nat) : Int) (by omega)
    state.2).near
  rw [Int.cast_natCast] at quotient
  have divided : |real places state.2 / (2 * k + 1 : Nat) - X ^ (2 * k + 1) / (2 * k + 1 : Nat)| ≤
      3 * unit places := by
    rw [← sub_div, abs_div, abs_of_pos positive]
    exact (div_le_self (abs_nonneg _) divisor).trans before
  have term : |real places (state.2 / ((2 * k + 1 : Nat) : Int)) -
      X ^ (2 * k + 1) / (2 * k + 1 : Nat)| ≤ 4 * unit places := by
    have := abs_sub_le (real places (state.2 / ((2 * k + 1 : Nat) : Int)))
      (real places state.2 / (2 * k + 1 : Nat)) (X ^ (2 * k + 1) / (2 * k + 1 : Nat))
    linarith
  rw [sum_range_succ, arctanTerm, arctanStep]
  push_cast at term ⊢
  rcases Nat.mod_two_eq_zero_or_one k with even | odd
  · rw [if_pos even, (Nat.even_iff.mpr even).neg_one_pow, one_mul, real_add, add_sub_add_comm]
    have := abs_add_le (real places state.1 - ∑ i ∈ range k, arctanTerm X i)
      (real places (state.2 / (2 * k + 1)) - X ^ (2 * k + 1) / (2 * k + 1))
    linarith
  · rw [if_neg (by omega), (Nat.odd_iff.mpr odd).neg_one_pow, neg_one_mul, real_sub, neg_div,
      ← sub_eq_add_neg, sub_sub_sub_comm]
    have := abs_sub (real places state.1 - ∑ i ∈ range k, arctanTerm X i)
      (real places (state.2 / (2 * k + 1)) - X ^ (2 * k + 1) / (2 * k + 1))
    linarith

theorem arctanNear_foldl {first : Int} {next : Int → Int}
    (start : |real places first - X| ≤ 3 * unit places)
    (power : ∀ (k : Nat) (p : Int), |real places p - X ^ (2 * k + 1)| ≤ 3 * unit places →
      |real places (next p) - X ^ (2 * (k + 1) + 1)| ≤ 3 * unit places) (n : Nat) :
    ArctanNear places X n ((List.range n).foldl (arctanStep next) (0, first)) := by
  induction n with
  | zero =>
    constructor
    · simp [real]
    · simpa using start
  | succ n ih =>
    rw [List.range_succ, List.foldl_concat]
    exact ih.step (power n _ ih.power)

/-- The sum of the first terms, and what the series has left. -/
theorem arctan_foldl_near {first : Int} {next : Int → Int}
    (start : |real places first - X| ≤ 3 * unit places)
    (power : ∀ (k : Nat) (p : Int), |real places p - X ^ (2 * k + 1)| ≤ 3 * unit places →
      |real places (next p) - X ^ (2 * (k + 1) + 1)| ≤ 3 * unit places)
    (small : |X| ≤ 1 / 4) (n : Nat) :
    |real places ((List.range n).foldl (arctanStep next) (0, first)).1 - Real.arctan X| ≤
      4 * n * unit places + |X| ^ (2 * n) := by
  have sum := (arctanNear_foldl start power n).sum
  have square : X ^ 2 ≤ 1 / 16 := by
    rw [← sq_abs]
    exact (pow_le_pow_left₀ (abs_nonneg X) small 2).trans_eq (by norm_num)
  have nonneg := sq_nonneg X
  have series : HasSum (arctanTerm X) (Real.arctan X) :=
    Real.hasSum_arctan (small.trans_lt (by norm_num))
  have rest := norm_sub_le_of_geometric_bound_of_hasSum (by linarith : X ^ 2 < 1)
    (abs_arctanTerm_le X) series n
  have left : |X| * (X ^ 2) ^ n / (1 - X ^ 2) ≤ |X| ^ (2 * n) := by
    rw [div_le_iff₀ (by linarith), ← sq_abs, ← pow_mul, sq_abs, mul_comm]
    exact mul_le_mul_of_nonneg_left (by linarith) (by positivity)
  rw [Real.norm_eq_abs] at rest
  have apart := abs_sub_le (real places ((List.range n).foldl (arctanStep next) (0, first)).1)
    (∑ i ∈ range n, arctanTerm X i) (Real.arctan X)
  linarith

/-- The arctangent of a fraction of one. -/
theorem arctanInverse_near {n : Nat} (large : 4 ≤ n) :
    |real places (arctanInverse places n) - Real.arctan (n : ℝ)⁻¹| ≤
      4 * (places / (2 * n.log2) + 2 : Nat) * unit places +
        (n : ℝ)⁻¹ ^ (2 * (places / (2 * n.log2) + 2)) := by
  have divisor : (4 : ℝ) ≤ n := by exact_mod_cast large
  have positive : (0 : ℝ) < n := by linarith
  have last := @unit_pos places
  have nonneg : (0 : ℝ) ≤ (n : ℝ)⁻¹ := by positivity
  have small : |(n : ℝ)⁻¹| ≤ 1 / 4 := by
    rw [abs_of_nonneg nonneg, ← one_div]
    exact one_div_le_one_div_of_le (by norm_num) divisor
  rw [arctanInverse_eq]
  refine (arctan_foldl_near ?_ ?_ small _).trans_eq (by rw [abs_of_nonneg nonneg])
  · have quotient := (@below_div places (n : Int) (by omega) (one places)).near
    rw [real_one, Int.cast_natCast, one_div] at quotient
    linarith
  · intro k p before
    have quotient := (@below_div places ((n * n : Nat) : Int)
      (by exact_mod_cast Nat.mul_pos (by omega) (by omega)) p).near
    have divided : |real places p / (n * n : Nat) - (n : ℝ)⁻¹ ^ (2 * (k + 1) + 1)| ≤
        unit places := by
      have next : (n : ℝ)⁻¹ ^ (2 * (k + 1) + 1) = (n : ℝ)⁻¹ ^ (2 * k + 1) / (n * n : Nat) := by
        rw [show 2 * (k + 1) + 1 = 2 * k + 1 + 2 by ring, pow_add, Nat.cast_mul, ← sq, inv_pow _ 2,
          div_eq_mul_inv]
      have square : (16 : ℝ) ≤ (n * n : Nat) := by exact_mod_cast Nat.mul_le_mul large large
      rw [next, ← sub_div, abs_div, abs_of_pos (by linarith : (0 : ℝ) < (n * n : Nat)),
        div_le_iff₀ (by linarith)]
      nlinarith
    rw [Int.cast_natCast] at quotient
    have := abs_sub_le (real places (p / ((n * n : Nat) : Int))) (real places p / (n * n : Nat))
      ((n : ℝ)⁻¹ ^ (2 * (k + 1) + 1))
    linarith

end GeoSearch.Trigonometry
