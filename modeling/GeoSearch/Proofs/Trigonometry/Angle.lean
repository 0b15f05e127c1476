import GeoSearch.Proofs.Trigonometry.Series
import Mathlib.Analysis.SpecialFunctions.Trigonometric.ArctanDeriv
import Mathlib.Analysis.SpecialFunctions.Trigonometric.Bounds
/-!
Half a turn and arctangents in fixed-point numbers, off by less than any of their uses notices.
-/
namespace GeoSearch.Trigonometry

variable {places : Nat} {t : Int}

/-! ### Half a turn -/

theorem pi_near (working : Working places) : |real places (pi places) - Real.pi| ≤ 1 / 10 ^ 50 := by
  have first := @arctanInverse_near places 5 (by decide)
  have second := @arctanInverse_near places 239 (by decide)
  have orders : Nat.log2 5 = 2 ∧ Nat.log2 239 = 7 := by decide
  have terms : places / (2 * 2) + 2 = 50 ∧ places / (2 * 7) + 2 = 15 := by
    obtain ⟨least, most⟩ := working
    omega
  rw [orders.1, terms.1] at first
  rw [orders.2, terms.2] at second
  have last := working.unit_le
  have machin := Real.four_mul_arctan_inv_5_sub_arctan_inv_239
  have whole : real places (pi places) =
      4 * (4 * real places (arctanInverse places 5) - real places (arctanInverse places 239)) := by
    rw [pi, real_mul_int, real_sub, real_mul_int, Int.cast_ofNat]
  rw [abs_le] at first second ⊢
  rw [whole]
  norm_num at first second last ⊢
  constructor <;> linarith

/-! ### Arctangents -/

theorem abs_arctan_sub_arctan_le (X Y : ℝ) : |Real.arctan X - Real.arctan Y| ≤ |X - Y| := by
  have slope (X : ℝ) : ‖deriv Real.arctan X‖₊ ≤ 1 := by
    rw [Real.deriv_arctan, ← NNReal.coe_le_coe, coe_nnnorm, Real.norm_eq_abs, abs_of_pos (by positivity)]
    exact div_le_self zero_le_one (le_add_of_nonneg_right (sq_nonneg X))
  have lipschitz := lipschitzWith_of_nnnorm_deriv_le Real.differentiable_arctan slope
  simpa [Real.dist_eq] using lipschitz.dist_le_mul X Y

def halved (places : Nat) (t : Int) : Int :=
  div places t (one places + sqrt places (one places + mul places t t))

theorem arctan_eq (places : Nat) (t : Int) : arctan places t =
    let small := halved places (halved places (halved places t))
    8 * ((List.range (places / 6 + 2)).foldl
      (arctanStep fun power => mul places power (mul places small small)) (0, small)).1 :=
  rfl

/-- Half of an arctangent. -/
theorem two_mul_arctan_half {T : ℝ} (nonneg : 0 ≤ T) (small : T ≤ 1) :
    2 * Real.arctan (T / (1 + √(1 + T ^ 2))) = Real.arctan T := by
  have square : √(1 + T ^ 2) ^ 2 = 1 + T ^ 2 := Real.sq_sqrt (by positivity)
  have root := Real.sqrt_nonneg (1 + T ^ 2)
  generalize √(1 + T ^ 2) = S at square root
  have positive : 0 < 1 + S := by linarith
  have above : 1 ≤ S := by nlinarith
  have least : 0 ≤ T / (1 + S) := by positivity
  have most : T / (1 + S) < 1 := by
    rw [div_lt_one positive]
    linarith
  rw [Real.two_mul_arctan (by linarith) most]
  congr 1
  have nonzero : (1 : ℝ) - (T / (1 + S)) ^ 2 ≠ 0 := by nlinarith
  rw [div_eq_iff nonzero]
  field_simp
  nlinarith

structure Halves (places : Nat) (t half : Int) : Prop where
  nonneg : 0 ≤ half
  le : real places half ≤ 51 / 100 * real places t
  near : |2 * Real.arctan (real places half) - Real.arctan (real places t)| ≤ 2 * unit places

/-- A root is off by a unit, and by what its argument is off. -/
theorem root_near {T M R u : ℝ} (least : 0 ≤ M) (square : M ≤ T ^ 2 ∧ T ^ 2 < M + u)
    (root : R ≤ √(1 + M) ∧ √(1 + M) < R + u) : R ≤ √(1 + T ^ 2) ∧ √(1 + T ^ 2) ≤ R + 2 * u := by
  obtain ⟨low, high⟩ := square
  obtain ⟨below, above⟩ := root
  refine ⟨below.trans (Real.sqrt_le_sqrt (by linarith)), ?_⟩
  have one_le : 1 ≤ √(1 + M) := Real.one_le_sqrt.mpr (by linarith)
  have wider : √(1 + T ^ 2) ≤ √(1 + M) + u := by
    refine Real.sqrt_le_iff.mpr ⟨by linarith, ?_⟩
    rw [add_sq, Real.sq_sqrt (by linarith)]
    nlinarith
  linarith

theorem halves (working : Working places) (nonneg : 0 ≤ t) (small : real places t ≤ 1) :
    Halves places t (halved places t) := by
  have forward := @real_nonneg places _ nonneg
  have last := @unit_pos places
  have tiny : unit places ≤ 1 / 100 := working.unit_le.trans (by norm_num)
  have squares := @mul_nonneg_of_nonneg places _ _ nonneg nonneg
  have divisor : 0 < one places + sqrt places (one places + mul places t t) :=
    Int.add_pos_of_pos_of_nonneg one_positive (sqrt_nonneg _)
  have product := @below_mul places t t
  have root := @below_sqrt places _ (Int.add_nonneg (@one_positive places).le squares)
  have quotient := @below_quotient places _ t divisor
  rw [real_add, real_one] at root quotient
  rw [← sq] at product
  obtain ⟨below, above⟩ := root_near (real_nonneg squares) ⟨product.le, product.lt⟩ ⟨root.le, root.lt⟩
  have exact := two_mul_arctan_half forward small
  have one_le : 1 ≤ √(1 + real places t ^ 2) := Real.one_le_sqrt.mpr (by nlinarith)
  refine ⟨Int.ediv_nonneg (Int.mul_nonneg nonneg one_positive.le) divisor.le, ?_, ?_⟩
  · refine quotient.le.trans ?_
    rw [div_le_iff₀ (by linarith)]
    nlinarith
  · rw [← exact, ← mul_sub, abs_mul, abs_two]
    refine mul_le_mul_of_nonneg_left ((abs_arctan_sub_arctan_le _ _).trans ?_) two_pos.le
    obtain ⟨low, high⟩ := quotient
    rw [← halved] at low high
    generalize real places (sqrt places (one places + mul places t t)) = R at *
    generalize √(1 + real places t ^ 2) = S at *
    have order : real places t / (1 + S) ≤ real places t / (1 + R) := by
      apply div_le_div_of_nonneg_left forward <;> linarith
    have close : real places t / (1 + R) ≤ real places t / (1 + S) + unit places := by
      have gap : real places t * (S - R) ≤ 1 * (2 * unit places) :=
        mul_le_mul small (by linarith) (by linarith) zero_le_one
      have room : 2 ≤ (1 + S) * (1 + R) := by nlinarith
      rw [div_add' _ _ _ (by linarith), div_le_div_iff₀ (by linarith) (by linarith)]
      nlinarith
    rw [abs_le]
    constructor <;> linarith

/-- A power, multiplied by the square of its base. -/
theorem power_near (working : Working places) {X p : Int} (small : |real places X| ≤ 1 / 4) {k : Nat}
    (near : |real places p - real places X ^ (2 * k + 1)| ≤ 3 * unit places) :
    |real places (mul places p (mul places X X)) - real places X ^ (2 * (k + 1) + 1)| ≤
      3 * unit places := by
  have last := @unit_pos places
  have product := (@below_mul places p (mul places X X)).near
  have square := (@below_mul places X X).near
  have tiny : unit places ≤ 1 / 100 := working.unit_le.trans (by norm_num)
  have power : |real places X ^ (2 * k + 1)| ≤ 1 / 4 := by
    rw [abs_pow, pow_succ]
    exact (mul_le_of_le_one_left (abs_nonneg _) (pow_le_one₀ (abs_nonneg _) (by linarith))).trans small
  have base : |real places X * real places X| ≤ 1 / 16 := by
    rw [abs_mul]
    nlinarith [abs_nonneg (real places X)]
  have next : real places X ^ (2 * (k + 1) + 1) =
      real places X ^ (2 * k + 1) * (real places X * real places X) := by ring
  rw [next]
  generalize real places X ^ (2 * k + 1) = P at *
  generalize real places X * real places X = B at *
  generalize real places (mul places X X) = S at *
  have split : real places p * S - P * B = (real places p - P) * B + real places p * (S - B) := by
    ring
  have whole : |real places p| ≤ 1 / 2 := by
    have := abs_sub_abs_le_abs_sub (real places p) P
    linarith
  have moved : |real places p * S - P * B| ≤ 2 * unit places := by
    have first := mul_le_mul near base (abs_nonneg _) (by positivity)
    have second := mul_le_mul whole square (abs_nonneg _) (by norm_num)
    rw [split]
    refine (abs_add_le _ _).trans ?_
    rw [abs_mul, abs_mul]
    linarith
  have := abs_sub_le (real places (mul places p (mul places X X))) (real places p * S) (P * B)
  linarith

/-- The series of a small tangent. -/
theorem arctan_series_near (working : Working places) (nonneg : 0 ≤ real places t)
    (small : real places t ≤ 7 / 50) :
    |real places ((List.range 34).foldl
      (arctanStep fun power => mul places power (mul places t t)) (0, t)).1 -
        Real.arctan (real places t)| ≤ 1 / 10 ^ 54 := by
  have size : |real places t| = real places t := abs_of_nonneg nonneg
  have quarter : |real places t| ≤ 1 / 4 := by
    rw [size]
    linarith
  have last := working.unit_le
  have start : |real places t - real places t| ≤ 3 * unit places := by
    rw [sub_self, abs_zero]
    exact mul_nonneg zero_le_three unit_pos.le
  have sum := arctan_foldl_near start (fun _ _ => power_near working quarter) quarter 34
  have left : |real places t| ^ (2 * 34) ≤ (7 / 50) ^ (2 * 34) :=
    pow_le_pow_left₀ (abs_nonneg _) (size.trans_le small) _
  refine sum.trans ?_
  norm_num at left last ⊢
  linarith

theorem arctan_near (working : Working places) (nonneg : 0 ≤ t) (small : real places t ≤ 1) :
    |real places (arctan places t) - Real.arctan (real places t)| ≤ 1 / 10 ^ 50 := by
  obtain ⟨forward, less, near⟩ := halves working nonneg small
  obtain ⟨forward', less', near'⟩ := halves working forward (by linarith)
  obtain ⟨forward'', less'', near''⟩ := halves working forward' (by linarith)
  have series := arctan_series_near working (real_nonneg forward'') (by linarith)
  have last := working.unit_le
  have terms : places / 6 + 2 = 34 := by
    obtain ⟨least, most⟩ := working
    omega
  rw [arctan_eq, terms]
  dsimp only
  rw [real_mul_int, Int.cast_ofNat]
  rw [abs_le] at near near' near'' series ⊢
  norm_num at series last ⊢
  constructor <;> linarith

end GeoSearch.Trigonometry
