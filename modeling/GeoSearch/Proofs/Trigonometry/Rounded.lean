import GeoSearch.Proofs.Binary64.Root
import GeoSearch.Proofs.Trigonometry.Turn
/-!
Sines, cosines and arcsines of binary64 numbers, as near to the real ones as rounding allows.
-/
namespace GeoSearch.Trigonometry

open Binary64 (value Rounds)

variable {x y : Float}

theorem value_tiny : tiny.isFinite = true ∧ 1 / 10 ^ 10 ≤ value tiny ∧ value tiny ≤ 2 / 10 ^ 9 := by
  decide +kernel

theorem tiny_range : (1 : ℝ) / 10 ^ 10 ≤ value tiny ∧ (value tiny : ℝ) ≤ 2 / 10 ^ 9 := by
  obtain ⟨-, low, high⟩ := value_tiny
  rw [← Rat.cast_le (K := ℝ)] at low high
  push_cast at low high
  exact ⟨low, high⟩

theorem value_abs (finite : x.isFinite = true) : x.abs.isFinite = true ∧ value x.abs = |value x| := by
  rw [Binary64.abs_eq finite, Binary64.value_withSign _ finite, Binary64.abs_value]
  exact ⟨Binary64.finite_withSign _ finite, rfl⟩

/-! ### Sines and cosines -/

theorem sin_cases (finite : x.isFinite = true) : |value x| < value tiny ∧ sin x = x ∨
    value tiny ≤ |value x| ∧ sin x = turned 0 x := by
  obtain ⟨known, size⟩ := value_abs finite
  rw [sin, finite, Bool.not_true, if_neg Bool.false_ne_true, ← size]
  split
  · next small => exact .inl ⟨(Binary64.lt_iff known value_tiny.1).mp small, rfl⟩
  · next large => exact .inr ⟨not_lt.mp (mt (Binary64.lt_iff known value_tiny.1).mpr large), rfl⟩

theorem cos_cases (finite : x.isFinite = true) : cos x = 1.0 ∨ cos x = turned 1 x := by
  rw [cos, finite, Bool.not_true, if_neg Bool.false_ne_true]
  split
  · exact .inl rfl
  · exact .inr rfl

theorem turned_within (quarter : Int) (small : |value x| ≤ 4) :
    (turned quarter x).isFinite = true ∧ |value (turned quarter x)| ≤ 2 := by
  obtain ⟨q, model, near⟩ := turned_near quarter small
  have rounds : Rounds q (turned quarter x) := .inl model
  have size : |(q : ℝ)| ≤ 2 := by
    have sine := Real.abs_sin_le_one (value x + quarter * (Real.pi / 2))
    have := abs_sub_abs_le_abs_sub (q : ℝ) (Real.sin (value x + quarter * (Real.pi / 2)))
    norm_num at near
    linarith
  have bound : |q| ≤ (2 : Nat) := by exact_mod_cast size
  exact_mod_cast rounds.abs_value_le (by decide) bound

theorem sin_within (finite : x.isFinite = true) (small : |value x| ≤ 4) :
    (sin x).isFinite = true ∧ |value (sin x)| ≤ 2 := by
  rcases sin_cases finite with ⟨less, model⟩ | ⟨-, model⟩ <;> rw [model]
  · refine ⟨finite, (less.le.trans value_tiny.2.2).trans ?_⟩
    norm_num
  · exact turned_within 0 small

theorem cos_within (finite : x.isFinite = true) (small : |value x| ≤ 4) :
    (cos x).isFinite = true ∧ |value (cos x)| ≤ 2 := by
  rcases cos_cases finite with model | model <;> rw [model]
  · rw [Binary64.one_exact.2]
    exact ⟨Binary64.one_exact.1, by norm_num⟩
  · exact turned_within 1 small

/-- A rounded sine is hardly smaller than the real one. -/
theorem le_abs_sin (finite : x.isFinite = true) (small : |(value x : ℝ)| ≤ Real.pi / 2) :
    |Real.sin (value x)| * (1 - 1 / 2 ^ 50) ≤ |(value (sin x) : ℝ)| := by
  rcases sin_cases finite with ⟨-, model⟩ | ⟨large, model⟩ <;> rw [model]
  · have least := abs_nonneg (Real.sin (value x))
    calc _ ≤ |Real.sin (value x)| := by linarith
      _ ≤ |(value x : ℝ)| := Real.abs_sin_le_abs
  · have bound : |value x| ≤ 4 := by
      have := Real.pi_lt_four
      exact_mod_cast (by linarith : |(value x : ℝ)| ≤ 4)
    obtain ⟨q, found, near⟩ := turned_near 0 bound
    have rounds : Rounds q (turned 0 x) := .inl found
    have long : (1 : ℝ) / 10 ^ 10 ≤ |(value x : ℝ)| := tiny_range.1.trans (by exact_mod_cast large)
    have height := half_le_sin (abs_nonneg _) small
    rw [← Real.abs_sin_eq_sin_abs_of_abs_le_pi (by linarith [Real.pi_pos])] at height
    have most := Real.abs_sin_le_one (value x)
    rw [Int.cast_zero, zero_mul, add_zero] at near
    have tall : 1 / 2 * (1 / 10 ^ 10) ≤ |Real.sin (value x)| := by linarith
    generalize Real.sin (value x) = s at *
    have least := abs_sub_abs_le_abs_sub s q
    have above := abs_sub_abs_le_abs_sub (q : ℝ) s
    rw [abs_sub_comm] at least
    norm_num at near tall
    obtain ⟨-, moved⟩ := rounds.near (by norm_num; linarith) (by norm_num; linarith)
    have less := abs_sub_abs_le_abs_sub (q : ℝ) (value (turned 0 x))
    rw [abs_sub_comm] at less
    norm_num at moved ⊢
    linarith

/-- The rounded cosine of less than a quarter turn is not negative. -/
theorem cos_nonneg (finite : x.isFinite = true)
    (small : |(value x : ℝ)| ≤ Real.pi / 2 - 1 / 10 ^ 17) : 0 ≤ value (cos x) := by
  obtain ⟨zeroFinite, zero⟩ := Binary64.zero_exact
  rcases cos_cases finite with model | model <;> rw [model]
  · exact zero_le_one.trans_eq Binary64.one_exact.2.symm
  · have bound : |value x| ≤ 4 := by
      have := Real.pi_lt_four
      norm_num at small
      exact_mod_cast (by linarith : |(value x : ℝ)| ≤ 4)
    obtain ⟨q, found, near⟩ := turned_near 1 bound
    have rounds : Rounds q (turned 1 x) := .inl found
    have cosine := Real.one_sub_mul_le_cos (abs_nonneg (value x : ℝ)) (by norm_num at small ⊢; linarith)
    have slope : 2 / Real.pi * |(value x : ℝ)| ≤ 1 - 1 / 2 * (1 / 10 ^ 17) := by
      rw [div_mul_eq_mul_div, div_le_iff₀ Real.pi_pos]
      have := Real.pi_lt_four
      norm_num at small ⊢
      linarith
    rw [Real.cos_abs] at cosine
    rw [Int.cast_one, one_mul, Real.sin_add_pi_div_two, abs_le] at near
    have positive : (0 : ℝ) ≤ q := by
      norm_num at near slope
      linarith
    exact zero.ge.trans (rounds.le_value zeroFinite (zero.trans_le (by exact_mod_cast positive)))

/-! ### Arcsines -/

theorem arcsin_of_large (finite : y.isFinite = true) (large : 1 < value y) :
    arcsin y = Binary64.nan := by
  have outside : (0.0 ≤ y && y ≤ 1.0) = false := by
    rw [Bool.and_eq_false_iff, decide_eq_false_iff_not, decide_eq_false_iff_not,
      Binary64.le_iff finite Binary64.one_exact.1, Binary64.one_exact.2]
    exact .inr large.not_ge
  rw [arcsin_eq, outside, Bool.not_false, if_pos rfl]

theorem arcsin_cases (finite : y.isFinite = true) (least : 0 ≤ value y) (most : value y ≤ 1) :
    value y < value tiny ∧ arcsin y = y ∨
      value tiny ≤ value y ∧ arcsin y = Binary64.nearest
        (toRat workingPlaces (angleOf workingPlaces (ofRat workingPlaces (value y)))) := by
  obtain ⟨zeroFinite, zero⟩ := Binary64.zero_exact
  obtain ⟨oneFinite, one⟩ := Binary64.one_exact
  have inside : (0.0 ≤ y && y ≤ 1.0) = true := by
    rw [Bool.and_eq_true, decide_eq_true_iff, decide_eq_true_iff, Binary64.le_iff zeroFinite finite,
      Binary64.le_iff finite oneFinite, zero, one]
    exact ⟨least, most⟩
  rw [arcsin_eq, inside, Bool.not_true, if_neg Bool.false_ne_true]
  split
  · next small => exact .inl ⟨(Binary64.lt_iff finite value_tiny.1).mp small, rfl⟩
  · next large => exact .inr ⟨not_lt.mp (mt (Binary64.lt_iff finite value_tiny.1).mpr large), rfl⟩

/-- An angle that shrinks loses height, also where the sine is flat. -/
theorem sin_shrunk {θ δ : ℝ} (nonneg : 0 ≤ θ) (quarter : θ ≤ Real.pi / 2) (least : 0 ≤ δ)
    (most : δ ≤ 1) : Real.sin (θ * (1 - δ)) ≤ Real.sin θ * (1 - δ ^ 2 / 4) := by
  have turn := Real.pi_pos
  have short := Real.pi_lt_four
  have difference := Real.sin_sub_sin θ (θ * (1 - δ))
  have half : (θ - θ * (1 - δ)) / 2 = θ * δ / 2 := by ring
  have middle : (θ + θ * (1 - δ)) / 2 = θ * (1 - δ / 2) := by ring
  rw [half, middle] at difference
  have inner : 0 ≤ θ * (1 - δ / 2) := mul_nonneg nonneg (by linarith)
  have cosine := Real.one_sub_mul_le_cos inner (by nlinarith)
  have sine := Real.mul_le_sin (by positivity : 0 ≤ θ * δ / 2) (by nlinarith)
  have high : δ / 2 ≤ Real.cos (θ * (1 - δ / 2)) := by
    refine le_trans ?_ cosine
    have : 2 / Real.pi * (θ * (1 - δ / 2)) ≤ 1 - δ / 2 := by
      rw [div_mul_eq_mul_div, div_le_iff₀ turn]
      nlinarith
    linarith
  have wide : θ * δ / 4 ≤ Real.sin (θ * δ / 2) := by
    refine le_trans ?_ sine
    rw [div_mul_eq_mul_div, le_div_iff₀ turn]
    nlinarith [mul_nonneg nonneg least]
  have below := Real.sin_le nonneg
  have product := mul_le_mul wide high (by positivity) (by linarith [show 0 ≤ θ * δ / 4 by positivity])
  have flat : Real.sin θ * (δ ^ 2 / 4) ≤ θ * (δ ^ 2 / 4) :=
    mul_le_mul_of_nonneg_right below (by positivity)
  nlinarith

/-- An angle is little less than any angle with about its sine. -/
theorem le_of_sine {θ q v : ℝ} (nonneg : 0 ≤ θ) (quarter : θ ≤ Real.pi / 2)
    (height : Real.sin θ * (1 - 1 / 2 ^ 48) ≤ v) (large : 1 / 10 ^ 10 ≤ v)
    (least : -(1 / 10 ^ 49) ≤ q) (near : |Real.sin q - v| ≤ 1 / 10 ^ 48) :
    θ * (1 - 5 / 10 ^ 7) ≤ q := by
  by_contra less
  have turn := Real.pi_gt_three
  have shrunk := sin_shrunk nonneg quarter (δ := 5 / 10 ^ 7) (by norm_num) (by norm_num)
  have order : θ * (1 - 5 / 10 ^ 7) ≤ Real.pi / 2 := le_trans (by norm_num; linarith) quarter
  have below := Real.sin_le_sin_of_le_of_le_pi_div_two (by norm_num at least; linarith) order
    (not_le.mp less).le
  rw [abs_le] at near
  norm_num at height large near shrunk below
  linarith

/-- The same of a sine that is taken for the angle. -/
theorem le_of_small_sine {θ v : ℝ} (nonneg : 0 ≤ θ) (quarter : θ ≤ Real.pi / 2)
    (height : Real.sin θ * (1 - 1 / 2 ^ 48) ≤ v) (small : v ≤ 2 / 10 ^ 9) :
    θ * (1 - 6 / 10 ^ 7) ≤ v := by
  rcases nonneg.eq_or_lt with rfl | positive
  · simpa using height
  have cubic := (Real.sin_gt_sub_cube positive).le
  have slope := half_le_sin nonneg quarter
  have short : θ ≤ 1 / 10 ^ 8 := by
    norm_num at height small ⊢
    linarith
  have cube : θ ^ 3 ≤ θ * (1 / 10 ^ 16) := by
    have square : θ ^ 2 ≤ (1 / 10 ^ 8) ^ 2 := pow_le_pow_left₀ nonneg short 2
    rw [pow_succ']
    exact mul_le_mul_of_nonneg_left (square.trans_eq (by norm_num)) nonneg
  norm_num at height cube ⊢
  linarith

/-- An arcsine that is not tiny, before it is rounded. -/
theorem arcsin_near (large : value tiny ≤ value y) (most : value y ≤ 1)
    (model : arcsin y = Binary64.nearest
      (toRat workingPlaces (angleOf workingPlaces (ofRat workingPlaces (value y))))) :
    ∃ q : Rat, Rounds q (arcsin y) ∧ |Real.sin q - value y| ≤ 1 / 10 ^ 48 ∧
      (1 : ℝ) / 10 ^ 11 ≤ q ∧ (q : ℝ) ≤ 2 := by
  have working : Working workingPlaces := ⟨by decide, by decide⟩
  have long : (1 : ℝ) / 10 ^ 10 ≤ value y := tiny_range.1.trans (Rat.cast_le.mpr large)
  have short : (value y : ℝ) ≤ 1 := by exact_mod_cast most
  obtain ⟨low, high⟩ := @below_ofRat workingPlaces (value y)
  have last := working.unit_le
  generalize ofRat workingPlaces (value y) = s at low high model
  have positive : 0 < s := by
    rw [← @real_pos_iff workingPlaces]
    norm_num at long last
    linarith
  obtain ⟨sine, least, top⟩ := hasSine_angleOf working positive (low.trans short)
  rw [← toRat_eq] at sine least top
  generalize toRat workingPlaces (angleOf workingPlaces s) = q at *
  have near : |Real.sin q - value y| ≤ 1 / 10 ^ 48 := by
    rw [abs_le] at sine ⊢
    norm_num at sine last ⊢
    constructor <;> linarith
  refine ⟨q, .inl model, near, ?_, ?_⟩
  · have size := (le_abs_self _).trans (Real.abs_sin_le_abs (x := (q : ℝ)))
    rw [abs_le] at near
    rcases le_or_gt 0 (q : ℝ) with right | left
    · rw [abs_of_nonneg right] at size
      norm_num at near long ⊢
      linarith
    · rw [abs_of_neg left] at size
      norm_num at near long least
      linarith
  · have turn := Real.pi_lt_d2
    norm_num at top turn
    linarith

/-- A rounded arcsine is little less than any angle with about its sine. -/
theorem le_arcsin (finite : y.isFinite = true) (forward : 0 ≤ value y) (most : value y ≤ 1) {θ : ℝ}
    (nonneg : 0 ≤ θ) (quarter : θ ≤ Real.pi / 2)
    (height : Real.sin θ * (1 - 1 / 2 ^ 48) ≤ value y) :
    (arcsin y).isFinite = true ∧ value (arcsin y) ≤ 2 ∧ θ * (1 - 6 / 10 ^ 7) ≤ value (arcsin y) := by
  rcases arcsin_cases finite forward most with ⟨small, model⟩ | ⟨large, model⟩
  · rw [model]
    have size := (Rat.cast_le.mpr small.le).trans tiny_range.2
    exact ⟨finite, most.trans one_le_two, le_of_small_sine nonneg quarter height size⟩
  · have long := tiny_range.1.trans (Rat.cast_le.mpr large)
    obtain ⟨q, rounds, near, least, top⟩ := arcsin_near large most model
    have right : |(q : ℝ)| = q := abs_of_nonneg (le_trans (by positivity) least)
    have angle := le_of_sine nonneg quarter height long (by norm_num at least ⊢; linarith) near
    obtain ⟨-, moved⟩ := rounds.near (by rw [right]; norm_num at least ⊢; linarith)
      (by rw [right]; linarith)
    obtain ⟨known, short⟩ := rounds.abs_value_le (n := 2) (by decide)
      (by exact_mod_cast right.trans_le top)
    refine ⟨known, (le_abs_self _).trans short, ?_⟩
    rw [right, abs_le] at moved
    norm_num at angle moved ⊢
    linarith

end GeoSearch.Trigonometry
