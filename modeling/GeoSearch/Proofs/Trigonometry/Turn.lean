import GeoSearch.Proofs.Binary64.Arithmetic
import GeoSearch.Proofs.Trigonometry.Angle
/-!
Quarter turns: the sine and the cosine of an angle of any size, and the angle of a sine, before rounding.
-/
namespace GeoSearch.Trigonometry

open Binary64 (value)

variable {places : Nat} {x y : Float}

/-! ### Sines and cosines -/

/-- A sine of at most a quarter turn is at least half of the angle. -/
theorem half_le_sin {θ : ℝ} (nonneg : 0 ≤ θ) (quarter : θ ≤ Real.pi / 2) : 1 / 2 * θ ≤ Real.sin θ := by
  refine le_trans (mul_le_mul_of_nonneg_right ?_ nonneg) (Real.mul_le_sin nonneg quarter)
  rw [div_le_div_iff₀ two_pos Real.pi_pos]
  linarith [Real.pi_lt_four]

/-- Whole turns are left out. -/
theorem sin_add_quarters (r : ℝ) (n : Int) :
    Real.sin (r + n * (Real.pi / 2)) = Real.sin (r + (n % 4 : Int) * (Real.pi / 2)) := by
  have turns : (n : ℝ) = (n % 4 : Int) + 4 * (n / 4 : Int) := by
    exact_mod_cast (Int.emod_add_mul_ediv n 4).symm
  rw [← Real.sin_add_int_mul_two_pi (r + (n % 4 : Int) * (Real.pi / 2)) (n / 4)]
  congr 1
  rw [turns]
  ring

/-- What is left of an angle without its quarter turns is at most an eighth of a turn. -/
theorem rest_small {angle right : Int} (positive : 0 < right) :
    |2 * (angle - (2 * angle + right) / (2 * right) * right)| ≤ right := by
  have below := Int.ediv_mul_le (2 * angle + right) (by omega : 2 * right ≠ 0)
  have above := Int.lt_ediv_add_one_mul_self (2 * angle + right) (by omega : 0 < 2 * right)
  generalize (2 * angle + right) / (2 * right) = turns at *
  rw [abs_le]
  constructor <;> linarith

/-- A quarter of a turn. -/
theorem right_near (working : Working places) :
    0 < pi places / 2 ∧ |real places (pi places / 2) - Real.pi / 2| ≤ 1 / 10 ^ 50 := by
  have half := (@below_div places 2 (by decide) (pi places)).near
  have whole := pi_near working
  have last := working.unit_le
  have near : |real places (pi places / 2) - Real.pi / 2| ≤ 1 / 10 ^ 50 := by
    rw [abs_le] at half whole ⊢
    norm_num at half whole last ⊢
    constructor <;> linarith
  refine ⟨?_, near⟩
  have large := Real.pi_gt_three
  rw [abs_le] at near
  rw [← @real_pos_iff places]
  norm_num at near
  linarith

/-- The places that an angle of less than a turn is computed at. -/
theorem working_of_small (small : |value x| ≤ 4) :
    Working (workingPlaces + (Binary64.scale x + 53).toNat) := by
  have order : Binary64.scale x ≤ -50 := by
    rcases Binary64.full_or_least x with full | least
    · by_contra large
      have unit : (2 : Rat) ^ (-49 : Int) ≤ 2 ^ Binary64.scale x :=
        zpow_le_zpow_right₀ (by norm_num) (by omega)
      have many : (2 : Rat) ^ 52 ≤ Binary64.significand x := by exact_mod_cast full
      rw [Binary64.abs_value, Binary64.magnitude_eq] at small
      have : (2 : Rat) ^ 52 * 2 ^ (-49 : Int) ≤ Binary64.significand x * 2 ^ Binary64.scale x :=
        mul_le_mul many unit (by positivity) (by positivity)
      norm_num at this
      linarith
    · omega
  unfold workingPlaces
  constructor <;> omega

def ofQuarters (places : Nat) (n rest : Int) : Int :=
  match n % 4 with
  | 0 => circular places true rest
  | 1 => circular places false rest
  | 2 => -circular places true rest
  | _ => -circular places false rest

theorem ofQuarters_near (working : Working places) {rest : Int} (small : |real places rest| ≤ 1)
    (n : Int) : |real places (ofQuarters places n rest) -
      Real.sin (real places rest + n * (Real.pi / 2))| ≤ 1 / 10 ^ 50 := by
  have sine := sine_near working small
  have cosine := cosine_near working small
  have turned : n % 4 = 0 ∨ n % 4 = 1 ∨ n % 4 = 2 ∨ n % 4 = 3 := by omega
  rw [sin_add_quarters, ofQuarters]
  rcases turned with turned | turned | turned | turned <;> rw [turned]
  · simpa using sine
  · simpa [Real.sin_add_pi_div_two] using cosine
  · have half : ((2 : Int) : ℝ) * (Real.pi / 2) = Real.pi := by
      push_cast
      ring
    change |real places (-circular places true rest) - _| ≤ _
    rw [half, Real.sin_add_pi, real_neg, neg_sub_neg, abs_sub_comm]
    exact sine
  · have most : ((3 : Int) : ℝ) * (Real.pi / 2) = Real.pi / 2 + Real.pi := by
      push_cast
      ring
    change |real places (-circular places false rest) - _| ≤ _
    rw [most, ← add_assoc, Real.sin_add_pi, Real.sin_add_pi_div_two, real_neg, neg_sub_neg,
      abs_sub_comm]
    exact cosine

theorem abs_two_mul_real_le {rest right : Int} (small : |2 * rest| ≤ right) :
    |2 * real places rest| ≤ real places right := by
  have scaled : |((2 * rest : Int) : ℝ)| ≤ right := by exact_mod_cast small
  have doubled := @real_mul_int places 2 rest
  rw [Int.cast_ofNat] at doubled
  rw [← doubled, real, abs_div, abs_of_pos (by positivity : (0 : ℝ) < 2 ^ places)]
  exact div_le_div_of_nonneg_right scaled (by positivity)

/-- The rest of an angle, with its quarters, is off by as much as the angle and the quarters are. -/
theorem reduced_near {angle right turns quarter : Int} {v : ℝ} (few : |(turns : ℝ)| ≤ 4)
    (start : |real places angle - v| ≤ 1 / 10 ^ 50)
    (near : |real places right - Real.pi / 2| ≤ 1 / 10 ^ 50) :
    |real places (angle - turns * right) + (turns + quarter : Int) * (Real.pi / 2) -
      (v + quarter * (Real.pi / 2))| ≤ 5 * (1 / 10 ^ 50) := by
  have split : real places (angle - turns * right) + (turns + quarter : Int) * (Real.pi / 2) -
      (v + quarter * (Real.pi / 2)) =
      (real places angle - v) - turns * (real places right - Real.pi / 2) := by
    rw [real_sub, real_mul_int]
    push_cast
    ring
  have product := mul_le_mul few near (abs_nonneg _) (by norm_num)
  rw [← abs_mul] at product
  rw [split]
  refine (abs_sub _ _).trans ?_
  linarith

/-- A sine, or with a quarter a cosine, before it is rounded. -/
theorem turned_near (quarter : Int) (small : |value x| ≤ 4) :
    ∃ q : Rat, turned quarter x = Binary64.nearest q ∧
      |(q : ℝ) - Real.sin (value x + quarter * (Real.pi / 2))| ≤ 1 / 10 ^ 48 := by
  have working := working_of_small small
  generalize places_eq : workingPlaces + (Binary64.scale x + 53).toNat = places at working
  generalize right_eq : pi places / 2 = right
  generalize angle_eq : ofRat places (value x) = angle
  generalize turns_eq : (2 * angle + right) / (2 * right) = turns
  have model : turned quarter x =
      Binary64.nearest (toRat places (ofQuarters places (turns + quarter) (angle - turns * right))) := by
    subst places_eq right_eq angle_eq turns_eq
    rfl
  refine ⟨_, model, ?_⟩
  obtain ⟨positive, near⟩ := right_near working
  have tiny : (1 : ℝ) / 2 ^ 192 ≤ 1 / 10 ^ 50 := by norm_num
  have start := (@below_ofRat places (value x)).near.trans (working.unit_le.trans tiny)
  rw [right_eq] at positive near
  rw [angle_eq] at start
  have rest := @rest_small angle _ positive
  rw [turns_eq] at rest
  have size : |(value x : ℝ)| ≤ 4 := by exact_mod_cast small
  have bound := @abs_two_mul_real_le places _ _ rest
  have rest_eq : real places (angle - turns * right) =
      real places angle - turns * real places right := by
    rw [real_sub, real_mul_int]
  have large := Real.pi_gt_three
  have short := Real.pi_lt_d2
  have least : (1 : ℝ) / 10 ^ 50 ≤ 1 / 100 := by norm_num
  obtain ⟨right_low, right_high⟩ := abs_le.mp near
  obtain ⟨low, high⟩ := abs_le.mp start
  rw [abs_le] at size
  have inside : |real places (angle - turns * right)| ≤ 1 := by
    rw [abs_mul, abs_two] at bound
    norm_num at short
    linarith
  have quarters := ofQuarters_near working inside (turns + quarter)
  have few : |(turns : ℝ)| ≤ 4 := by
    rw [rest_eq, abs_le] at bound
    rw [abs_le]
    constructor <;> nlinarith
  have apart := @reduced_near places angle right turns quarter _ few start near
  have moved := Real.abs_sin_sub_sin_le
    (real places (angle - turns * right) + (turns + quarter : Int) * (Real.pi / 2))
    (value x + quarter * (Real.pi / 2))
  rw [toRat_eq]
  have := abs_sub_le (real places (ofQuarters places (turns + quarter) (angle - turns * right)))
    (Real.sin (real places (angle - turns * right) + (turns + quarter : Int) * (Real.pi / 2)))
    (Real.sin (value x + quarter * (Real.pi / 2)))
  refine this.trans ?_
  calc _ ≤ 1 / 10 ^ 50 + 5 * (1 / 10 ^ 50 : ℝ) := add_le_add quarters (moved.trans apart)
    _ ≤ _ := by norm_num

/-! ### Arcsines -/

theorem sqrt_one_add_div_sq {S C : ℝ} (positive : 0 < S) :
    √(1 + (C / S) ^ 2) = √(S ^ 2 + C ^ 2) / S := by
  rw [eq_div_iff positive.ne', ← Real.sqrt_sq positive.le, ← Real.sqrt_mul (by positivity),
    Real.sqrt_sq positive.le]
  congr 1
  field_simp

theorem sin_arctan_div {S C : ℝ} (positive : 0 < C) :
    Real.sin (Real.arctan (S / C)) = S / √(S ^ 2 + C ^ 2) := by
  rw [Real.sin_arctan, sqrt_one_add_div_sq positive, div_div_div_cancel_right₀ positive.ne',
    add_comm (C ^ 2)]

theorem cos_arctan_div {S C : ℝ} (positive : 0 < S) :
    Real.cos (Real.arctan (C / S)) = S / √(S ^ 2 + C ^ 2) := by
  rw [Real.cos_arctan, sqrt_one_add_div_sq positive, one_div_div]

/-- Near the unit circle, the height over the radius is near the height. -/
theorem height_near {S C e : ℝ} (positive : 0 < S) (near : |S ^ 2 + C ^ 2 - 1| ≤ e) :
    |S / √(S ^ 2 + C ^ 2) - S| ≤ e := by
  have square : √(S ^ 2 + C ^ 2) ^ 2 = S ^ 2 + C ^ 2 := Real.sq_sqrt (by positivity)
  have long : S ≤ √(S ^ 2 + C ^ 2) := Real.le_sqrt_of_sq_le (by linarith [sq_nonneg C])
  rw [← square] at near
  generalize √(S ^ 2 + C ^ 2) = r at *
  have radius : 0 < r := positive.trans_le long
  have apart : |r - 1| ≤ e := by
    have product : r ^ 2 - 1 = (r - 1) * (r + 1) := by ring
    rw [product, abs_mul, abs_of_pos (by linarith : 0 < r + 1)] at near
    nlinarith [abs_nonneg (r - 1)]
  have split : S / r - S = S / r * (1 - r) := by
    field_simp
  rw [split, abs_mul, abs_of_pos (div_pos positive radius), abs_sub_comm]
  exact (mul_le_of_le_one_left (abs_nonneg _) ((div_le_one radius).mpr long)).trans apart

def angleOf (places : Nat) (sine : Int) : Int :=
  let cosine := sqrt places (one places - mul places sine sine)
  if sine ≤ cosine then arctan places (div places sine cosine)
  else pi places / 2 - arctan places (div places cosine sine)

theorem arcsin_eq (y : Float) : arcsin y =
    if !(0.0 ≤ y && y ≤ 1.0) then Binary64.nan
    else if y < tiny then y
    else Binary64.nearest
      (toRat workingPlaces (angleOf workingPlaces (ofRat workingPlaces (value y)))) :=
  rfl

/-- The arctangent of a quotient of at most one. -/
theorem arctan_div_near (working : Working places) {a b : Int} (nonneg : 0 ≤ a) (positive : 0 < b)
    (order : a ≤ b) : |real places (arctan places (div places a b)) -
      Real.arctan (real places a / real places b)| ≤ 2 / 10 ^ 50 := by
  have quotient := @below_quotient places _ a positive
  have divisor := @real_pos places _ positive
  have small : real places a / real places b ≤ 1 := by
    rw [div_le_one divisor]
    exact div_le_div_of_nonneg_right (Int.cast_le.mpr order) (by positivity)
  have forward : 0 ≤ div places a b :=
    Int.ediv_nonneg (Int.mul_nonneg nonneg one_positive.le) positive.le
  have angle := arctan_near working forward (quotient.le.trans small)
  have moved := (abs_arctan_sub_arctan_le _ _).trans quotient.near
  have last := working.unit_le
  have tiny : (1 : ℝ) / 2 ^ 192 ≤ 1 / 10 ^ 50 := by norm_num
  have := abs_sub_le (real places (arctan places (div places a b)))
    (Real.arctan (real places (div places a b))) (Real.arctan (real places a / real places b))
  refine this.trans ((add_le_add angle (moved.trans (last.trans tiny))).trans_eq ?_)
  norm_num

/-- The sine and the cosine computed from it are near the unit circle. -/
theorem circle_near {s : Int} (small : |real places s| ≤ 1) :
    |real places s ^ 2 + real places (sqrt places (one places - mul places s s)) ^ 2 - 1| ≤
      4 * unit places := by
  obtain ⟨low, high⟩ := @below_mul places s s
  have last := @unit_pos places
  have unit_le : unit places ≤ 1 := by
    rw [unit, div_le_one (by positivity)]
    exact one_le_pow₀ one_le_two
  have square : real places s ^ 2 ≤ 1 := by
    rw [← sq_abs]
    exact pow_le_one₀ (abs_nonneg _) small
  have squares : 0 ≤ real places (mul places s s) :=
    real_nonneg (Int.ediv_nonneg (mul_self_nonneg s) one_positive.le)
  have rest : real places (one places - mul places s s) = 1 - real places (mul places s s) := by
    rw [real_sub, real_one]
  have nonneg : 0 ≤ one places - mul places s s := by
    rw [← @real_nonneg_iff places, rest]
    linarith
  obtain ⟨below, above⟩ := @below_sqrt places _ nonneg
  have forward := @real_nonneg places _ (@sqrt_nonneg places
    (one places - mul places s s))
  rw [rest] at below above
  generalize real places (sqrt places (one places - mul places s s)) = C at *
  have short := (Real.le_sqrt forward (by linarith)).mp below
  have long := (Real.sqrt_lt' (by linarith)).mp above
  have one_le : C ≤ 1 := by nlinarith
  have wider : (C + unit places) ^ 2 ≤ C ^ 2 + 3 * unit places := by nlinarith
  rw [abs_le]
  constructor <;> linarith [sq (real places s)]

structure HasSine (places : Nat) (sine angle : Int) : Prop where
  near : |Real.sin (real places angle) - real places sine| ≤ 1 / 10 ^ 49
  least : -(1 / 10 ^ 49) ≤ real places angle
  most : real places angle ≤ Real.pi / 2 + 1 / 10 ^ 49

theorem hasSine_angleOf (working : Working places) {s : Int} (positive : 0 < s)
    (small : real places s ≤ 1) : HasSine places s (angleOf places s) := by
  have forward := @real_pos places _ positive
  have circle := @circle_near places s (by rwa [abs_of_pos forward])
  have nonneg := @sqrt_nonneg places (one places - mul places s s)
  have last := working.unit_le
  have tiny : (1 : ℝ) / 2 ^ 192 ≤ 1 / 10 ^ 50 := by norm_num
  -- any angle near one in the first quarter with that height on the circle will do
  have enough (a : Int) (A : ℝ) (near : |real places a - A| ≤ 3 / 10 ^ 50) (least : 0 ≤ A)
      (most : A ≤ Real.pi / 2) (height : Real.sin A = real places s /
        √(real places s ^ 2 + real places (sqrt places (one places - mul places s s)) ^ 2)) :
      HasSine places s a := by
    have sine := (Real.abs_sin_sub_sin_le (real places a) A).trans near
    have high := height_near forward circle
    rw [← height] at high
    have apart := abs_sub_le (Real.sin (real places a)) (Real.sin A) (real places s)
    obtain ⟨low, up⟩ := abs_le.mp near
    have scale : (7 : ℝ) / 10 ^ 50 ≤ 1 / 10 ^ 49 := by norm_num
    constructor
    · linarith
    · linarith
    · linarith
  unfold angleOf
  dsimp only
  split
  · next order =>
    have other := positive.trans_le order
    have cosine := @real_pos places _ other
    refine enough _ _ ((arctan_div_near working positive.le other order).trans ?_)
      (Real.arctan_nonneg.mpr (by positivity)) (Real.arctan_lt_pi_div_two _).le (sin_arctan_div cosine)
    norm_num
  · next order =>
    have angle := arctan_div_near working nonneg positive (not_le.mp order).le
    obtain ⟨-, right⟩ := right_near working
    have cosine := @real_nonneg places _ nonneg
    refine enough _ _ ?_ (sub_nonneg.mpr (Real.arctan_lt_pi_div_two _).le)
      (sub_le_self _ (Real.arctan_nonneg.mpr (by positivity)))
      ((Real.sin_pi_div_two_sub _).trans (cos_arctan_div forward))
    rw [real_sub, sub_sub_sub_comm]
    refine (abs_sub _ _).trans ((add_le_add right angle).trans ?_)
    norm_num

end GeoSearch.Trigonometry
