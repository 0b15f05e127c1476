import GeoSearch.Proofs.Binary64.Approximation
import GeoSearch.Proofs.Geometry.World
import GeoSearch.Proofs.Geometry.Distance
import GeoSearch.Proofs.Trigonometry.Rounded
/-!
Great-circle distances are no shorter than the way along a meridian from one latitude to the other, even
as they are computed.
-/
namespace GeoSearch.Distance

open Binary64 (value Rounds)

variable {x y limit : Float} {a b : Coord Float}

/-! ### Angles of latitudes -/

def quarterTurn : Float := toRadians 90.0

theorem value_radiansPerDegree : radiansPerDegree.isFinite = true ∧
    17453292519943 / 10 ^ 15 ≤ value radiansPerDegree ∧
    value radiansPerDegree ≤ 17453292519944 / 10 ^ 15 := by
  decide +kernel

theorem value_quarterTurn : quarterTurn.isFinite = true ∧ 0 ≤ value quarterTurn ∧
    value quarterTurn ≤ 15707963267948966 / 10 ^ 16 := by
  decide +kernel

theorem quarterTurn_le : (value quarterTurn : ℝ) ≤ Real.pi / 2 - 1 / 10 ^ 17 := by
  have most := Rat.cast_le (K := ℝ).mpr value_quarterTurn.2.2
  have turn := Real.pi_gt_d20
  push_cast at most
  norm_num at most turn ⊢
  linarith

theorem value_ninety : (90.0 : Float).isFinite = true ∧ value 90.0 = 90 := by decide +kernel

/-- The angle of a latitude. -/
theorem toRadians_latitude (finite : y.isFinite = true) (size : |value y| ≤ 90) :
    Approximates (toRadians y) (value y * value radiansPerDegree) 2 (2 / 2 ^ 51) ∧
      |value (toRadians y)| ≤ value quarterTurn := by
  obtain ⟨factor, least, most⟩ := value_radiansPerDegree
  obtain ⟨ninety, exact⟩ := value_ninety
  have rounds := Binary64.rounds_mul finite factor
  have top := Binary64.rounds_mul ninety factor
  rw [exact] at top
  have positive : 0 < value radiansPerDegree := lt_of_lt_of_le (by norm_num) least
  obtain ⟨low, high⟩ := abs_le.mp size
  have bound : |value y * value radiansPerDegree| ≤ (2 : Nat) := by
    rw [abs_mul, abs_of_pos positive]
    calc |value y| * value radiansPerDegree ≤ 90 * (17453292519944 / 10 ^ 15) :=
          mul_le_mul size most positive.le (by norm_num)
      _ ≤ (2 : Nat) := by norm_num
  refine ⟨?_, ?_⟩
  · have near := Approximates.of_rounds (q := value y * value radiansPerDegree) (e := 0) rounds (by decide)
      (by decide) bound (by simp)
    exact near.mono le_rfl (by norm_num)
  · rw [abs_le]
    constructor
    · have bottom := Binary64.rounds_mul (Binary64.finite_neg ninety) factor
      have opposite : value (-90.0 * radiansPerDegree) = -value quarterTurn := by decide +kernel
      rw [Binary64.value_neg ninety, exact] at bottom
      rw [← opposite]
      exact bottom.mono rounds (mul_le_mul_of_nonneg_right low positive.le)
    · exact rounds.mono top (mul_le_mul_of_nonneg_right high positive.le)

def halfAngle (a b : Coord Float) : Float := (toRadians b.y - toRadians a.y) / 2.0

theorem halfAngle_near (here : a.InWorld) (there : b.InWorld) :
    Approximates (halfAngle a b) ((value b.y - value a.y) * value radiansPerDegree / 2) 2 (6 / 2 ^ 51) ∧
      |value (halfAngle a b)| ≤ value quarterTurn := by
  obtain ⟨finite, -, south⟩ := Coord.inWorld_iff_abs.mp here
  obtain ⟨finite', -, north⟩ := Coord.inWorld_iff_abs.mp there
  obtain ⟨first, low⟩ := toRadians_latitude finite.2 south
  obtain ⟨second, high⟩ := toRadians_latitude finite'.2 north
  obtain ⟨turn, nonneg, most⟩ := value_quarterTurn
  obtain ⟨two, exact⟩ := Binary64.two_exact
  obtain ⟨whole, double⟩ : (toRadians 180.0).isFinite = true ∧
      value (toRadians 180.0) = 2 * value quarterTurn := by decide +kernel
  have difference := second.sub first (by decide) (by decide)
  have rounds := Binary64.rounds_sub second.finite first.finite
  have divided := Binary64.rounds_div difference.finite two (by rw [exact]; norm_num)
  rw [abs_le] at low high
  obtain ⟨-, left, right⟩ := rounds.within (Binary64.finite_neg whole) whole
    (by rw [Binary64.value_neg whole, double]; linarith) (by rw [double]; linarith)
  rw [Binary64.value_neg whole, double] at left
  rw [double] at right
  rw [exact] at divided
  obtain ⟨-, least, greatest⟩ := divided.within (Binary64.finite_neg turn) turn
    (by rw [Binary64.value_neg turn]; linarith) (by linarith)
  rw [Binary64.value_neg turn] at least
  refine ⟨?_, abs_le.mpr ⟨least, greatest⟩⟩
  have size : |value (toRadians b.y - toRadians a.y) / 2| ≤ (2 : Nat) := by
    rw [abs_le]
    norm_num at most ⊢
    constructor <;> linarith
  have near : |value (toRadians b.y - toRadians a.y) / 2 -
      (value b.y - value a.y) * value radiansPerDegree / 2| ≤ 4 / 2 ^ 51 := by
    rw [← sub_div, abs_div, abs_two, div_le_iff₀ two_pos, sub_mul]
    exact difference.near.trans (by norm_num)
  exact (Approximates.of_rounds divided (by decide) (by decide) size near).mono le_rfl (by norm_num)

/-! ### The sine of half of the angle between two positions, squared -/

/-- A product that is not negative, of numbers that integers bound. -/
theorem mul_within (left : x.isFinite = true) (right : y.isFinite = true) {m n : Nat}
    (first : |value x| ≤ m) (second : |value y| ≤ n) (sign : 0 ≤ value x * value y)
    (short : m * n < 2 ^ 53) :
    (x * y).isFinite = true ∧ |value (x * y)| ≤ (m * n : Nat) ∧ 0 ≤ value (x * y) := by
  have rounds := Binary64.rounds_mul left right
  obtain ⟨finite, size⟩ := rounds.abs_value_le short (by
    rw [abs_mul, Nat.cast_mul]
    exact mul_le_mul first second (abs_nonneg _) (Nat.cast_nonneg m))
  exact ⟨finite, size, Binary64.nearest_zero.2.ge.trans (rounds.le_value Binary64.nearest_zero.1
    (Binary64.nearest_zero.2.trans_le sign))⟩

/-- The cosine of a latitude. -/
theorem cos_latitude (finite : y.isFinite = true) (size : |value y| ≤ 90) :
    (Trigonometry.cos (toRadians y)).isFinite = true ∧ |value (Trigonometry.cos (toRadians y))| ≤ (2 : Nat) ∧
      0 ≤ value (Trigonometry.cos (toRadians y)) := by
  obtain ⟨near, bound⟩ := toRadians_latitude finite size
  obtain ⟨known, most⟩ := Trigonometry.cos_within near.finite (near.size.trans (by norm_num))
  refine ⟨known, most, Trigonometry.cos_nonneg near.finite (le_trans ?_ quarterTurn_le)⟩
  exact_mod_cast bound

def squaredSine (a b : Coord Float) : Float :=
  let sinLat := Trigonometry.sin (halfAngle a b)
  let sinLon := Trigonometry.sin (toRadians (b.x - a.x) / 2.0)
  sinLat * sinLat + Trigonometry.cos (toRadians a.y) * Trigonometry.cos (toRadians b.y) * (sinLon * sinLon)

theorem haversine_eq (a b : Coord Float) :
    haversine a b = 2.0 * earthRadius * Trigonometry.arcsin (squaredSine a b).sqrt :=
  rfl

theorem turn_within (here : a.InWorld) (there : b.InWorld) :
    (toRadians (b.x - a.x) / 2.0).isFinite = true ∧ |value (toRadians (b.x - a.x) / 2.0)| ≤ (4 : Nat) := by
  obtain ⟨finite, west, -⟩ := Coord.inWorld_iff_abs.mp here
  obtain ⟨finite', east, -⟩ := Coord.inWorld_iff_abs.mp there
  obtain ⟨factor, least, most⟩ := value_radiansPerDegree
  obtain ⟨two, exact⟩ := Binary64.two_exact
  obtain ⟨known, far⟩ := (Binary64.rounds_sub finite'.1 finite.1).abs_value_le (n := 360) (by decide)
    ((abs_sub _ _).trans ((add_le_add east west).trans_eq (by norm_num)))
  have positive : 0 < value radiansPerDegree := lt_of_lt_of_le (by norm_num) least
  obtain ⟨radians, angle⟩ := (Binary64.rounds_mul known factor).abs_value_le (n := 7) (by decide) (by
    rw [abs_mul, abs_of_pos positive]
    refine (mul_le_mul far most positive.le (by positivity)).trans ?_
    norm_num)
  refine (Binary64.rounds_div radians two (by rw [exact]; norm_num)).abs_value_le (by decide) ?_
  rw [exact, abs_div, abs_two, div_le_iff₀ two_pos]
  exact angle.trans (by norm_num)

theorem sin_halfAngle (here : a.InWorld) (there : b.InWorld) :
    (Trigonometry.sin (halfAngle a b)).isFinite = true ∧
      |value (Trigonometry.sin (halfAngle a b))| ≤ (2 : Nat) := by
  obtain ⟨near, -⟩ := halfAngle_near here there
  exact Trigonometry.sin_within near.finite (near.size.trans (by norm_num))

/-- The square is no less than the part of it that the latitudes make. -/
theorem squaredSine_within (here : a.InWorld) (there : b.InWorld) :
    (squaredSine a b).isFinite = true ∧ 0 ≤ value (squaredSine a b) ∧
      value (Trigonometry.sin (halfAngle a b) * Trigonometry.sin (halfAngle a b)) ≤
        value (squaredSine a b) := by
  obtain ⟨finite, -, south⟩ := Coord.inWorld_iff_abs.mp here
  obtain ⟨finite', -, north⟩ := Coord.inWorld_iff_abs.mp there
  obtain ⟨turn, wide⟩ := turn_within here there
  obtain ⟨sinLat, bound⟩ := sin_halfAngle here there
  obtain ⟨sinLon, bound'⟩ := Trigonometry.sin_within turn (by exact_mod_cast wide)
  obtain ⟨cos, less, sign⟩ := cos_latitude finite.2 south
  obtain ⟨cos', less', sign'⟩ := cos_latitude finite'.2 north
  obtain ⟨first, short, some⟩ := mul_within sinLat sinLat bound bound (mul_self_nonneg _) (by decide)
  obtain ⟨second, short', some'⟩ := mul_within (m := 2) (n := 2) sinLon sinLon bound' bound'
    (mul_self_nonneg _) (by decide)
  obtain ⟨third, low, forward⟩ := mul_within cos cos' less less' (mul_nonneg sign sign') (by decide)
  obtain ⟨fourth, low', forward'⟩ := mul_within third second low short' (mul_nonneg forward some')
    (by decide)
  have rounds := Binary64.rounds_add first fourth
  obtain ⟨known, -⟩ := rounds.abs_value_le (n := 20) (by decide)
    ((abs_add_le _ _).trans ((add_le_add short low').trans_eq (by norm_num)))
  have least := rounds.le_value first (le_add_of_nonneg_right forward')
  exact ⟨known, some.trans least, least⟩

theorem halfAngle_le (here : a.InWorld) (there : b.InWorld) :
    |(value (halfAngle a b) : ℝ)| ≤ Real.pi / 2 := by
  have bound : |(value (halfAngle a b) : ℝ)| ≤ value quarterTurn := by
    exact_mod_cast (halfAngle_near here there).2
  have most := quarterTurn_le
  norm_num at most
  linarith

/-- A square is hardly smaller than the exact one. -/
theorem le_square (finite : x.isFinite = true) (least : 1 / 10 ^ 16 ≤ |(value x : ℝ)|)
    (most : |(value x : ℝ)| ≤ 2) : |(value x : ℝ)| ^ 2 * (1 - 1 / 2 ^ 51) ≤ value (x * x) := by
  have square : |((value x * value x : Rat) : ℝ)| = |(value x : ℝ)| ^ 2 := by
    rw [Rat.cast_mul, abs_mul, sq]
  have exact : ((value x * value x : Rat) : ℝ) = |(value x : ℝ)| ^ 2 := by
    rw [sq_abs, sq, Rat.cast_mul]
  obtain ⟨-, moved⟩ := (Binary64.rounds_mul finite finite).near
    (square.ge.trans' (le_trans (by norm_num) (pow_le_pow_left₀ (by positivity) least 2)))
    (square.trans_le ((pow_le_pow_left₀ (abs_nonneg _) most 2).trans (by norm_num)))
  rw [square, exact, abs_le] at moved
  linarith

/-- So the sine that a distance is computed from is hardly smaller than that of the latitudes. -/
theorem sine_le_root (here : a.InWorld) (there : b.InWorld)
    (apart : 1 / 10 ^ 15 ≤ |(value (halfAngle a b) : ℝ)|) :
    Real.sin |(value (halfAngle a b) : ℝ)| * (1 - 1 / 2 ^ 48) ≤ value (squaredSine a b).sqrt := by
  obtain ⟨known, nonneg, least⟩ := squaredSine_within here there
  obtain ⟨finite, size⟩ := sin_halfAngle here there
  have quarter := halfAngle_le here there
  have sine := Trigonometry.le_abs_sin (halfAngle_near here there).1.finite quarter
  rw [Real.abs_sin_eq_sin_abs_of_abs_le_pi (by linarith [Real.pi_pos])] at sine
  have height := Trigonometry.half_le_sin (abs_nonneg _) quarter
  obtain ⟨-, root⟩ := Binary64.sqrt_near known nonneg
  generalize Real.sin |(value (halfAngle a b) : ℝ)| = σ at *
  generalize Trigonometry.sin (halfAngle a b) = s at *
  have tall : 1 / 10 ^ 16 ≤ |(value s : ℝ)| := by
    norm_num at apart sine ⊢
    linarith
  have square := le_square finite tall (by exact_mod_cast size)
  have long : |(value s : ℝ)| * (1 - 1 / 2 ^ 51) ≤ √(value (squaredSine a b)) := by
    refine Real.le_sqrt_of_sq_le ?_
    calc (|(value s : ℝ)| * (1 - 1 / 2 ^ 51)) ^ 2 = |(value s : ℝ)| ^ 2 * (1 - 1 / 2 ^ 51) ^ 2 := mul_pow _ _ 2
      _ ≤ |(value s : ℝ)| ^ 2 * (1 - 1 / 2 ^ 51) := mul_le_mul_of_nonneg_left (by norm_num) (sq_nonneg _)
      _ ≤ value (s * s) := square
      _ ≤ value (squaredSine a b) := by exact_mod_cast least
  rw [abs_le] at root
  norm_num at sine long root tall ⊢
  linarith

/-! ### Distances -/

theorem value_diameter : (2.0 * earthRadius).isFinite = true ∧
    127420175427 / 10 ^ 4 ≤ value (2.0 * earthRadius) ∧
    value (2.0 * earthRadius) ≤ 13 * 10 ^ 6 := by
  decide +kernel

/-- A distance that is less than a limit is a number. -/
theorem root_of_near (here : a.InWorld) (there : b.InWorld) (near : haversine a b ≤ limit) :
    (squaredSine a b).sqrt.isFinite = true ∧ 0 ≤ value (squaredSine a b).sqrt ∧
      value (squaredSine a b).sqrt ≤ 1 := by
  obtain ⟨known, nonneg, -⟩ := squaredSine_within here there
  obtain ⟨finite, root⟩ := Binary64.sqrt_near known nonneg
  have positive := Real.sqrt_nonneg (value (squaredSine a b))
  refine ⟨finite, ?_, ?_⟩
  · rw [abs_le] at root
    norm_num at root
    exact_mod_cast (by linarith : (0 : ℝ) ≤ value (squaredSine a b).sqrt)
  · by_contra large
    rw [haversine_eq, Trigonometry.arcsin_of_large finite (not_le.mp large), Binary64.mul_nan] at near
    exact Binary64.not_nan_le limit near

/-- A limit is little less than the arc of any angle with about the sine of the distance. -/
theorem arc_le_limit (here : a.InWorld) (there : b.InWorld) (finite : limit.isFinite = true)
    (near : haversine a b ≤ limit) {θ : ℝ} (nonneg : 0 ≤ θ) (quarter : θ ≤ Real.pi / 2)
    (height : Real.sin θ * (1 - 1 / 2 ^ 48) ≤ value (squaredSine a b).sqrt) :
    127420175427 / 10 ^ 4 * (θ * (1 - 7 / 10 ^ 7)) ≤ value limit + 1 / 10 ^ 60 := by
  obtain ⟨known, forward, most⟩ := root_of_near here there near
  obtain ⟨diameter, long, short⟩ := value_diameter
  obtain ⟨angle, small, large⟩ := Trigonometry.le_arcsin known forward most nonneg quarter height
  rw [haversine_eq] at near
  generalize Trigonometry.arcsin (squaredSine a b).sqrt = A at *
  generalize 2.0 * earthRadius = D at *
  have rounds := Binary64.rounds_mul diameter angle
  have angle_nonneg : 0 ≤ value A := by
    have : 0 ≤ θ * (1 - 6 / 10 ^ 7) := mul_nonneg nonneg (by norm_num)
    exact_mod_cast this.trans large
  have product : 0 ≤ value D * value A := mul_nonneg (le_trans (by norm_num) long) angle_nonneg
  have bound : value D * value A ≤ 13 * 10 ^ 6 * 2 := mul_le_mul short small angle_nonneg (by norm_num)
  obtain ⟨arc, -⟩ := rounds.abs_value_le (n := 26 * 10 ^ 6) (by decide)
    ((abs_of_nonneg product).trans_le (bound.trans (by norm_num)))
  have order : (value (D * A) : ℝ) ≤ value limit := by
    exact_mod_cast (Binary64.le_iff arc finite).mp near
  have wide := Rat.cast_le (K := ℝ).mpr long
  push_cast at wide
  have whole : 127420175427 / 10 ^ 4 * (θ * (1 - 6 / 10 ^ 7)) ≤ ((value D * value A : Rat) : ℝ) := by
    rw [Rat.cast_mul]
    exact mul_le_mul wide large (mul_nonneg nonneg (by norm_num)) (le_trans (by norm_num) wide)
  have rounded := rounds.hardly_smaller product (bound.trans (by norm_num))
  norm_num at whole rounded ⊢
  linarith

/-- The angle between two latitudes, up to rounding. -/
theorem degrees_le (here : a.InWorld) (there : b.InWorld) :
    17453292519943 / 10 ^ 15 * |((value b.y - value a.y : Rat) : ℝ)| ≤
      2 * |(value (halfAngle a b) : ℝ)| + 12 / 2 ^ 51 := by
  have moved := Rat.cast_le (K := ℝ).mpr (halfAngle_near here there).1.near
  have factor := Rat.cast_le (K := ℝ).mpr value_radiansPerDegree.2.1
  push_cast at moved factor ⊢
  have positive : (0 : ℝ) < value radiansPerDegree := lt_of_lt_of_le (by norm_num) factor
  have apart := abs_sub_abs_le_abs_sub
    (((value b.y - value a.y) * value radiansPerDegree / 2 : ℝ)) (value (halfAngle a b))
  rw [abs_sub_comm, abs_div, abs_mul, abs_two, abs_of_pos positive] at apart
  have less := mul_le_mul_of_nonneg_right factor (abs_nonneg (value b.y - value a.y : ℝ))
  linarith

/-- Positions within a limit of each other are within it along the meridian. -/
theorem latitude_of_near (here : a.InWorld) (there : b.InWorld) (finite : limit.isFinite = true)
    (near : haversine a b ≤ limit) : 111195 * |value b.y - value a.y| ≤ value limit + 1 / 10 ^ 7 := by
  have degrees := degrees_le here there
  have result : 111195 * |((value b.y - value a.y : Rat) : ℝ)| ≤ value limit + 1 / 10 ^ 7 := by
    rcases le_or_gt (1 / 10 ^ 15) |(value (halfAngle a b) : ℝ)| with apart | together
    · have arc := arc_le_limit here there finite near (abs_nonneg _) (halfAngle_le here there)
        (sine_le_root here there apart)
      generalize |((value b.y - value a.y : Rat) : ℝ)| = Δ at *
      norm_num at degrees arc ⊢
      linarith
    · have arc := arc_le_limit here there finite near le_rfl (by positivity) (by
        rw [Real.sin_zero, zero_mul]
        exact_mod_cast (root_of_near here there near).2.1)
      generalize |((value b.y - value a.y : Rat) : ℝ)| = Δ at *
      norm_num at degrees arc together ⊢
      linarith
  have cast : ((111195 * |value b.y - value a.y| : Rat) : ℝ) ≤ ((value limit + 1 / 10 ^ 7 : Rat) : ℝ) := by
    push_cast at result ⊢
    exact result
  exact_mod_cast cast

end GeoSearch.Distance
