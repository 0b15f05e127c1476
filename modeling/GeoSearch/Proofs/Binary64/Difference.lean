import GeoSearch.Proofs.Binary64.Rounding
/-!
Sums, differences and remainders of finite numbers. A sum or a difference that needs no more than 53 bits
is exact, and so is every remainder; a longer difference is still no less than any number below it.
-/
namespace GeoSearch.Binary64

open Float.Model (UnpackedFloat)
open Float.Model.UnpackedFloat (Sign)

variable {x y z : Float} {m e : Int}

/-! ### Rounded integers -/

def rounded (m e : Int) : Float := .ofModel (.pack (.normalize .binary64 m e .positive))

theorem value_zero (s : Sign) : (Float.ofModel (.pack (.zero s))).isFinite = true ∧
    value (.ofModel (.pack (.zero s))) = 0 := by
  have none : significand (.ofModel (.pack (.zero s))) = 0 := by cases s <;> decide
  refine ⟨by cases s <;> decide, ?_⟩
  rw [← abs_eq_zero, abs_value, magnitude_zero none]

theorem value_round {m : Nat} (s : Sign) (positive : 0 < m) (short : m < 2 ^ 53)
    (least : -1074 ≤ e) (most : e ≤ 971) :
    (Float.ofModel (.pack (.round .binary64 s m e))).isFinite = true ∧
      value (.ofModel (.pack (.round .binary64 s m e))) = s.apply m * (2 : Rat) ^ e := by
  have order : m.log2 ≤ 52 := Nat.le_of_lt_succ ((Nat.log2_lt positive.ne').mpr short)
  obtain ⟨n, f, some, round, proper, lower, same⟩ :=
    round_of_le s (e := e) positive (by omega)
  obtain ⟨finite, value⟩ := value_pack s proper some (lower.trans most)
  rw [round]
  refine ⟨finite, value.trans ?_⟩
  cases s
  · simpa [Sign.apply] using same
  · simpa [Sign.apply] using same

/-- An integer of 53 bits is not changed. -/
theorem value_rounded (short : |m| < 2 ^ 53) (least : -1074 ≤ e) (most : e ≤ 971) :
    (rounded m e).isFinite = true ∧ value (rounded m e) = m * (2 : Rat) ^ e := by
  obtain ⟨below, above⟩ := abs_lt.mp short
  unfold rounded UnpackedFloat.normalize
  rcases lt_trichotomy m 0 with negative | rfl | positive
  · rw [compare_lt_iff_lt.mpr negative]
    obtain ⟨n, rfl⟩ : ∃ n : Nat, m = -n := ⟨(-m).toNat, by omega⟩
    have magnitude := value_round (m := n) (e := e) .negative (by omega) (by omega) least most
    simpa [Sign.apply] using magnitude
  · have zero := value_zero .positive
    simpa using zero
  · rw [compare_gt_iff_gt.mpr positive]
    obtain ⟨n, rfl⟩ : ∃ n : Nat, m = n := ⟨m.toNat, by omega⟩
    have magnitude := value_round (m := n) (e := e) .positive (by omega) (by omega) least most
    simpa [Sign.apply] using magnitude

theorem value_rounded_of_lt {r : Rat} (exact : m * (2 : Rat) ^ e = r) (short : |r| < 2 ^ 53 * 2 ^ e)
    (least : -1074 ≤ e) (most : e ≤ 971) : (rounded m e).isFinite = true ∧ value (rounded m e) = r := by
  have unit : (0 : Rat) < 2 ^ e := zpow_pos (by norm_num) _
  rw [← exact, abs_mul, abs_of_pos unit] at short
  have bits : |m| < 2 ^ 53 := by exact_mod_cast lt_of_mul_lt_mul_right short unit.le
  rw [← exact]
  exact value_rounded bits least most

theorem value_of_pos (positive : 0 < value z) : value z = magnitude z := by
  unfold value at positive ⊢
  split at positive
  · exact absurd positive (not_lt.mpr (neg_nonpos.mpr (magnitude_nonneg z)))
  · next plain => exact if_neg plain

def units (x : Float) (e : Int) : Nat := significand x * 2 ^ (scale x - e).toNat

theorem magnitude_units (lower : e ≤ scale x) : (units x e : Rat) * 2 ^ e = magnitude x := by
  obtain ⟨k, raised⟩ : ∃ k : Nat, scale x = e + k := ⟨(scale x - e).toNat, by omega⟩
  rw [units, raised, add_sub_cancel_left, Int.toNat_natCast, magnitude_eq, raised,
    zpow_add₀ (by norm_num), zpow_natCast]
  push_cast
  ring

/-- Dropping the bits beyond 53 leaves an integer above every number below it. -/
theorem magnitude_le_of_long {n k : Nat} (order : n.log2 = 52 + k)
    (below : magnitude z ≤ n * (2 : Rat) ^ e) :
    magnitude z ≤ (n / 2 ^ k : Nat) * (2 : Rat) ^ (e + k) := by
  by_cases coarse : e + k ≤ scale z
  -- the number is an integer at the new scale, too
  · have unit : (0 : Rat) < 2 ^ e := zpow_pos (by norm_num) _
    rw [← magnitude_units coarse] at below ⊢
    have integer : units z (e + k) * 2 ^ k ≤ n := by
      rw [zpow_add₀ (by norm_num), zpow_natCast, mul_comm ((2 : Rat) ^ e), ← mul_assoc] at below
      exact_mod_cast le_of_mul_le_mul_right below unit
    have quotient : units z (e + k) ≤ n / 2 ^ k :=
      (Nat.le_div_iff_mul_le (Nat.two_pow_pos k)).mpr integer
    gcongr
  · have small : (significand z : Rat) ≤ 2 ^ 53 := by exact_mod_cast (significand_lt z).le
    have large : (2 : Rat) ^ 52 ≤ (n / 2 ^ k : Nat) := by exact_mod_cast (div_of_long order).1
    have step : (2 : Rat) ^ (scale z + 1) ≤ 2 ^ (e + k) :=
      zpow_le_zpow_right₀ (by norm_num) (by omega)
    rw [magnitude_eq]
    calc (significand z : Rat) * 2 ^ scale z ≤ 2 ^ 53 * 2 ^ scale z := by gcongr
      _ = 2 ^ 52 * 2 ^ (scale z + 1) := by
        rw [zpow_add_one₀ (by norm_num)]
        ring
      _ ≤ (n / 2 ^ k : Nat) * 2 ^ (e + k) := by gcongr

/-- Rounding does not go below a number. -/
theorem le_rounded (finite : z.isFinite = true) (positive : 0 < value z) (least : -1074 ≤ e)
    (below : value z ≤ m * (2 : Rat) ^ e) : z ≤ rounded m e := by
  have unit : (0 : Rat) < 2 ^ e := zpow_pos (by norm_num) _
  have above : 0 < m := by
    have product := positive.trans_le below
    exact_mod_cast (pos_iff_pos_of_mul_pos product).mpr unit
  obtain ⟨n, rfl⟩ : ∃ n : Nat, m = n := ⟨m.toNat, by omega⟩
  rw [Int.cast_natCast] at below
  obtain ⟨n', f, some, round, proper, kept⟩ : ∃ n' f some,
      UnpackedFloat.round .binary64 .positive n e = .finite .positive n' f some ∧ Proper n' f ∧
        value z ≤ n' * (2 : Rat) ^ f := by
    by_cases short : n.log2 ≤ 52
    · obtain ⟨n', f, some, round, proper, -, same⟩ :=
        round_of_le .positive (m := n) (e := e) (by omega) (by omega)
      exact ⟨n', f, some, round, proper, below.trans_eq same.symm⟩
    · obtain ⟨k, order⟩ : ∃ k, n.log2 = 52 + k := ⟨n.log2 - 52, by omega⟩
      obtain ⟨n', f, some, round, proper, kept⟩ := round_of_long .positive least order
      rw [value_of_pos positive] at below ⊢
      exact ⟨n', f, some, round, proper, (magnitude_le_of_long order below).trans kept⟩
  rw [rounded, UnpackedFloat.normalize, compare_gt_iff_gt.mpr above]
  dsimp only
  rw [Int.toNat_natCast, round]
  by_cases fits : f ≤ 971
  · obtain ⟨known, value⟩ := value_pack .positive proper some fits
    rw [le_iff finite known, value]
    exact kept
  · exact le_pack_of_large finite some (not_le.mp fits)

/-! ### Signs -/

theorem magnitude_withSign (t : Sign) (x : Float) : magnitude (withSign t x) = magnitude x := by
  rw [magnitude_eq, magnitude_eq, significand, significand, scale, scale, exponentField_withSign,
    fractionField_withSign]

theorem value_withSign (t : Sign) (finite : x.isFinite = true) :
    value (withSign t x) = match t with
      | .positive => magnitude x
      | .negative => -magnitude x := by
  cases t <;> simp [value_eq, sign_withSign _ finite, magnitude_withSign]

theorem finite_neg (finite : x.isFinite = true) : (-x).isFinite = true := by
  rw [neg_eq finite]
  exact finite_withSign _ finite

theorem value_neg (finite : x.isFinite = true) : value (-x) = -value x := by
  rw [neg_eq finite, value_withSign _ finite, value_eq x]
  cases sign x
  · exact (neg_neg _).symm
  · rfl

theorem value_copySign (finite : x.isFinite = true) :
    value (copySign x y) = if negative y then -magnitude x else magnitude x := by
  have bare := value_withSign .positive finite
  unfold copySign
  split
  · rw [abs_eq finite, value_neg (finite_withSign _ finite), bare]
  · rw [abs_eq finite, bare]

theorem finite_copySign (finite : x.isFinite = true) : (copySign x y).isFinite = true := by
  have bare := finite_withSign .positive finite
  unfold copySign
  split
  · rw [abs_eq finite]
    exact finite_neg bare
  · rw [abs_eq finite]
    exact bare

/-! ### Sums and differences -/

def aligned (x : Float) (e : Int) : Int := (sign x).apply (units x e)

theorem value_aligned (lower : e ≤ scale x) : (aligned x e : Rat) * 2 ^ e = value x := by
  rw [aligned, value_eq, ← magnitude_units lower]
  cases sign x <;> simp [Sign.apply]

theorem unpack_nonzero (finite : x.isFinite = true) (nonzero : value x ≠ 0) :
    ∃ positive, x.toModel.unpack = .finite (sign x) (significand x) (scale x) positive := by
  rcases unpack_finite finite with ⟨zero, -⟩ | unpacked
  · refine absurd ?_ nonzero
    rw [value_eq, magnitude_zero zero]
    cases sign x <;> simp
  · exact unpacked

theorem unpack_zero (finite : x.isFinite = true) (zero : value x = 0) :
    x.toModel.unpack = .zero (sign x) := by
  rcases unpack_finite finite with ⟨-, unpacked⟩ | ⟨some, -⟩
  · exact unpacked
  · have positive := magnitude_pos some
    rw [value_eq] at zero
    cases signed : sign x <;> simp [signed, positive.ne'] at zero

theorem scale_range (finite : x.isFinite = true) : -1074 ≤ scale x ∧ scale x ≤ 971 := by
  have field := (finite_iff x).mp finite
  unfold scale
  split <;> omega

section

variable (left : x.isFinite = true) (right : y.isFinite = true) (nonzero : value x ≠ 0)
  (nonzero' : value y ≠ 0)

include left right nonzero nonzero'

theorem sub_eq_rounded : x - y =
    rounded (aligned x (min (scale x) (scale y)) - aligned y (min (scale x) (scale y)))
      (min (scale x) (scale y)) := by
  have model : x - y = .ofModel (.pack (.sub .binary64 x.toModel.unpack y.toModel.unpack)) := rfl
  obtain ⟨_, first⟩ := unpack_nonzero left nonzero
  obtain ⟨_, second⟩ := unpack_nonzero right nonzero'
  rw [model, first, second]
  simp only [UnpackedFloat.sub, UnpackedFloat.decreaseExponent, Nat.shiftLeft_eq, rounded, aligned,
    units]

theorem add_eq_rounded : x + y =
    rounded (aligned x (min (scale x) (scale y)) + aligned y (min (scale x) (scale y)))
      (min (scale x) (scale y)) := by
  have model : x + y = .ofModel (.pack (.add .binary64 x.toModel.unpack y.toModel.unpack)) := rfl
  obtain ⟨_, first⟩ := unpack_nonzero left nonzero
  obtain ⟨_, second⟩ := unpack_nonzero right nonzero'
  rw [model, first, second]
  simp only [UnpackedFloat.add, UnpackedFloat.decreaseExponent, Nat.shiftLeft_eq, rounded, aligned,
    units]

/-- A difference of 53 bits is exact. -/
theorem value_sub (short : |value x - value y| < 2 ^ 53 * 2 ^ min (scale x) (scale y)) :
    (x - y).isFinite = true ∧ value (x - y) = value x - value y := by
  have first := scale_range left
  have second := scale_range right
  rw [sub_eq_rounded left right nonzero nonzero']
  refine value_rounded_of_lt ?_ short (by omega) (by omega)
  rw [Int.cast_sub, sub_mul, value_aligned (min_le_left _ _), value_aligned (min_le_right _ _)]

/-- A sum of 53 bits is exact. -/
theorem value_add (short : |value x + value y| < 2 ^ 53 * 2 ^ min (scale x) (scale y)) :
    (x + y).isFinite = true ∧ value (x + y) = value x + value y := by
  have first := scale_range left
  have second := scale_range right
  rw [add_eq_rounded left right nonzero nonzero']
  refine value_rounded_of_lt ?_ short (by omega) (by omega)
  rw [Int.cast_add, add_mul, value_aligned (min_le_left _ _), value_aligned (min_le_right _ _)]

end

theorem ofModel_pack_unpack (x : Float) : Float.ofModel (.pack x.toModel.unpack) = x := by
  apply eq_of_toBits
  exact UInt64.toBitVec_inj.mp (pack_unpack x)

/-- A difference does not go below a positive number that the exact one is not below of. -/
theorem le_sub (left : x.isFinite = true) (right : y.isFinite = true) (known : z.isFinite = true)
    (positive : 0 < value z) (below : value z ≤ value x - value y) : z ≤ x - y := by
  have model : x - y = .ofModel (.pack (.sub .binary64 x.toModel.unpack y.toModel.unpack)) := rfl
  by_cases first : value x = 0
  · rw [first, zero_sub] at below
    have nonzero : value y ≠ 0 := by linarith
    obtain ⟨_, number⟩ := unpack_nonzero right nonzero
    have opposite : x - y = -y := by
      have negated : -y = .ofModel (.pack y.toModel.unpack.neg) := rfl
      rw [model, negated, unpack_zero left first, number]
      rfl
    rw [opposite, le_iff known (finite_neg right), value_neg right]
    exact below
  by_cases second : value y = 0
  · rw [second, sub_zero] at below
    obtain ⟨_, number⟩ := unpack_nonzero left first
    have same : x - y = x := by
      rw [model, unpack_zero right second]
      conv_rhs => rw [← ofModel_pack_unpack x]
      rw [number]
      rfl
    rw [same, le_iff known left]
    exact below
  · have least := scale_range left
    have least' := scale_range right
    rw [sub_eq_rounded left right first second]
    refine le_rounded known positive (by omega) ?_
    rw [Int.cast_sub, sub_mul, value_aligned (min_le_left _ _), value_aligned (min_le_right _ _)]
    exact below

/-! ### Remainders -/

/-- A magnitude of 53 bits is the value of a number. -/
theorem value_nearest {n : Nat} (short : n < 2 ^ 53) (least : -1074 ≤ e) (most : e ≤ 971) :
    (nearest (n * 2 ^ e)).isFinite = true ∧ value (nearest (n * 2 ^ e)) = n * 2 ^ e ∧
      magnitude (nearest (n * 2 ^ e)) = n * 2 ^ e := by
  have unit : (0 : Rat) < 2 ^ e := zpow_pos (by norm_num) _
  have bits : |(n : Int)| < 2 ^ 53 := by
    rw [Nat.abs_cast]
    exact_mod_cast short
  obtain ⟨finite, exact⟩ := value_rounded bits least most
  have magnitude : magnitude (rounded n e) = n * 2 ^ e := by
    rw [← abs_value, exact, Int.cast_natCast, abs_of_nonneg (by positivity)]
  rw [← magnitude, nearest_magnitude finite, abs_eq finite]
  exact ⟨finite_withSign _ finite, value_withSign _ finite, magnitude_withSign _ _⟩

/-- What is left of a magnitude after division by another one. -/
def rest (x y : Float) : Rat := magnitude x - magnitude y * ((magnitude x / magnitude y).floor : Int)

/-- The rest is as many units as there are left. -/
theorem rest_eq (divisor : 0 < magnitude y) :
    rest x y = (units x (min (scale x) (scale y)) % units y (min (scale x) (scale y)) : Nat) *
      2 ^ min (scale x) (scale y) := by
  have unit : (0 : Rat) < 2 ^ min (scale x) (scale y) := zpow_pos (by norm_num) _
  have first := magnitude_units (min_le_left (scale x) (scale y))
  have second := magnitude_units (min_le_right (scale x) (scale y))
  generalize units x (min (scale x) (scale y)) = a at first ⊢
  generalize units y (min (scale x) (scale y)) = b at second ⊢
  have some : b ≠ 0 := by
    rintro rfl
    rw [Nat.cast_zero, zero_mul] at second
    exact divisor.ne second
  have quotient : (magnitude x / magnitude y).floor = (a / b : Nat) := by
    rw [← first, ← second, mul_div_mul_right _ _ unit.ne']
    exact Rat.floor_natCast_div_natCast a b
  have division : (a : Rat) = b * (a / b : Nat) + (a % b : Nat) := by
    exact_mod_cast (Nat.div_add_mod a b).symm
  rw [rest, quotient, ← first, ← second, Int.cast_natCast]
  linear_combination 2 ^ min (scale x) (scale y) * division

/-- A remainder is exact. -/
theorem value_remainder (left : x.isFinite = true) (right : y.isFinite = true)
    (divisor : 0 < magnitude y) : (remainder x y).isFinite = true ∧
      value (remainder x y) = if negative x then -rest x y else rest x y := by
  have steps : remainder x y = copySign (nearest (rest x y)) x := by
    rw [remainder, left, right, bne_zero divisor]
    rfl
  have first := scale_range left
  have second := scale_range right
  -- one of the two is at the lesser scale, so that the units left are no more than 53 bits
  have short : units x (min (scale x) (scale y)) % units y (min (scale x) (scale y)) < 2 ^ 53 := by
    have positive : 0 < units y (min (scale x) (scale y)) := by
      refine Nat.pos_of_ne_zero fun zero => ?_
      rw [← magnitude_units (min_le_right (scale x) (scale y)), zero, Nat.cast_zero, zero_mul] at divisor
      exact lt_irrefl 0 divisor
    rcases min_choice (scale x) (scale y) with least | least <;> rw [least] at positive ⊢
    · refine (Nat.mod_le _ _).trans_lt ?_
      simpa [units] using significand_lt x
    · refine (Nat.mod_lt _ positive).trans ?_
      simpa [units] using significand_lt y
  obtain ⟨finite, -, magnitude⟩ :=
    value_nearest (e := min (scale x) (scale y)) short (by omega) (by omega)
  rw [← rest_eq divisor] at finite magnitude
  rw [steps, value_copySign finite, magnitude]
  exact ⟨finite_copySign finite, rfl⟩

end GeoSearch.Binary64
