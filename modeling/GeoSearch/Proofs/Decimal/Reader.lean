import GeoSearch.Proofs.Binary64.Arithmetic
import GeoSearch.Proofs.Binary64.Infinite
import GeoSearch.Proofs.Decimal.Layout
/-!
Reading a decimal gives the number nearest to it. The shortest decimal of a number lies in the interval of
what is rounded to the number, so that a measured text reads back to the number that was written.
-/
namespace GeoSearch

namespace Binary64

open Float.Model (UnpackedFloat)

variable {q : Rat} {x : Float} {m : Nat}

/-! ### Overflow and underflow -/

theorem fields_infinity : rank infinity = ranks ∧ negative infinity = false := by decide

theorem fields_zero : rank 0.0 = 0 ∧ negative 0.0 = false := by decide

theorem nearest_of_large (large : (2 : Rat) ^ (1024 : Int) ≤ q) : nearest q = infinity := by
  have positive : 0 < q := (zpow_pos (by norm_num) _).trans_le large
  obtain ⟨rank, sign⟩ := rank_nearest positive
  obtain ⟨most, plain⟩ := fields_infinity
  have order := (zpow_lt_zpow_iff_right₀ (a := (2 : Rat)) (by norm_num)).mp
    (large.trans_lt (binaryOrder_spec positive).2)
  have coarse : 972 ≤ grid q := by
    unfold grid
    omega
  have range := significand_range positive
  refine eq_of_rank (sign.trans plain.symm) (rank.trans (Eq.trans ?_ most.symm))
  rw [magnitudeBits_eq]
  unfold ranks
  omega

theorem nearest_of_small (positive : 0 < q) (small : q < 2 ^ (-1075 : Int)) : nearest q = 0.0 := by
  obtain ⟨rank, sign⟩ := rank_nearest positive
  obtain ⟨least, plain⟩ := fields_zero
  have order := (zpow_lt_zpow_iff_right₀ (a := (2 : Rat)) (by norm_num)).mp
    ((binaryOrder_spec positive).1.trans_lt small)
  have fine : grid q = -1074 := by
    unfold grid
    omega
  have unit : (0 : Rat) < 2 ^ (-1074 : Int) := zpow_pos (by norm_num) _
  have below : q / 2 ^ (-1074 : Int) < 1 / 2 := by
    rw [div_lt_iff₀ unit]
    refine small.trans_eq ?_
    rw [show (-1075 : Int) = -1 + -1074 by norm_num, zpow_add₀ (by norm_num)]
    norm_num
  have floor : (q / 2 ^ (-1074 : Int)).floor = 0 :=
    floor_eq (by rw [Int.cast_zero]; positivity) (by linarith)
  have none : roundHalfEven (q / 2 ^ (-1074 : Int)) = 0 := by
    rw [roundHalfEven, floor, half_eq, Int.cast_zero, sub_zero, if_pos below]
  refine eq_of_rank (sign.trans plain.symm) (rank.trans (Eq.trans ?_ least.symm))
  rw [magnitudeBits_eq, fine, none]
  rfl

/-! ### Scientific numbers -/

/-- The powers of ten that a number holds exactly. -/
theorem value_tens : ∀ e : Fin Float.exactlyRepresentablePowersOfTen.size,
    Float.exactlyRepresentablePowersOfTen[e].isFinite = true ∧
      value Float.exactlyRepresentablePowersOfTen[e] = 10 ^ e.val := by
  decide +kernel

theorem value_ofNat (short : m < 2 ^ 53) :
    m.toUInt64.toFloat.isFinite = true ∧ value m.toUInt64.toFloat = m := by
  have whole : m.toUInt64.toNat = m := by
    rw [Nat.toUInt64_eq, UInt64.toNat_ofNat']
    omega
  have model : m.toUInt64.toFloat = rounded m.toUInt64.toNat 0 := rfl
  have bits : |(m : Int)| < 2 ^ 53 := by
    rw [Nat.abs_cast]
    exact_mod_cast short
  have exact := value_rounded (e := 0) bits (by decide) (by decide)
  rwa [zpow_zero, mul_one, Int.cast_natCast, ← whole, ← model, whole] at exact

/-- A scientific number that is computed without the small powers, and within the clamps. -/
theorem ofScientific_model (some : 0 < m) {e : Int} (most : e ≤ 2048)
    (least : -(2048 + (m.log2 : Int)) ≤ e) :
    Float.ofModel (.ofScientific m e) = nearest (m * 10 ^ e) := by
  have bits : Float.Model.Format.binary64.mantissaBits = 53 := rfl
  have model : Float.ofModel (.ofScientific m e) =
      .ofModel (.pack (.ofScientific .binary64 m e)) := rfl
  have below : ¬ (2 : Int) ^ Float.Model.Format.binary64.exponentBits < e := by
    have power : (2 : Int) ^ Float.Model.Format.binary64.exponentBits = 2048 := rfl
    omega
  have above : ¬ e < -((2 : Int) ^ Float.Model.Format.binary64.exponentBits + m.log2) := by
    have power : (2 : Int) ^ Float.Model.Format.binary64.exponentBits = 2048 := rfl
    omega
  rw [model, UnpackedFloat.ofScientific, dif_neg some.ne', if_neg below, if_neg above]
  split
  · next up =>
    obtain ⟨n, rfl⟩ := Int.eq_ofNat_of_zero_le up
    have shifted : m <<< 53 = m * 2 ^ 53 := Nat.shiftLeft_eq m 53
    have long : 2 ^ 52 ≤ m <<< 53 * 10 ^ n := by
      rw [shifted]
      calc 2 ^ 52 ≤ 1 * 2 ^ 53 * 1 := by decide
        _ ≤ m * 2 ^ 53 * 10 ^ n :=
          Nat.mul_le_mul (Nat.mul_le_mul_right _ some) (Nat.pow_pos (by decide))
    refine (mul_eq_nearest .positive .positive _ _ (.inl long)).trans ?_
    refine congrArg nearest ?_
    change ((m <<< 53 : Nat) : Rat) * 2 ^ (-(53 : Nat) : Int) * ((10 ^ n : Nat) * 2 ^ (0 : Int)) = _
    rw [shifted, zpow_neg, zpow_natCast, zpow_zero, zpow_natCast]
    push_cast
    ring
  · next down =>
    obtain ⟨n, rfl⟩ : ∃ n : Nat, e = -n := ⟨(-e).toNat, by omega⟩
    refine (div_eq_nearest .positive .positive _ _).trans ?_
    refine congrArg nearest ?_
    change (m : Rat) * 2 ^ (0 : Int) / ((10 ^ (- -(n : Int)).toNat : Nat) * 2 ^ (0 : Int)) = _
    rw [neg_neg, Int.toNat_natCast, zpow_zero, mul_one, mul_one, zpow_neg, zpow_natCast]
    push_cast
    rfl

/-- What is rounded from a rational other than zero is the number nearest to it. -/
theorem Rounds.eq_nearest (rounds : Rounds q x) (nonzero : q ≠ 0) : x = nearest q :=
  rounds.resolve_right fun zero => nonzero zero.1

theorem ofScientific_eq (some : 0 < m) (down : Bool) (places : Nat) {e : Int}
    (power : e = if down then -(places : Int) else places) (most : e ≤ 2048)
    (least : -(2048 + (m.log2 : Int)) ≤ e) :
    Float.ofScientific m down places = nearest (m * 10 ^ e) := by
  have nonzero : (m : Rat) * 10 ^ e ≠ 0 :=
    mul_ne_zero (Nat.cast_ne_zero.mpr some.ne') (zpow_ne_zero _ (by norm_num))
  unfold Float.ofScientific
  split
  · next small =>
    obtain ⟨finite, number⟩ := value_ofNat small.1
    obtain ⟨finite', tens⟩ := value_tens ⟨places, Nat.lt_succ_of_le small.2⟩
    refine Rounds.eq_nearest ?_ nonzero
    rw [power]
    cases down with
    | false =>
      have rounds := rounds_mul finite finite'
      rw [number, tens, ← zpow_natCast] at rounds
      exact rounds
    | true =>
      have rounds := rounds_div finite finite' (by rw [tens]; positivity)
      rw [number, tens, ← zpow_natCast, div_eq_mul_inv, ← zpow_neg] at rounds
      exact rounds
  · have model : (if down then Int.negOfNat places else Int.ofNat places) = e := by
      rw [power, Int.negOfNat_eq]
      rfl
    dsimp only
    rw [model]
    exact ofScientific_model some most least

/-- An integer becomes the number nearest to it. -/
theorem rounds_ofNat (n : Nat) : Rounds n (Float.ofNat n) := by
  rcases n.eq_zero_or_pos with rfl | some
  · exact .inr ⟨Nat.cast_zero, by decide +kernel⟩
  · have whole := ofScientific_eq (e := 0) some false 0 rfl (by decide) (by omega)
    rw [zpow_zero, mul_one] at whole
    exact .inl whole

end Binary64

namespace Decimal

open Binary64

variable {x : Float} {n : Nat}

/-! ### Reading digits -/

/-- A number between two powers of ten by the count of its digits. -/
theorem digits_bounds (some : 0 < n) :
    10 ^ ((toString n).length - 1) ≤ n ∧ n < 10 ^ (toString n).length ∧ 0 < (toString n).length := by
  have count : (toString n).length = (Nat.toDigits 10 n).length := by
    rw [← digitsOf_eq, digitsOf, String.length_toList]
  have any : 0 < (Nat.toDigits 10 n).length := Nat.length_toDigits_pos
  rw [count]
  refine ⟨?_, (Nat.length_toDigits_le_iff (by decide) any).mp le_rfl, any⟩
  by_cases one : (Nat.toDigits 10 n).length = 1
  · rw [one]
    exact some
  · by_contra less
    have shorter := (Nat.length_toDigits_le_iff (by decide) (by omega)).mpr (not_le.mp less)
    omega

/-- The clamps lie outside of the range of numbers. -/
theorem powers_apart : (2 : Rat) ^ (1024 : Int) ≤ 10 ^ (400 : Int) ∧
    (10 : Rat) ^ (-400 : Int) < 2 ^ (-1075 : Int) := by
  have less {k n : Nat} (short : k < 3 * n) : 2 ^ k < 10 ^ n :=
    calc 2 ^ k < 2 ^ (3 * n) := Nat.pow_lt_pow_right (by decide) short
      _ = (2 ^ 3) ^ n := pow_mul 2 3 n
      _ ≤ 10 ^ n := Nat.pow_le_pow_left (by decide) n
  have large : 2 ^ 1024 < 10 ^ 400 := less (by decide)
  have small : 2 ^ 1075 < 10 ^ 400 := less (by decide)
  constructor
  · exact_mod_cast large.le
  · rw [zpow_neg, zpow_neg, inv_lt_inv₀ (by positivity) (by positivity)]
    exact_mod_cast small

/-- Reading gives the number nearest to the decimal. -/
theorem nearest_eq (coefficient : Nat) (exponent : Int) :
    nearest coefficient exponent = Binary64.nearest (coefficient * 10 ^ exponent) := by
  rcases Nat.eq_zero_or_pos coefficient with rfl | some
  · rw [nearest, if_pos rfl, Nat.cast_zero, zero_mul]
    rfl
  obtain ⟨low, high, any⟩ := digits_bounds some
  have positive : (0 : Rat) < coefficient * 10 ^ exponent :=
    mul_pos (Nat.cast_pos.mpr some) (zpow_pos (by norm_num) _)
  rw [nearest, if_neg some.ne']
  generalize (toString coefficient).length = count at *
  obtain ⟨k, rfl⟩ : ∃ k, count = k + 1 := ⟨count - 1, by omega⟩
  rw [Nat.add_sub_cancel] at low
  dsimp only
  have below : (10 : Rat) ^ ((k : Int) + exponent) ≤ coefficient * 10 ^ exponent := by
    rw [zpow_add₀ (by norm_num), zpow_natCast]
    have bound : (10 : Rat) ^ k ≤ coefficient := by exact_mod_cast low
    exact mul_le_mul_of_nonneg_right bound (zpow_pos (by norm_num) _).le
  have above : (coefficient : Rat) * 10 ^ exponent < 10 ^ (((k + 1 : Nat) : Int) + exponent) := by
    rw [zpow_add₀ (by norm_num), zpow_natCast]
    have bound : (coefficient : Rat) < 10 ^ (k + 1) := by exact_mod_cast high
    exact mul_lt_mul_of_pos_right bound (zpow_pos (by norm_num) _)
  split
  · next far =>
    refine (nearest_of_large (powers_apart.1.trans (le_trans ?_ below))).symm
    exact zpow_le_zpow_right₀ (by norm_num) (by omega)
  · split
    · next near =>
      refine (nearest_of_small positive (above.trans (lt_of_le_of_lt ?_ powers_apart.2))).symm
      exact zpow_le_zpow_right₀ (by norm_num) (by omega)
    · have bits : k < coefficient.log2 + 1 := by
        refine (Nat.pow_lt_pow_iff_right (by decide : 1 < 2)).mp ?_
        exact ((Nat.pow_le_pow_left (by decide) k).trans low).trans_lt Nat.lt_log2_self
      refine ofScientific_eq some _ _ ?_ (by omega) (by omega)
      rcases lt_or_ge exponent 0 with down | up
      · rw [decide_eq_true down, if_pos rfl]
        omega
      · rw [decide_eq_false (not_lt.mpr up), if_neg Bool.false_ne_true]
        omega

/-! ### Reading back -/

/-- An integer is rounded to from a half below it to a half above it, the ends included if it is even. -/
theorem roundHalfEven_eq {t : Rat} (low : n - 1 / 2 ≤ t) (high : t ≤ n + 1 / 2)
    (inner : n % 2 ≠ 0 → n - 1 / 2 < t ∧ t < n + 1 / 2) : roundHalfEven t = n := by
  unfold roundHalfEven
  rw [half_eq]
  rcases lt_or_ge t n with below | above
  · have floor : t.floor = (n : Int) - 1 := floor_eq (by push_cast; linarith) (by push_cast; linarith)
    rw [floor]
    push_cast
    split_ifs with less more even
    · linarith
    · omega
    · have tie : t = n - 1 / 2 := by linarith
      by_contra
      exact absurd (inner (by omega)).1 (by linarith)
    · omega
  · have floor : t.floor = (n : Int) := floor_eq (by push_cast; linarith) (by push_cast; linarith)
    rw [floor]
    push_cast
    split_ifs with less more even
    · rfl
    · linarith
    · rfl
    · exact absurd (inner (by omega)).2 (by linarith)

theorem grid_eq {r : Rat} {s : Int} (positive : 0 < r) (least : -1074 ≤ s)
    (full : 2 ^ 52 * 2 ^ s ≤ r ∨ s = -1074) (short : r < 2 ^ 53 * 2 ^ s) : grid r = s := by
  obtain ⟨low, high⟩ := binaryOrder_spec positive
  have power (n : Nat) : (2 : Rat) ^ n * 2 ^ s = 2 ^ ((n : Int) + s) := by
    rw [zpow_add₀ (by norm_num), zpow_natCast]
  rw [power] at short
  have most := (zpow_lt_zpow_iff_right₀ (a := (2 : Rat)) (by norm_num)).mp (low.trans_lt short)
  unfold grid
  rcases full with full | rfl
  · rw [power] at full
    have reach := (zpow_lt_zpow_iff_right₀ (a := (2 : Rat)) (by norm_num)).mp (full.trans_lt high)
    omega
  · omega

/-- The interval of a number in units of its scale: half a unit to either side, or a quarter below a
power of two. -/
theorem contains_units {r : Rat} (some : 0 < significand x)
    (inside : (roundingInterval x).contains r = true) :
    let t := r / 2 ^ scale x
    let below : Rat := if fractionField x = 0 ∧ 1 < exponentField x then 1 / 4 else 1 / 2
    (significand x - below ≤ t ∧ t ≤ significand x + 1 / 2) ∧
      (significand x % 2 ≠ 0 → significand x - below < t ∧ t < significand x + 1 / 2) := by
  have unit : (0 : Rat) < 2 ^ scale x := zpow_pos (by norm_num) _
  obtain ⟨low, high, strict⟩ := (Interval.contains_iff _ r).mp inside
  have quarters : twoPow (scale x - 2) = 2 ^ scale x / 4 := by
    rw [twoPow_eq, zpow_sub₀ (by norm_num)]
    norm_num
  have lower : (roundingInterval x).lower = (significand x -
      if fractionField x = 0 ∧ 1 < exponentField x then 1 / 4 else 1 / 2 : Rat) * 2 ^ scale x := by
    rw [roundingInterval, quarters]
    dsimp only
    split
    · rw [Nat.cast_sub (by omega)]
      push_cast
      ring
    · rw [Nat.cast_sub (by omega)]
      push_cast
      ring
  have upper : (roundingInterval x).upper = (significand x + 1 / 2 : Rat) * 2 ^ scale x := by
    rw [roundingInterval, quarters]
    push_cast
    ring
  rw [closed_eq, decide_eq_false_iff_not, lower, upper] at strict
  rw [lower] at low
  rw [upper] at high
  dsimp only
  rw [le_div_iff₀ unit, div_le_iff₀ unit, lt_div_iff₀ unit, div_lt_iff₀ unit]
  exact ⟨⟨low, high⟩, strict⟩

theorem rank_eq (x : Float) : rank x = (scale x + 1074).toNat * 2 ^ 52 + significand x := by
  unfold rank scale significand
  split <;> omega

/-- On a grid of the right scale the interval is rounded to the significand. -/
theorem magnitudeBits_on_grid {r : Rat} (finite : x.isFinite = true) (some : 0 < significand x)
    (inside : (roundingInterval x).contains r = true) (grid_eq : grid r = scale x) :
    magnitudeBits r = rank x := by
  obtain ⟨⟨low, high⟩, strict⟩ := contains_units some inside
  have small := finite_iff_rank.mp finite
  have place := rank_eq x
  have rounded : roundHalfEven (r / 2 ^ scale x) = significand x := by
    refine roundHalfEven_eq (le_trans ?_ low) high fun odd => ?_
    · split <;> linarith
    · obtain ⟨above, under⟩ := strict odd
      refine ⟨lt_of_le_of_lt ?_ above, under⟩
      split <;> linarith
  rw [magnitudeBits_eq, grid_eq, rounded]
  omega

/-- Below a power of two the grid is twice as fine, and the interval is rounded up to the power. -/
theorem magnitudeBits_below_power {r : Rat} (finite : x.isFinite = true)
    (power : significand x = 2 ^ 52) (normal : -1074 < scale x)
    (low : (2 : Rat) ^ 52 - 1 / 4 ≤ r / 2 ^ scale x) (under : r / 2 ^ scale x < 2 ^ 52)
    (positive : 0 < r) : magnitudeBits r = rank x := by
  have small := finite_iff_rank.mp finite
  have finer : (2 : Rat) ^ scale x = 2 * 2 ^ (scale x - 1) := by
    rw [zpow_sub_one₀ (by norm_num)]
    ring
  have unit : (0 : Rat) < 2 ^ (scale x - 1) := zpow_pos (by norm_num) _
  have doubled : r / 2 ^ (scale x - 1) = 2 * (r / 2 ^ scale x) := by
    rw [finer]
    field_simp
  have fine : grid r = scale x - 1 := by
    refine grid_eq positive (by omega) (.inl ?_) ?_
    · rw [← le_div_iff₀ unit, doubled]
      linarith
    · rw [← div_lt_iff₀ unit, doubled]
      linarith
  have rounded : roundHalfEven (r / 2 ^ (scale x - 1)) = (2 ^ 53 : Nat) := by
    rw [doubled]
    refine roundHalfEven_eq ?_ ?_ fun odd => absurd rfl odd <;> push_cast <;> linarith
  rw [magnitudeBits_eq, fine, rounded, Int.toNat_natCast, rank_eq, power]
  rw [rank_eq, power] at small
  omega

/-- A rational of the interval is rounded to the number of the interval. -/
theorem magnitudeBits_of_contains {r : Rat} (finite : x.isFinite = true) (some : 0 < significand x)
    (inside : (roundingInterval x).contains r = true) : magnitudeBits r = rank x := by
  have unit : (0 : Rat) < 2 ^ scale x := zpow_pos (by norm_num) _
  obtain ⟨⟨low, high⟩, -⟩ := contains_units some inside
  have least := (scale_range finite).1
  have one : (1 : Rat) ≤ significand x := by exact_mod_cast some
  have positive : 0 < r := by
    have quotient : 0 < r / 2 ^ scale x := by
      refine lt_of_lt_of_le ?_ low
      split <;> linarith
    exact (div_pos_iff_of_pos_right unit).mp quotient
  have below : r < 2 ^ 53 * 2 ^ scale x := by
    rw [← div_lt_iff₀ unit]
    have most : (significand x : Rat) + 1 ≤ 2 ^ 53 := by exact_mod_cast significand_lt x
    linarith
  by_cases full : 2 ^ 52 * 2 ^ scale x ≤ r ∨ scale x = -1074
  · exact magnitudeBits_on_grid finite some inside (grid_eq positive least full below)
  · obtain ⟨under, normal⟩ := not_or.mp full
    rw [not_le, ← div_lt_iff₀ unit] at under
    have fields : significand x = 2 ^ 52 ∧ fractionField x = 0 ∧ 1 < exponentField x := by
      have bits : significand x < 2 ^ 52 + 1 := by
        have bound : (significand x : Rat) < 2 ^ 52 + 1 := by
          have half : significand x - 1 / 2 ≤ r / 2 ^ scale x := by
            refine le_trans ?_ low
            split <;> linarith
          linarith
        exact_mod_cast bound
      unfold scale at normal
      unfold significand at bits ⊢
      split_ifs at bits normal ⊢ <;> omega
    rw [if_pos fields.2, fields.1] at low
    push_cast at low
    exact magnitudeBits_below_power finite fields.1 (by omega) low under positive

/-- A magnitude with its sign put back. -/
theorem signed_abs (finite : x.isFinite = true) : (if negative x then -x.abs else x.abs) = x := by
  have bare := finite_withSign .positive finite
  have signed := withSign_sign finite
  unfold sign at signed
  rw [abs_eq finite]
  split at signed
  · next below =>
    rw [if_pos below, neg_eq bare, sign_withSign _ finite, withSign_withSign _ _ finite]
    exact signed
  · next above =>
    rw [if_neg above]
    exact signed

theorem nearest_of_contains {r : Rat} (finite : x.isFinite = true) (nonzero : (x == 0.0) = false)
    (inside : (roundingInterval x).contains r = true) : Binary64.nearest r = x.abs := by
  have positive : 0 < r := (lower_pos nonzero).trans_le ((Interval.contains_iff _ r).mp inside).1
  obtain ⟨rank, sign⟩ := rank_nearest positive
  have plain : negative (withSign .positive x) = false := negative_withSign _ finite
  rw [abs_eq finite]
  refine eq_of_rank (sign.trans plain.symm) (rank.trans ?_)
  rw [rank_withSign]
  exact magnitudeBits_of_contains finite (significand_pos nonzero) inside

theorem decimal?_point {whole fraction : List Char} (left : Digits whole) (right : Digits fraction)
    (any : whole ≠ []) : decimal? (whole ++ '.' :: fraction) =
      some (nearest (natOfDigits (whole ++ fraction)) (0 - fraction.length)) := by
  have first := splitDigits_append left (Text.ends_cons rfl : Text.Ends Char.isDigit ('.' :: fraction))
  have second := splitDigits_append right Text.ends_nil
  rw [List.append_nil] at second
  simp [decimal?, first, second, any]

theorem decimal?_whole {whole : List Char} (all : Digits whole) (any : whole ≠ []) :
    decimal? whole = some (nearest (natOfDigits whole) 0) := by
  have split := splitDigits_append all Text.ends_nil
  rw [List.append_nil] at split
  simp [decimal?, split, any]

/-- Digits around a point are read as the rational that they spell. -/
theorem decimal?_pointed {digits : List Char} (all : Digits digits) (any : digits ≠ []) (shift : Int) :
    decimal? (pointed digits shift false) =
      some (Binary64.nearest (natOfDigits digits * 10 ^ (shift - digits.length))) := by
  by_cases inner : shift < digits.length
  · have text : pointed digits shift false = pointed digits shift true := by
      simp [pointed, inner]
    obtain ⟨whole, fraction, parts, filled, left, right, value⟩ := pointed_parts all any shift
    rw [text, parts, decimal?_point left right filled, nearest_eq, zero_sub, value]
  · obtain ⟨zeros, far⟩ : ∃ zeros : Nat, shift = digits.length + zeros :=
      ⟨(shift - digits.length).toNat, by omega⟩
    have count : 0 < digits.length := List.length_pos_iff.mpr any
    have text : pointed digits shift false = digits ++ List.replicate zeros '0' := by
      have positive : ¬ shift ≤ 0 := by omega
      rw [pointed, if_neg positive, if_neg inner, far, add_sub_cancel_left, Int.toNat_natCast]
      exact List.append_nil _
    rw [text, decimal?_whole (all.append (digits_zeros zeros)) (by simp [any]), natOfDigits_trailing,
      nearest_eq, far]
    congr 2
    rw [add_sub_cancel_left, zpow_natCast, zpow_zero]
    push_cast
    ring

theorem toLower_of_digit {c : Char} (digit : c.isDigit = true) : c.toLower = c := by
  have small : c.val ≤ '9'.val := (Bool.and_eq_true_iff.mp digit).2 |> of_decide_eq_true
  refine dif_neg fun upper => ?_
  have least := UInt32.le_iff_toNat_le.mp upper.1
  have most := UInt32.le_iff_toNat_le.mp small
  have apart : '9'.val.toNat < 'A'.val.toNat := by decide
  omega

/-- What begins with a digit is not a word. -/
theorem unsigned?_digit {c : Char} {rest : List Char} (digit : c.isDigit = true) :
    unsigned? (c :: rest) = decimal? (c :: rest) := by
  have first (word : String) (d : Char) (tail : List Char) (spelled : word.toList = d :: tail)
      (letter : d.isDigit = false) : String.ofList ((c :: rest).map Char.toLower) ≠ word := by
    intro same
    have chars := congrArg String.toList same
    rw [String.toList_ofList, spelled, List.map_cons, toLower_of_digit digit] at chars
    rw [(List.cons.inj chars).1, letter] at digit
    exact Bool.false_ne_true digit
  unfold unsigned?
  split
  · next same => exact absurd same (first _ 'i' _ rfl rfl)
  · next same => exact absurd same (first _ 'i' _ rfl rfl)
  · next same => exact absurd same (first _ 'n' _ rfl rfl)
  · rfl

theorem measured_magnitude (d : Decimal) : measured.magnitude d =
    pointed (digitsOf d.coefficient) (d.exponent + (digitsOf d.coefficient).length) false := by
  simp [Layout.magnitude, Layout.positional, measured]

/-- Digits with a point begin with a digit. -/
theorem pointed_cons {digits : List Char} (all : Digits digits) (any : digits ≠ []) (shift : Int) :
    ∃ c rest, pointed digits shift false = c :: rest ∧ c.isDigit = true := by
  obtain ⟨digit, others, rfl⟩ := List.exists_cons_of_ne_nil any
  have first := all digit List.mem_cons_self
  unfold pointed
  dsimp only
  split
  · exact ⟨'0', _, rfl, rfl⟩
  · split
    · next positive inner =>
      obtain ⟨k, rfl⟩ : ∃ k : Nat, shift = k + 1 := ⟨(shift - 1).toNat, by omega⟩
      exact ⟨digit, _, rfl, first⟩
    · exact ⟨digit, _, rfl, first⟩

/-- The text of a magnitude begins with a digit and is read as the magnitude. -/
theorem unsigned?_magnitude (finite : x.isFinite = true) (nonzero : (x == 0.0) = false) :
    ∃ c rest, measured.magnitude (shortest .up x) = c :: rest ∧ c.isDigit = true ∧
      unsigned? (c :: rest) = some x.abs := by
  have all := digits_digitsOf (shortest .up x).coefficient
  have any := digitsOf_ne_nil (shortest .up x).coefficient
  have inside := shortest_contains .up (significand_pos nonzero)
  obtain ⟨c, rest, text, digit⟩ := pointed_cons all any
    ((shortest .up x).exponent + (digitsOf (shortest .up x).coefficient).length)
  refine ⟨c, rest, (measured_magnitude _).trans text, digit, ?_⟩
  rw [unsigned?_digit digit, ← text, decimal?_pointed all any, natOfDigits_digitsOf,
    add_sub_cancel_right, ← value_eq, nearest_of_contains finite nonzero inside]

/-- A text with a digit in front is read as it stands, and with a minus before it as its opposite. -/
theorem read?_signed {c : Char} {rest : List Char} (digit : c.isDigit = true) {y : Float}
    (read : unsigned? (c :: rest) = some y) (minus : Bool) :
    read? (if minus then '-' :: c :: rest else c :: rest) = some (if minus then -y else y) := by
  cases minus with
  | true =>
    have answered : Decimal.read ('-' :: c :: rest) = .ok (-y) := by
      rw [Decimal.read, read]
      rfl
    exact congrArg Except.toOption answered
  | false =>
    have plus : c ≠ '+' := by
      rintro rfl
      cases digit
    have minus : c ≠ '-' := by
      rintro rfl
      cases digit
    have answered : Decimal.read (c :: rest) = .ok y := by
      unfold Decimal.read
      split
      · next none => cases none
      · next same => exact absurd (List.cons.inj same).1 plus
      · next same => exact absurd (List.cons.inj same).1 minus
      · rw [read]
    exact congrArg Except.toOption answered

theorem signed_zero (zero : (x == 0.0) = true) : (if negative x then -0.0 else 0.0) = x := by
  obtain ⟨exponent, fraction⟩ := (beq_zero_iff x).mp zero
  have least : rank x = 0 := by rw [rank, exponent, fraction, Nat.zero_mul]
  obtain ⟨rank_zero, plain⟩ := fields_zero
  have below : rank (-0.0) = 0 ∧ negative (-0.0) = true := by decide
  cases sign : negative x with
  | true => exact eq_of_rank (below.2.trans sign.symm) (below.1.trans least.symm)
  | false => exact eq_of_rank (plain.trans sign.symm) (rank_zero.trans least.symm)

/-- A measured text reads back to its number. -/
theorem read?_measure (number : x.isNaN = false) : read? (measure x).toList = some x := by
  cases infinite : x.isInf with
  | true =>
    rcases isInf_cases infinite with rfl | rfl
    · rfl
    · rfl
  | false =>
    have finite := finite_of_number number infinite
    have text : measure x = String.ofList (measured.finite x) := by
      rw [measure, number, infinite]
      rfl
    rw [text, String.toList_ofList, Layout.finite]
    cases zero : x == 0.0 with
    | true =>
      have read : unsigned? ['0'] = some 0.0 := by rfl
      have signed := read?_signed rfl read (negative x)
      rw [signed_zero zero] at signed
      exact signed
    | false =>
      obtain ⟨c, rest, spelled, digit, read⟩ := unsigned?_magnitude finite zero
      have signed := read?_signed digit read (negative x)
      have tie : measured.tie = .up := rfl
      rw [signed_abs finite] at signed
      rw [if_neg Bool.false_ne_true, tie, spelled]
      exact signed

end Decimal

end GeoSearch
