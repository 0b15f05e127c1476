import GeoSearch.Proofs.Binary64.Difference
import GeoSearch.Proofs.Binary64.Residue
/-!
Rounding gives the nearest number. So an operation on finite numbers whose exact result lies between two
numbers has its result between them.
-/
namespace GeoSearch.Binary64

open Float.Model (UnpackedFloat Format)
open Float.Model.UnpackedFloat (Sign Accuracy ExtendedMantissa roundWithAccuracy shiftToTargetExponent
  shiftToExponent)

variable {x y z : Float} {q r t : Rat} {m n : Nat} {e : Int}

/-! ### Ranks -/

/-- The place of a magnitude among those of all numbers, from zero up to infinity. -/
def rank (x : Float) : Nat := exponentField x * 2 ^ 52 + fractionField x

def ranks : Nat := 2047 * 2 ^ 52

theorem rank_withSign (s : Sign) (x : Float) : rank (withSign s x) = rank x := by
  rw [rank, exponentField_withSign, fractionField_withSign, rank]

theorem eq_of_rank (signs : negative x = negative y) (same : rank x = rank y) : x = y := by
  have first := fractionField_lt x
  have second := fractionField_lt y
  unfold rank at same
  exact eq_of_fields signs (by omega) (by omega)

theorem finite_iff_rank : x.isFinite = true ↔ rank x < ranks := by
  have fraction := fractionField_lt x
  rw [finite_iff, rank, ranks]
  omega

theorem magnitude_lt_of_rank (less : rank x < rank y) : magnitude x < magnitude y := by
  have first := fractionField_lt x
  have second := fractionField_lt y
  unfold rank at less
  by_cases coarser : scale x < scale y
  · exact magnitude_lt_of_scale coarser
  · have same : scale x = scale y := by
      unfold scale at coarser ⊢
      split_ifs at coarser ⊢ <;> omega
    have shorter : significand x < significand y := by
      unfold scale at same
      unfold significand
      split_ifs at same ⊢ <;> omega
    have unit : (0 : Rat) < 2 ^ scale y := zpow_pos (by norm_num) _
    rw [magnitude_eq, magnitude_eq, same]
    gcongr

theorem magnitude_le_of_rank (order : rank x ≤ rank y) : magnitude x ≤ magnitude y := by
  rcases order.lt_or_eq with less | same
  · exact (magnitude_lt_of_rank less).le
  · have fields : exponentField x = exponentField y ∧ fractionField x = fractionField y := by
      have first := fractionField_lt x
      have second := fractionField_lt y
      unfold rank at same
      omega
    rw [magnitude_eq, magnitude_eq, significand, significand, scale, scale, fields.1, fields.2]

theorem exists_rank (bound : n ≤ ranks) :
    ∃ x : Float, x.toBits = UInt64.ofNat n ∧ rank x = n ∧ negative x = false := by
  have whole : (UInt64.ofNat n).toNat = n := by
    rw [UInt64.toNat_ofNat']
    unfold ranks at bound
    omega
  have valid : Format.binary64.Valid (UInt64.ofNat n).toBitVec := by
    refine ⟨fun greatest rest => absurd (BitVec.eq_of_toNat_eq ?_) rest⟩
    have exponent := congrArg BitVec.toNat greatest
    simp [UnpackedFloat.unpackExponent, BitVec.extractLsb_toNat, Nat.shiftRight_eq_div_pow] at exponent
    simp [UnpackedFloat.unpackMantissa, BitVec.extractLsb_toNat]
    unfold ranks at bound
    omega
  have bits : (⟨⟨UInt64.ofNat n, valid⟩⟩ : Float).toBits = UInt64.ofNat n := rfl
  refine ⟨⟨⟨UInt64.ofNat n, valid⟩⟩, bits, ?_, ?_⟩
  · rw [rank, exponentField_eq, fractionField_eq, bits, whole]
    unfold ranks at bound
    omega
  · rw [negative_eq, bits, whole]
    unfold ranks at bound
    simp
    omega

/-! ### The nearest number -/

theorem magnitudeBits_le (q : Rat) : magnitudeBits q ≤ ranks := min_le_right _ _

theorem rank_nearest (positive : 0 < q) :
    rank (nearest q) = magnitudeBits q ∧ negative (nearest q) = false := by
  obtain ⟨x, bits, rank, sign⟩ := exists_rank (magnitudeBits_le q)
  have found : nearest q = x := by
    rw [nearest, if_neg positive.ne', if_neg (not_lt.mpr positive.le)]
    exact (congrArg Float.ofBits bits.symm).trans (Float.ofBits_toBits x)
  rw [found]
  exact ⟨rank, sign⟩

def grid (q : Rat) : Int := max (binaryOrder q - 52) (-1074)

theorem magnitudeBits_eq (q : Rat) : magnitudeBits q =
    min ((grid q + 1074).toNat * 2 ^ 52 + (roundHalfEven (q / 2 ^ grid q)).toNat) ranks := by
  rw [magnitudeBits, twoPow_eq]
  rfl

/-- The significand that a rational is rounded to has 53 bits, may have carried, and is shorter only at
the least scale. -/
theorem significand_range (positive : 0 < q) :
    (2 ^ 52 ≤ roundHalfEven (q / 2 ^ grid q) ∨ grid q = -1074 ∧ 0 ≤ roundHalfEven (q / 2 ^ grid q)) ∧
      roundHalfEven (q / 2 ^ grid q) ≤ 2 ^ 53 := by
  obtain ⟨low, high⟩ := binaryOrder_spec positive
  have unit : (0 : Rat) < 2 ^ grid q := zpow_pos (by norm_num) _
  have whole (n : Nat) : roundHalfEven (n : Rat) = n := roundHalfEven_natCast n
  constructor
  · by_cases normal : grid q = binaryOrder q - 52
    · left
      have full : ((2 ^ 52 : Nat) : Rat) ≤ q / 2 ^ grid q := by
        rw [le_div_iff₀ unit, normal]
        refine le_trans (le_of_eq ?_) low
        rw [Nat.cast_pow, Nat.cast_ofNat, ← zpow_natCast, ← zpow_add₀ (by norm_num)]
        congr 1
        omega
      exact (whole (2 ^ 52)).ge.trans (roundHalfEven_mono full)
    · right
      have least : grid q = -1074 := by
        unfold grid at normal ⊢
        omega
      have nonneg : ((0 : Nat) : Rat) ≤ q / 2 ^ grid q := by
        rw [Nat.cast_zero]
        positivity
      exact ⟨least, (whole 0).ge.trans (roundHalfEven_mono nonneg)⟩
  · have short : q / 2 ^ grid q ≤ (2 ^ 53 : Nat) := by
      rw [div_le_iff₀ unit]
      refine high.le.trans ?_
      rw [Nat.cast_pow, Nat.cast_ofNat, ← zpow_natCast, ← zpow_add₀ (by norm_num)]
      refine zpow_le_zpow_right₀ (by norm_num) ?_
      unfold grid
      omega
    exact (roundHalfEven_mono short).trans (whole (2 ^ 53)).le

theorem grid_mono (positive : 0 < q) (order : q ≤ r) : grid q ≤ grid r := by
  have low := (binaryOrder_spec positive).1
  have high := (binaryOrder_spec (positive.trans_le order)).2
  have orders := (zpow_lt_zpow_iff_right₀ (a := (2 : Rat)) (by norm_num)).mp
    ((low.trans order).trans_lt high)
  unfold grid
  omega

theorem magnitudeBits_mono (positive : 0 < q) (order : q ≤ r) : magnitudeBits q ≤ magnitudeBits r := by
  have first := significand_range positive
  have second := significand_range (positive.trans_le order)
  rw [magnitudeBits_eq, magnitudeBits_eq]
  rcases (grid_mono positive order).lt_or_eq with less | same
  · have least : -1074 ≤ grid q := le_max_right _ _
    omega
  · have unit : (0 : Rat) < 2 ^ grid r := zpow_pos (by norm_num) _
    rw [same] at first ⊢
    have rounded : roundHalfEven (q / 2 ^ grid r) ≤ roundHalfEven (r / 2 ^ grid r) :=
      roundHalfEven_mono (by gcongr)
    omega

/-! ### Rounded significands -/

/-- The rank of a significand at its scale, infinity if it is too large. -/
theorem rank_pack (s : Sign) (proper : Proper m e) (some : 0 < m) :
    rank (.ofModel (.pack (.finite s m e some))) = min ((e + 1074).toNat * 2 ^ 52 + m) ranks ∧
      sign (.ofModel (.pack (.finite s m e some))) = s := by
  obtain ⟨short, least, full⟩ := proper
  by_cases fits : e ≤ 971
  · have bits := (bits_pack (.finite s m e some)).trans (pack_of_fits s some least fits)
    obtain ⟨exponent, fraction, signed⟩ := fields_of_components bits
    refine ⟨?_, signed⟩
    rw [BitVec.toNat_ofNat] at fraction
    rw [rank, exponent, fraction, ranks]
    by_cases normal : m.log2 = 52
    · have low := ((Nat.log2_eq_iff some.ne').mp normal).1
      rw [if_pos normal, BitVec.toNat_ofNat]
      omega
    · have below : m.log2 < 52 := by
        have := (Nat.log2_lt some.ne').mpr short
        omega
      have subnormal := (Nat.log2_lt some.ne').mp below
      rw [if_neg normal]
      have zero : (0 : BitVec 11).toNat = 0 := rfl
      rw [zero]
      omega
  · have bits := (bits_pack (.finite s m e some)).trans (pack_of_large s some (not_le.mp fits))
    obtain ⟨exponent, fraction, signed⟩ := fields_of_components bits
    have greatest : (-1#11).toNat = 2047 := by decide
    have none : (0 : BitVec 52).toNat = 0 := rfl
    refine ⟨?_, signed⟩
    rw [rank, exponent, fraction, ranks, greatest, none]
    omega

/-- The last step of rounding: a significand that carried is shifted once more. -/
theorem rank_carried (s : Sign) {g : Int}
    (range : (2 ^ 52 ≤ (n : Int) ∨ g = -1074 ∧ 0 ≤ (n : Int)) ∧ (n : Int) ≤ 2 ^ 53)
    (least : -1074 ≤ g) :
    let u : UnpackedFloat :=
      let last := shiftToTargetExponent .binary64 n g .exact
      if h : last.1.mantissa = 0 then .zero s
      else .finite s last.1.mantissa last.2 (Nat.pos_of_ne_zero h)
    rank (.ofModel (.pack u)) = min ((g + 1074).toNat * 2 ^ 52 + n) ranks ∧
      sign (.ofModel (.pack u)) = s := by
  rcases Nat.eq_zero_or_pos n with rfl | some
  · have still : max (((0 : Nat).log2 : Int) + g - 52) (-1074) ≤ g := by
      rw [Nat.log2_zero]
      omega
    rw [shift_of_le still]
    obtain ⟨exponent, fraction, signed⟩ := fields_of_components (bits_pack (.zero s))
    have none : (0 : BitVec 11).toNat = 0 ∧ (0 : BitVec 52).toNat = 0 := ⟨rfl, rfl⟩
    have zero : rank (.ofModel (.pack (.zero s))) = 0 := by
      rw [rank, exponent, fraction, none.1, none.2, Nat.zero_mul]
    exact ⟨zero.trans (by omega), signed⟩
  by_cases short : n < 2 ^ 53
  · have order := (Nat.log2_lt some.ne').mpr short
    rw [shift_of_le (by omega)]
    dsimp only
    rw [dif_neg some.ne']
    exact rank_pack s ⟨short, least, by omega⟩ some
  · obtain rfl : n = 2 ^ 53 := by omega
    rw [shift_of_carry least]
    dsimp only
    rw [dif_neg (by decide)]
    obtain ⟨rank, signed⟩ := rank_pack s (m := 2 ^ 52) (e := g + 1)
      ⟨by decide, by omega, .inl le_rfl⟩ (by decide)
    refine ⟨rank.trans ?_, signed⟩
    unfold ranks
    omega

/-- Rounding with what is known of the rest gives the rank of the rational that stands there. -/
theorem rank_round (s : Sign) {a : Accuracy} (stands : Stands (.ofMantissaAndAccuracy m a) t)
    (positive : 0 < t) (long : e ≤ max ((m.log2 : Int) + e - 52) (-1074))
    (some : 0 < m ∨ e ≤ -1074) :
    rank (.ofModel (.pack (roundWithAccuracy .binary64 s m e a))) = magnitudeBits (t * 2 ^ e) ∧
      sign (.ofModel (.pack (roundWithAccuracy .binary64 s m e a))) = s := by
  have start : (ExtendedMantissa.ofMantissaAndAccuracy m a).mantissa = m := by
    rcases a with _ | _ | _ | _ <;> rfl
  obtain ⟨low, high⟩ := stands.bounds
  rw [start] at low high
  have unit : (0 : Rat) < 2 ^ e := zpow_pos (by norm_num) _
  -- the scale that the significand is brought to is that of the numbers around the rational
  have scale : max ((m.log2 : Int) + e - 52) (-1074) = grid (t * 2 ^ e) := by
    rcases Nat.eq_zero_or_pos m with rfl | full
    · have order := (binaryOrder_spec (mul_pos positive unit)).1
      have small : t * 2 ^ e < 2 ^ e := mul_lt_of_lt_one_left unit (by simpa using high)
      have less := (zpow_lt_zpow_iff_right₀ (a := (2 : Rat)) (by norm_num)).mp (order.trans_lt small)
      rw [grid, Nat.log2_zero]
      omega
    · have least : (2 : Rat) ^ (m.log2 : Int) ≤ m := by exact_mod_cast Nat.log2_self_le full.ne'
      have most : (m : Rat) + 1 ≤ 2 ^ ((m.log2 : Int) + 1) := by
        exact_mod_cast (Nat.lt_log2_self (n := m))
      have order : binaryOrder (t * 2 ^ e) = m.log2 + e := by
        apply binaryOrder_eq
        · rw [zpow_add₀ (by norm_num)]
          exact mul_le_mul_of_nonneg_right (least.trans low) unit.le
        · rw [add_right_comm, zpow_add₀ (by norm_num)]
          exact mul_lt_mul_of_pos_right (high.trans_le most) unit
      rw [grid, order]
  obtain ⟨k, shifted⟩ : ∃ k : Nat, grid (t * 2 ^ e) = e + k :=
    ⟨(grid (t * 2 ^ e) - e).toNat, by omega⟩
  have first : shiftToTargetExponent .binary64 m e a =
      (ExtendedMantissa.ofMantissaAndAccuracy m a >>> k, grid (t * 2 ^ e)) := by
    rw [shiftToTargetExponent, targetExponent_eq, scale, shiftToExponent, shifted, add_sub_cancel_left,
      Int.toNat_natCast]
  have rounded : ((ExtendedMantissa.ofMantissaAndAccuracy m a >>> k).roundedMantissa : Int) =
      roundHalfEven (t * 2 ^ e / 2 ^ grid (t * 2 ^ e)) := by
    rw [(stands.shift k).rounded, shifted, zpow_add₀ (by norm_num), zpow_natCast, mul_comm t,
      mul_div_mul_left _ _ unit.ne']
  have range := significand_range (mul_pos positive unit)
  have least : -1074 ≤ grid (t * 2 ^ e) := le_max_right _ _
  rw [magnitudeBits_eq, ← rounded, Int.toNat_natCast, roundWithAccuracy, first]
  rw [← rounded] at range
  dsimp only
  generalize (ExtendedMantissa.ofMantissaAndAccuracy m a >>> k).roundedMantissa = n at range ⊢
  generalize grid (t * 2 ^ e) = g at range least ⊢
  exact rank_carried s range least

/-! ### Signs -/

theorem infinite_of_rank (greatest : rank x = ranks) : x = infinity ∨ x = -infinity := by
  have infinite : rank infinity = ranks ∧ negative infinity = false ∧
      rank (-infinity) = ranks ∧ negative (-infinity) = true := by
    decide
  obtain ⟨up, plain, down, signed⟩ := infinite
  cases sign : negative x with
  | false => exact .inl (eq_of_rank (sign.trans plain.symm) (greatest.trans up.symm))
  | true => exact .inr (eq_of_rank (sign.trans signed.symm) (greatest.trans down.symm))

theorem isNaN_of_rank (number : rank x ≤ ranks) : x.isNaN = false := by
  rcases number.lt_or_eq with less | greatest
  · exact isNaN_of_finite (finite_iff_rank.mpr less)
  · rcases infinite_of_rank greatest with rfl | rfl <;> decide

theorem rank_neg (number : rank x ≤ ranks) :
    rank (-x) = rank x ∧ negative (-x) = !negative x := by
  rcases number.lt_or_eq with less | greatest
  · have finite := finite_iff_rank.mpr less
    rw [neg_eq finite, rank_withSign, negative_withSign _ finite, sign]
    refine ⟨rfl, ?_⟩
    cases negative x <;> rfl
  · rcases infinite_of_rank greatest with rfl | rfl <;> decide

/-- The nearest number by its rank and its sign. -/
theorem nearest_fields (nonzero : q ≠ 0) :
    rank (nearest q) = magnitudeBits |q| ∧ negative (nearest q) = decide (q < 0) := by
  rcases lt_or_gt_of_ne nonzero with below | above
  · obtain ⟨rank, sign⟩ := rank_nearest (neg_pos.mpr below)
    have opposite : nearest q = -nearest (-q) := by
      rw [nearest, if_neg nonzero, if_pos below, nearest, if_neg (neg_ne_zero.mpr nonzero),
        if_neg (not_lt.mpr (neg_pos.mpr below).le)]
    obtain ⟨same, other⟩ := rank_neg (rank.trans_le (magnitudeBits_le (-q)))
    rw [opposite, same, other, rank, sign, abs_of_neg below]
    exact ⟨rfl, (decide_eq_true below).symm⟩
  · obtain ⟨rank, sign⟩ := rank_nearest above
    rw [rank, sign, abs_of_pos above]
    exact ⟨rfl, (decide_eq_false above.le.not_gt).symm⟩

def signed (s : Sign) (q : Rat) : Rat :=
  match s with
  | .positive => q
  | .negative => -q

/-- Rounding gives the number nearest to the rational that stands there. -/
theorem round_eq_nearest (s : Sign) {a : Accuracy} (stands : Stands (.ofMantissaAndAccuracy m a) t)
    (positive : 0 < t) (long : e ≤ max ((m.log2 : Int) + e - 52) (-1074))
    (some : 0 < m ∨ e ≤ -1074) :
    Float.ofModel (.pack (roundWithAccuracy .binary64 s m e a)) = nearest (signed s (t * 2 ^ e)) := by
  have product : 0 < t * 2 ^ e := mul_pos positive (zpow_pos (by norm_num) _)
  obtain ⟨rank, sign⟩ := rank_round s stands positive long some
  unfold Binary64.sign at sign
  cases s with
  | positive =>
    obtain ⟨other, plain⟩ := nearest_fields product.ne'
    rw [decide_eq_false product.le.not_gt] at plain
    rw [abs_of_pos product] at other
    refine eq_of_rank (Eq.trans ?_ plain.symm) (rank.trans other.symm)
    split at sign
    · cases sign
    · next plain => exact Bool.eq_false_of_not_eq_true plain
  | negative =>
    obtain ⟨other, below⟩ := nearest_fields (neg_ne_zero.mpr product.ne')
    rw [decide_eq_true (neg_neg_of_pos product)] at below
    rw [abs_neg, abs_of_pos product] at other
    refine eq_of_rank (Eq.trans ?_ below.symm) (rank.trans other.symm)
    split at sign
    · next below => exact below
    · cases sign

/-- Rounding an integer at a scale. -/
theorem rounded_eq_nearest {m : Int} (nonzero : m ≠ 0) : rounded m e = nearest (m * 2 ^ e) := by
  have magnitude (s : Sign) (n : Nat) (some : 0 < n) :
      Float.ofModel (.pack (.round .binary64 s n e)) = nearest (signed s (n * 2 ^ e)) := by
    generalize scale : max ((n.log2 : Int) + e - 52) (-1074) = t
    have order := log2_mul_two_pow some (e - t).toNat
    have positive : 0 < n * 2 ^ (e - t).toNat := Nat.mul_pos some (Nat.two_pow_pos _)
    rw [round_eq, scale]
    dsimp only
    rw [round_eq_nearest s (stands_exact _) (Nat.cast_pos.mpr positive) (by omega) (.inl positive)]
    congr 2
    rw [Nat.cast_mul, Nat.cast_pow, Nat.cast_ofNat, mul_assoc, ← zpow_natCast,
      ← zpow_add₀ (by norm_num), add_sub_cancel]
  unfold rounded UnpackedFloat.normalize
  rcases lt_or_gt_of_ne nonzero with below | above
  · obtain ⟨n, rfl⟩ : ∃ n : Nat, m = -n := ⟨(-m).toNat, by omega⟩
    rw [compare_lt_iff_lt.mpr below]
    dsimp only
    rw [neg_neg, Int.toNat_natCast, magnitude .negative n (by omega), signed, Int.cast_neg,
      Int.cast_natCast, neg_mul]
  · obtain ⟨n, rfl⟩ : ∃ n : Nat, m = n := ⟨m.toNat, by omega⟩
    rw [compare_gt_iff_gt.mpr above]
    dsimp only
    rw [Int.toNat_natCast, magnitude .positive n (by omega), signed, Int.cast_natCast]

end GeoSearch.Binary64
