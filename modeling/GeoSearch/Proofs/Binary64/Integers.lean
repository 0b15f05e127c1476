import GeoSearch.Json.Number
import GeoSearch.Proofs.Decimal.Reader
/-!
Integers as binary64 numbers. An integer keeps 53 significant bits, the last of them rounded to the
nearest. So short integers are exact, the order of integers is never turned round, and integers are
confused only where they lie within the unit of that last bit.
-/
namespace GeoSearch.Binary64

variable {x y : Float} {a b : Int} {m n k : Nat}

/-! ### Natural numbers -/

/-- The unit of the last of 53 significant bits, one for a shorter number. -/
def lastBit (n : Nat) : Nat := 2 ^ (n.log2 - 52)

/-- A natural number at 53 significant bits, a half going to the even neighbour. -/
def significant (n : Nat) : Nat := (roundHalfEven ((n : Rat) / lastBit n)).toNat * lastBit n

theorem lastBit_le (bound : n < 2 ^ (53 + k)) : lastBit n ≤ 2 ^ k := by
  refine Nat.pow_le_pow_right two_pos ?_
  rcases n.eq_zero_or_pos with rfl | some
  · exact Nat.zero_le _
  · have := (Nat.log2_lt some.ne').mpr bound
    omega

theorem significant_of_short (short : n ≤ 2 ^ 53) : significant n = n := by
  rcases short.lt_or_eq with short | rfl
  · have unit : lastBit n = 1 := le_antisymm (lastBit_le (k := 0) short) (Nat.two_pow_pos _)
    rw [significant, unit, Nat.cast_one, div_one, roundHalfEven_natCast, Int.toNat_natCast, mul_one]
  · decide +kernel

/-- A number of 53 bits, or the one that carries out of them, by its place among all numbers. -/
theorem magnitude_of_rank (place : rank x = (k + 1074) * 2 ^ 52 + m) (full : 2 ^ 52 ≤ m)
    (most : m ≤ 2 ^ 53) : magnitude x = (m * 2 ^ k : Nat) := by
  have fraction := fractionField_lt x
  unfold rank at place
  rw [magnitude_eq]
  rcases most.lt_or_eq with short | rfl
  · have bits : significand x = m := by
      unfold significand
      split <;> omega
    have unit : scale x = k := by
      unfold scale
      split <;> omega
    rw [bits, unit, Nat.cast_mul, Nat.cast_pow, Nat.cast_ofNat, zpow_natCast]
  · have bits : significand x = 2 ^ 52 := by
      unfold significand
      split <;> omega
    have unit : scale x = (k + 1 : Nat) := by
      unfold scale
      split <;> omega
    rw [bits, unit, zpow_natCast]
    push_cast
    ring

theorem exists_lastBit (long : 2 ^ 53 ≤ n) :
    ∃ k, lastBit n = 2 ^ k ∧ 2 ^ 52 * 2 ^ k ≤ n ∧ n < 2 ^ 53 * 2 ^ k := by
  have nonzero : n ≠ 0 := ((Nat.two_pow_pos 53).trans_le long).ne'
  obtain ⟨k, order⟩ : ∃ k, n.log2 = 52 + k :=
    Nat.exists_eq_add_of_le ((by decide : 52 ≤ 53).trans ((Nat.le_log2 nonzero).mpr long))
  have low := Nat.log2_self_le nonzero
  have high : n < 2 ^ (n.log2 + 1) := Nat.lt_log2_self
  rw [order] at low high
  refine ⟨k, by rw [lastBit, order, Nat.add_sub_cancel_left], ?_, ?_⟩
  · rwa [← pow_add]
  · rwa [← pow_add, show 53 + k = 52 + k + 1 by omega]

/-- A long number is rounded to a significand of 53 bits at its unit, or to the one that carries. -/
theorem rank_nearest_natCast (low : 2 ^ 52 * 2 ^ k ≤ n) (high : n < 2 ^ 53 * 2 ^ k) (few : k < 971) :
    ∃ m : Nat, roundHalfEven ((n : Rat) / 2 ^ k) = m ∧ 2 ^ 52 ≤ m ∧ m ≤ 2 ^ 53 ∧
      rank (nearest n) = (k + 1074) * 2 ^ 52 + m := by
  have positive : (0 : Rat) < n := by
    have : 0 < 2 ^ 52 * 2 ^ k := by positivity
    exact Nat.cast_pos.mpr (this.trans_le low)
  have scale : grid n = k := by
    refine Decimal.grid_eq positive (by omega) (.inl ?_) ?_ <;> rw [zpow_natCast]
    · exact_mod_cast low
    · exact_mod_cast high
  obtain ⟨full, most⟩ := significand_range positive
  have full := full.resolve_right (by omega)
  obtain ⟨place, -⟩ := rank_nearest positive
  rw [magnitudeBits_eq] at place
  rw [scale, zpow_natCast] at full most place
  obtain ⟨m, rounded⟩ := Int.eq_ofNat_of_zero_le ((by decide : (0 : Int) ≤ 2 ^ 52).trans full)
  rw [rounded] at full most place
  refine ⟨m, rounded, by omega, by omega, ?_⟩
  unfold ranks at place
  omega

/-- The number nearest to a natural number has its 53 significant bits. -/
theorem value_of_rounds_natCast (rounds : Rounds n x) (fits : n < 2 ^ 64) :
    x.isFinite = true ∧ value x = significant n := by
  rcases lt_or_ge n (2 ^ 53) with short | long
  · rw [significant_of_short short.le]
    exact rounds.natCast short
  obtain ⟨k, unit, low, high⟩ := exists_lastBit long
  have few : 52 + k < 64 := by
    rw [← Nat.pow_lt_pow_iff_right one_lt_two, pow_add]
    exact low.trans_lt fits
  obtain ⟨m, rounded, full, most, place⟩ := rank_nearest_natCast low high (by omega)
  have positive : (0 : Rat) < n := Nat.cast_pos.mpr ((Nat.two_pow_pos 53).trans_le long)
  obtain rfl := rounds.eq_nearest positive.ne'
  constructor
  · rw [finite_iff_rank, place]
    unfold ranks
    omega
  · rw [value, (rank_nearest positive).2, magnitude_of_rank place full most, significant, unit,
      Nat.cast_pow, Nat.cast_ofNat, rounded, Int.toNat_natCast]
    rfl

theorem significant_mono (order : m ≤ n) (fits : n < 2 ^ 64) : significant m ≤ significant n := by
  have values := Rounds.mono (rounds_ofNat m) (rounds_ofNat n) (Nat.cast_le.mpr order)
  rw [(value_of_rounds_natCast (rounds_ofNat m) (order.trans_lt fits)).2,
    (value_of_rounds_natCast (rounds_ofNat n) fits).2] at values
  exact_mod_cast values

/-- A number is moved by half a unit of its last bit at most. -/
theorem significant_near (n : Nat) : 2 * |(significant n : Int) - n| ≤ lastBit n := by
  have unit : (0 : Rat) < lastBit n := Nat.cast_pos.mpr (Nat.two_pow_pos _)
  have near := roundHalfEven_spec ((n : Rat) / lastBit n)
  have nonneg : 0 ≤ roundHalfEven ((n : Rat) / lastBit n) := by
    have zero : roundHalfEven ((0 : Nat) : Rat) = 0 := roundHalfEven_natCast 0
    refine zero.ge.trans (roundHalfEven_mono ?_)
    rw [Nat.cast_zero]
    positivity
  obtain ⟨r, rounded⟩ := Int.eq_ofNat_of_zero_le nonneg
  rw [significant, rounded, Int.toNat_natCast]
  rw [rounded, Int.cast_natCast, sub_div' unit.ne', abs_div, abs_of_pos unit, div_le_iff₀ unit] at near
  have doubled : 2 * |((r * lastBit n : Nat) : Rat) - n| ≤ lastBit n := by
    push_cast
    linarith
  exact_mod_cast doubled

/-! ### Integers -/

def shortened (a : Int) : Int := a.sign * significant a.natAbs

@[simp] theorem shortened_natCast (n : Nat) : shortened n = significant n := by
  rcases n.eq_zero_or_pos with rfl | some
  · decide +kernel
  · rw [shortened, Int.sign_natCast_of_ne_zero some.ne', Int.natAbs_natCast, one_mul]

@[simp] theorem shortened_neg (a : Int) : shortened (-a) = -shortened a := by
  rw [shortened, Int.sign_neg, Int.natAbs_neg, neg_mul, shortened]

theorem shortened_of_short (short : a.natAbs ≤ 2 ^ 53) : shortened a = a := by
  rw [shortened, significant_of_short short, Int.sign_mul_natAbs]

theorem shortened_mono (order : a ≤ b) (left : a.natAbs < 2 ^ 64) (right : b.natAbs < 2 ^ 64) :
    shortened a ≤ shortened b := by
  rcases Int.eq_nat_or_neg a with ⟨m, rfl | rfl⟩ <;> rcases Int.eq_nat_or_neg b with ⟨n, rfl | rfl⟩ <;>
    simp only [shortened_neg, shortened_natCast, Int.natAbs_neg, Int.natAbs_natCast] at left right ⊢
  · exact_mod_cast significant_mono (by omega) right
  · obtain ⟨rfl, rfl⟩ : m = 0 ∧ n = 0 := by omega
    decide +kernel
  · omega
  · have := significant_mono (m := n) (n := m) (by omega) left
    omega

theorem shortened_near (a : Int) : 2 * |shortened a - a| ≤ lastBit a.natAbs := by
  rcases Int.eq_nat_or_neg a with ⟨n, rfl | rfl⟩
  · simpa using significant_near n
  · rw [shortened_neg, shortened_natCast, ← neg_sub', abs_neg, Int.natAbs_neg, Int.natAbs_natCast]
    exact significant_near n

/-! ### Integers that are told apart -/

/-- Integers that are the same, or still differ at 53 significant bits. -/
def ToldApart (a b : Int) : Prop := a = b ∨ shortened a ≠ shortened b

instance (a b : Int) : Decidable (ToldApart a b) := inferInstanceAs (Decidable (_ ∨ _))

theorem ToldApart.symm (apart : ToldApart a b) : ToldApart b a := apart.imp Eq.symm Ne.symm

/-- An integer below 53 bits is not confused with any other. -/
theorem toldApart_of_short (short : a.natAbs < 2 ^ 53) (fits : b.natAbs < 2 ^ 64) : ToldApart a b := by
  have here := shortened_of_short short.le
  rcases lt_trichotomy a b with less | same | greater
  · have next := shortened_of_short (a := a + 1) (by omega)
    have order := shortened_mono (a := a + 1) less (by omega) fits
    exact .inr (by omega)
  · exact .inl same
  · have next := shortened_of_short (a := a - 1) (by omega)
    have order := shortened_mono (b := a - 1) (by omega) fits (by omega)
    exact .inr (by omega)

/-- Integers further apart than the unit of their last bit are not confused. -/
theorem toldApart_of_far (left : a.natAbs < 2 ^ (53 + k)) (right : b.natAbs < 2 ^ (53 + k))
    (far : 2 ^ k < |a - b|) : ToldApart a b := by
  refine .inr fun same => ?_
  have first := shortened_near a
  have second := shortened_near b
  have unit := lastBit_le left
  have unit' := lastBit_le right
  rw [same] at first
  have apart : |a - b| ≤ |shortened b - a| + |shortened b - b| := by
    rw [abs_sub_comm (shortened b) a]
    exact abs_sub_le a (shortened b) b
  have power : ((2 ^ k : Nat) : Int) = 2 ^ k := by push_cast; rfl
  omega

end GeoSearch.Binary64
