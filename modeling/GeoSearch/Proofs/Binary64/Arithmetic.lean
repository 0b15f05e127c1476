import GeoSearch.Proofs.Binary64.Correct
/-!
Sums, differences, products and quotients of finite numbers are the numbers nearest to the exact results.
So they lie between any two numbers that the exact result lies between.
-/
namespace GeoSearch.Binary64

open Float.Model (UnpackedFloat Format totalExponent)
open Float.Model.UnpackedFloat (Sign)

variable {x y z low high : Float} {q r : Rat}

/-- A number that an exact result is rounded to: the nearest one, where a zero may have either sign. -/
def Rounds (q : Rat) (x : Float) : Prop := x = nearest q ∨ q = 0 ∧ x.isFinite = true ∧ value x = 0

/-! ### Bounds of what is rounded -/

theorem abs_value_lt (finite : x.isFinite = true) : |value x| < 2 ^ 1024 := by
  have unit : (0 : Rat) < 2 ^ scale x := zpow_pos (by norm_num) _
  have short : (significand x : Rat) < 2 ^ 53 := by exact_mod_cast significand_lt x
  calc |value x| = significand x * 2 ^ scale x := (abs_value x).trans (magnitude_eq x)
    _ < 2 ^ 53 * 2 ^ scale x := mul_lt_mul_of_pos_right short unit
    _ ≤ 2 ^ 53 * 2 ^ ((971 : Nat) : Int) := by
      gcongr
      · norm_num
      · exact (scale_range finite).2
    _ = 2 ^ 1024 := by rw [zpow_natCast, ← pow_add]

theorem value_of_nonzero (nonzero : value x ≠ 0) : 0 < significand x ∧
    negative x = decide (value x < 0) := by
  have some : 0 < significand x := by
    refine Nat.pos_of_ne_zero fun zero => nonzero ?_
    rw [← abs_eq_zero, abs_value, magnitude_zero zero]
  have positive := magnitude_pos some
  refine ⟨some, ?_⟩
  unfold value
  cases negative x <;> simp [positive, positive.le]

/-- The number nearest to the value of a number is that number. -/
theorem nearest_value (finite : x.isFinite = true) (nonzero : value x ≠ 0) :
    nearest (value x) = x := by
  obtain ⟨some, sign⟩ := value_of_nonzero nonzero
  obtain ⟨rank, other⟩ := nearest_fields nonzero
  refine eq_of_rank (other.trans sign.symm) (rank.trans ?_)
  rw [abs_value, magnitudeBits_magnitude finite some]
  rfl

theorem rounds_value (finite : x.isFinite = true) : Rounds (value x) x := by
  by_cases zero : value x = 0
  · exact .inr ⟨zero, finite, zero⟩
  · exact .inl (nearest_value finite zero).symm

/-- A result has the sign of the exact one. -/
theorem value_nearest_eq (nonzero : q ≠ 0) :
    value (nearest q) = if q < 0 then -magnitude (nearest q) else magnitude (nearest q) := by
  simp only [value, (nearest_fields nonzero).2, decide_eq_true_eq]

/-- A magnitude that is not above that of a number is rounded to one that is not above it. -/
theorem magnitude_nearest_le (nonzero : q ≠ 0) (finite : z.isFinite = true)
    (order : |q| ≤ magnitude z) :
    (nearest q).isFinite = true ∧ magnitude (nearest q) ≤ magnitude z := by
  have positive : 0 < |q| := abs_pos.mpr nonzero
  have some : 0 < significand z := (value_of_nonzero (x := z) (by
    rw [← abs_pos, abs_value]
    exact positive.trans_le order)).1
  have ranks : rank (nearest q) ≤ rank z := by
    rw [(nearest_fields nonzero).1]
    exact (magnitudeBits_mono positive order).trans_eq (magnitudeBits_magnitude finite some)
  exact ⟨finite_iff_rank.mpr (ranks.trans_lt (finite_iff_rank.mp finite)),
    magnitude_le_of_rank ranks⟩

theorem le_magnitude_nearest (finite : z.isFinite = true) (order : magnitude z ≤ |q|) :
    magnitude z ≤ magnitude (nearest q) := by
  by_cases zero : magnitude z = 0
  · rw [zero]
    exact magnitude_nonneg _
  · have positive : 0 < magnitude z := (magnitude_nonneg z).lt_of_ne' zero
    have nonzero : q ≠ 0 := abs_pos.mp (positive.trans_le order)
    have some : 0 < significand z := Nat.pos_of_ne_zero fun none => zero (magnitude_zero none)
    refine magnitude_le_of_rank ?_
    rw [(nearest_fields nonzero).1]
    exact (magnitudeBits_magnitude finite some).ge.trans (magnitudeBits_mono positive order)

theorem zero_exact : (0.0 : Float).isFinite = true ∧ value 0.0 = 0 := by decide +kernel

theorem one_exact : (1.0 : Float).isFinite = true ∧ value 1.0 = 1 := by decide +kernel

theorem two_exact : (2.0 : Float).isFinite = true ∧ value 2.0 = 2 := by decide +kernel

theorem nearest_zero : (nearest 0).isFinite = true ∧ value (nearest 0) = 0 := by
  rw [nearest, if_pos rfl]
  exact zero_exact

theorem nearest_le (nonzero : q ≠ 0) (finite : z.isFinite = true) (order : q ≤ value z) : value (nearest q) ≤ value z := by
  rw [value_nearest_eq nonzero]
  split
  · next below =>
    rcases le_total 0 (value z) with above | under
    · exact (neg_nonpos.mpr (magnitude_nonneg _)).trans above
    · have far : magnitude z ≤ |q| := by
        rw [← abs_value, abs_of_nonpos under, abs_of_neg below]
        exact neg_le_neg order
      have kept := le_magnitude_nearest finite far
      rw [← abs_value, abs_of_nonpos under] at kept
      linarith
  · next above =>
    have near : |q| ≤ magnitude z := by
      rw [abs_of_nonneg (not_lt.mp above), ← abs_value]
      exact order.trans (le_abs_self _)
    have kept := (magnitude_nearest_le nonzero finite near).2
    rwa [← abs_value z, abs_of_nonneg ((not_lt.mp above).trans order)] at kept

theorem value_nearest_neg (nonzero : q ≠ 0) : value (nearest (-q)) = -value (nearest q) := by
  have same : magnitude (nearest (-q)) = magnitude (nearest q) := by
    have ranks : rank (nearest (-q)) = rank (nearest q) := by
      rw [(nearest_fields (neg_ne_zero.mpr nonzero)).1, (nearest_fields nonzero).1, abs_neg]
    exact le_antisymm (magnitude_le_of_rank ranks.le) (magnitude_le_of_rank ranks.ge)
  rw [value_nearest_eq (neg_ne_zero.mpr nonzero), value_nearest_eq nonzero, same]
  rcases lt_or_gt_of_ne nonzero with below | above
  · rw [if_neg (not_lt.mpr (neg_pos.mpr below).le), if_pos below, neg_neg]
  · rw [if_pos (neg_neg_of_pos above), if_neg (not_lt.mpr above.le)]

theorem le_nearest (nonzero : q ≠ 0) (finite : z.isFinite = true) (order : value z ≤ q) :
    value z ≤ value (nearest q) := by
  have opposite := nearest_le (neg_ne_zero.mpr nonzero) (finite_neg finite)
    ((neg_le_neg order).trans_eq (value_neg finite).symm)
  rw [value_nearest_neg nonzero, value_neg finite] at opposite
  exact neg_le_neg_iff.mp opposite

/-- What is rounded from below a number is not above it. -/
theorem Rounds.value_le (rounds : Rounds q x) (most : z.isFinite = true) (above : q ≤ value z) :
    value x ≤ value z := by
  rcases rounds with rfl | ⟨rfl, -, zero⟩
  · by_cases nonzero : q = 0
    · rw [nonzero] at above ⊢
      exact nearest_zero.2.trans_le above
    · exact nearest_le nonzero most above
  · exact zero.trans_le above

/-- What is rounded from above a number is not below it. -/
theorem Rounds.le_value (rounds : Rounds q x) (least : z.isFinite = true) (below : value z ≤ q) :
    value z ≤ value x := by
  rcases rounds with rfl | ⟨rfl, -, zero⟩
  · by_cases nonzero : q = 0
    · rw [nonzero] at below ⊢
      exact below.trans_eq nearest_zero.2.symm
    · exact le_nearest nonzero least below
  · exact below.trans_eq zero.symm

/-- What is rounded from between two numbers is between them. -/
theorem Rounds.within (rounds : Rounds q x) (least : low.isFinite = true) (most : high.isFinite = true)
    (below : value low ≤ q) (above : q ≤ value high) :
    x.isFinite = true ∧ value low ≤ value x ∧ value x ≤ value high := by
  refine ⟨?_, rounds.le_value least below, rounds.value_le most above⟩
  rcases rounds with rfl | ⟨rfl, finite, -⟩
  · by_cases nonzero : q = 0
    · rw [nonzero]
      exact nearest_zero.1
    · rcases le_total 0 q with right | left
      · refine (magnitude_nearest_le nonzero most ?_).1
        rw [abs_of_nonneg right, ← abs_value]
        exact above.trans (le_abs_self _)
      · refine (magnitude_nearest_le nonzero least ?_).1
        rw [abs_of_nonpos left, ← abs_value]
        exact (neg_le_neg below).trans (neg_le_abs _)
  · exact finite

/-- Rounding keeps the order. -/
theorem Rounds.mono (first : Rounds q x) (second : Rounds r y) (order : q ≤ r) :
    value x ≤ value y := by
  have zero_le {z : Float} {t : Rat} (rounds : Rounds t z) (nonneg : 0 ≤ t) : 0 ≤ value z :=
    nearest_zero.2.ge.trans (rounds.le_value nearest_zero.1 (nearest_zero.2.trans_le nonneg))
  have le_zero {z : Float} {t : Rat} (rounds : Rounds t z) (nonpos : t ≤ 0) : value z ≤ 0 :=
    (rounds.value_le nearest_zero.1 (nonpos.trans_eq nearest_zero.2.symm)).trans nearest_zero.2.le
  have magnitudes {s t : Rat} (positive : 0 < |s|) (order : |s| ≤ |t|) :
      magnitude (nearest s) ≤ magnitude (nearest t) := by
    refine magnitude_le_of_rank ?_
    rw [(nearest_fields (abs_pos.mp positive)).1,
      (nearest_fields (abs_pos.mp (positive.trans_le order))).1]
    exact magnitudeBits_mono positive order
  rcases lt_trichotomy q 0 with below | rfl | above
  · rcases le_or_gt 0 r with right | left
    · exact (le_zero first below.le).trans (zero_le second right)
    · obtain rfl := first.resolve_right fun zero => below.ne zero.1
      obtain rfl := second.resolve_right fun zero => left.ne zero.1
      rw [value_nearest_eq below.ne, value_nearest_eq left.ne, if_pos below, if_pos left]
      refine neg_le_neg (magnitudes (abs_pos.mpr left.ne) ?_)
      rw [abs_of_neg below, abs_of_neg left]
      exact neg_le_neg order
  · exact (le_zero first le_rfl).trans (zero_le second order)
  · have right := above.trans_le order
    obtain rfl := first.resolve_right fun zero => above.ne' zero.1
    obtain rfl := second.resolve_right fun zero => right.ne' zero.1
    rw [value_nearest_eq above.ne', value_nearest_eq right.ne', if_neg above.le.not_gt,
      if_neg right.le.not_gt]
    refine magnitudes (abs_pos.mpr above.ne') ?_
    rwa [abs_of_pos above, abs_of_pos right]

theorem Rounds.exact (rounds : Rounds (value z) x) (finite : z.isFinite = true) :
    x.isFinite = true ∧ value x = value z := by
  obtain ⟨known, above, below⟩ := rounds.within finite finite le_rfl le_rfl
  exact ⟨known, le_antisymm below above⟩

/-- What is rounded from within an integer of 53 bits stays within it. -/
theorem Rounds.abs_value_le (rounds : Rounds q x) {n : Nat} (short : n < 2 ^ 53) (bound : |q| ≤ n) :
    x.isFinite = true ∧ |value x| ≤ n := by
  have bits : |(n : Int)| < 2 ^ 53 := by
    rw [Nat.abs_cast]
    exact_mod_cast short
  obtain ⟨most, up⟩ := value_rounded (e := 0) bits (by decide) (by decide)
  obtain ⟨least, down⟩ := value_rounded (m := -n) (e := 0) (by rwa [abs_neg]) (by decide) (by decide)
  rw [zpow_zero, mul_one, Int.cast_natCast] at up
  rw [zpow_zero, mul_one, Int.cast_neg, Int.cast_natCast] at down
  obtain ⟨left, right⟩ := abs_le.mp bound
  obtain ⟨known, above, below⟩ :=
    rounds.within least most (down.trans_le left) (right.trans_eq up.symm)
  exact ⟨known, abs_le.mpr ⟨down.ge.trans above, below.trans_eq up⟩⟩

/-- An integer of 53 bits is not rounded. -/
theorem Rounds.natCast {n : Nat} (rounds : Rounds n x) (short : n < 2 ^ 53) :
    x.isFinite = true ∧ value x = n := by
  have bits : |(n : Int)| < 2 ^ 53 := by
    rw [Nat.abs_cast]
    exact_mod_cast short
  obtain ⟨finite, number⟩ := value_rounded (e := 0) bits (by decide) (by decide)
  rw [zpow_zero, mul_one, Int.cast_natCast] at number
  rw [← number] at rounds ⊢
  exact rounds.exact finite

/-- Rounding moves a number by at most the unit of the numbers of its size. -/
theorem Rounds.error_le_unit (rounds : Rounds q x) {e : Int} (least : -1074 ≤ e) (most : e ≤ 971)
    (bound : |q| < 2 ^ 52 * 2 ^ e) : x.isFinite = true ∧ |value x - q| ≤ 2 ^ e := by
  have positive : (0 : Rat) < 2 ^ e := zpow_pos (by norm_num) _
  generalize unit_eq : (2 : Rat) ^ e = unit at bound positive ⊢
  -- the multiples of the unit below and above the number are not rounded
  have scaled : |q / unit| < 2 ^ 52 := by
    rwa [abs_div, abs_of_pos positive, div_lt_iff₀ positive]
  obtain ⟨left, right⟩ := abs_lt.mp scaled
  have below := Int.floor_le (q / unit)
  have above := Int.lt_floor_add_one (q / unit)
  generalize ⌊q / unit⌋ = m at below above
  rw [le_div_iff₀ positive] at below
  rw [div_lt_iff₀ positive] at above
  have lowest : -2 ^ 52 ≤ m := by
    have : (-2 ^ 52 : Rat) < m + 1 := left.trans (by rwa [div_lt_iff₀ positive])
    exact Int.lt_add_one_iff.mp (by exact_mod_cast this)
  have highest : m < 2 ^ 52 := by
    have : (m : Rat) < 2 ^ 52 := lt_of_le_of_lt (by rwa [le_div_iff₀ positive]) right
    exact_mod_cast this
  obtain ⟨low, down⟩ := value_rounded (m := m) (e := e) (abs_lt.mpr ⟨by omega, by omega⟩) least most
  obtain ⟨high, up⟩ := value_rounded (m := m + 1) (e := e) (abs_lt.mpr ⟨by omega, by omega⟩) least most
  rw [unit_eq] at down up
  rw [Int.cast_add, Int.cast_one] at up
  obtain ⟨known, low_le, le_high⟩ :=
    rounds.within low high (down.trans_le below) (above.le.trans_eq up.symm)
  rw [down] at low_le
  rw [up] at le_high
  refine ⟨known, ?_⟩
  rw [abs_le]
  constructor <;> linarith

/-- Rounding moves a number of a given size by less than its last bit. -/
theorem Rounds.error_le (rounds : Rounds q x) {n : Nat} (some : 0 < n) (short : n < 2 ^ 53)
    (bound : |q| ≤ n) : |value x - q| ≤ n / 2 ^ 51 := by
  have order : ((2 ^ n.log2 : Nat) : Rat) ≤ n := Nat.cast_le.mpr (Nat.log2_self_le some.ne')
  have next : (n : Rat) < (2 ^ (n.log2 + 1) : Nat) := Nat.cast_lt.mpr Nat.lt_log2_self
  have few : n.log2 < 53 := (Nat.log2_lt some.ne').mpr short
  generalize n.log2 = k at order next few
  push_cast at order next
  have size : (2 : Rat) ^ ((k : Int) - 51) * 2 ^ 51 = 2 ^ k := by
    rw [← zpow_natCast, ← zpow_natCast, ← zpow_add₀ (by norm_num)]
    congr 1
    omega
  have room : |q| < 2 ^ 52 * 2 ^ ((k : Int) - 51) := by
    refine bound.trans_lt (next.trans_eq ?_)
    rw [pow_succ, ← size]
    ring
  refine (rounds.error_le_unit (by omega) (by omega) room).2.trans ?_
  rw [le_div_iff₀ (by norm_num), size]
  exact order

/-- Rounding moves a number by a small part of itself, unless it is too small or too large. -/
theorem Rounds.relative (rounds : Rounds q x) (normal : 2 ^ (-1000 : Int) ≤ |q|)
    (fits : |q| ≤ 2 ^ (1022 : Int)) : x.isFinite = true ∧ |value x - q| ≤ |q| / 2 ^ 51 := by
  have positive : 0 < |q| := (zpow_pos (by norm_num) _).trans_le normal
  obtain ⟨order, next⟩ := binaryOrder_spec positive
  generalize binaryOrder |q| = k at order next
  have least := (zpow_lt_zpow_iff_right₀ (a := (2 : Rat)) (by norm_num)).mp (normal.trans_lt next)
  have most := (zpow_le_zpow_iff_right₀ (a := (2 : Rat)) (by norm_num)).mp (order.trans fits)
  have size : (2 : Rat) ^ (k - 51) * 2 ^ 51 = 2 ^ k := by
    rw [← zpow_natCast, ← zpow_add₀ (by norm_num), Nat.cast_ofNat, sub_add_cancel]
  have room : |q| < 2 ^ 52 * 2 ^ (k - 51) := by
    refine next.trans_eq ?_
    rw [zpow_add_one₀ (by norm_num), ← size]
    ring
  obtain ⟨finite, error⟩ := rounds.error_le_unit (by omega) (by omega) room
  refine ⟨finite, error.trans ?_⟩
  rwa [le_div_iff₀ (by norm_num), size]

/-- Rounding moves a number by a small part of itself and of one. -/
theorem Rounds.moved (rounds : Rounds q x) (fits : |q| ≤ 2 ^ (1022 : Int)) :
    |value x - q| ≤ (1 + |q|) / 2 ^ 51 := by
  have nonneg := abs_nonneg q
  rcases le_or_gt |q| 1 with small | large
  · refine (rounds.error_le (n := 1) one_pos (by decide) (by exact_mod_cast small)).trans ?_
    rw [Nat.cast_one]
    gcongr
    linarith
  · have normal : (2 : Rat) ^ (-1000 : Int) ≤ |q| :=
      (zpow_le_one_of_nonpos₀ one_le_two (by decide)).trans large.le
    refine (rounds.relative normal fits).2.trans ?_
    gcongr
    linarith

/-- What is rounded is finite or an infinity. -/
theorem Rounds.finite_or_infinite {q : Rat} (rounds : Rounds q x) :
    x.isFinite = true ∨ x = infinity ∨ x = -infinity := by
  rcases rounds with rfl | ⟨-, finite, -⟩
  · by_cases zero : q = 0
    · exact .inl (zero ▸ nearest_zero.1)
    · have most := (nearest_fields zero).1.trans_le (magnitudeBits_le |q|)
      exact most.lt_or_eq.imp finite_iff_rank.mpr infinite_of_rank
  · exact .inl finite

/-- What is rounded is a number, if only infinity. -/
theorem Rounds.number (rounds : Rounds q x) : x.isNaN = false := by
  rcases rounds with rfl | ⟨-, finite, -⟩
  · by_cases zero : q = 0
    · rw [zero]
      exact isNaN_of_finite nearest_zero.1
    · exact isNaN_of_rank ((nearest_fields zero).1.trans_le (magnitudeBits_le _))
  · exact isNaN_of_finite finite

/-! ### Operations -/

theorem rounds_zero (s : Sign) : Rounds 0 (.ofModel (.pack (.zero s))) := .inr ⟨rfl, value_zero s⟩

theorem rounds_rounded (m : Int) {e : Int} : Rounds (m * 2 ^ e) (rounded m e) := by
  by_cases zero : m = 0
  · rw [zero, Int.cast_zero, zero_mul]
    exact rounds_zero .positive
  · exact .inl (rounded_eq_nearest zero)

/-- The value of a number by its sign and its magnitude. -/
theorem signed_value (x : Float) : signed (sign x) (magnitude x) = value x := by
  rw [value_eq]
  cases sign x <;> rfl

theorem signed_mul (s t : Sign) (q r : Rat) : signed (s * t) (q * r) = signed s q * signed t r := by
  cases s <;> cases t
  · exact (neg_mul_neg q r).symm
  · exact (neg_mul q r).symm
  · exact (mul_neg q r).symm
  · rfl

theorem signed_div (s t : Sign) (q r : Rat) : signed (s / t) (q / r) = signed s q / signed t r := by
  cases s <;> cases t
  · exact (neg_div_neg_eq q r).symm
  · exact (neg_div r q).symm
  · exact (div_neg q).symm
  · rfl

section

variable {m n : Nat} {e f : Int} (s t : Sign) (some : 0 < m) (some' : 0 < n)

/-- A product of significands, if it is long enough to be rounded. -/
theorem mul_eq_nearest (long : 2 ^ 52 ≤ m * n ∨ e + f ≤ -1074) :
    Float.ofModel (.pack (.mul .binary64 (.finite s m e some) (.finite t n f some'))) =
      nearest (signed (s * t) (m * 2 ^ e * (n * 2 ^ f))) := by
  have product : 0 < m * n := Nat.mul_pos some some'
  have fits : e + f ≤ max (((m * n).log2 : Int) + (e + f) - 52) (-1074) := by
    rcases long with full | least
    · have order := (Nat.le_log2 product.ne').mpr full
      omega
    · omega
  rw [UnpackedFloat.mul, round_eq_nearest (s * t) (stands_exact _) (Nat.cast_pos.mpr product) fits
    (.inl product), zpow_add₀ (by norm_num)]
  congr 2
  push_cast
  ring

def quotientScale (m : Nat) (e : Int) (n : Nat) (f : Int) : Int :=
  min (e - f) (Format.binary64.targetExponent (totalExponent m e - totalExponent n f))

include some some'

/-- A quotient has 53 bits or is at the least scale. -/
theorem long_quotient (inner : -1074 < quotientScale m e n f) :
    2 ^ 52 ≤ m * 2 ^ (e - f - quotientScale m e n f).toNat / n := by
  have scale : quotientScale m e n f ≤ m.log2 + e - (n.log2 + f) - 53 := by
    simp only [quotientScale, Format.targetExponent, totalExponent, Format.mantissaBits,
      Format.minExponent] at inner ⊢
    omega
  have lower : quotientScale m e n f ≤ e - f := min_le_left _ _
  generalize quotientScale m e n f = g at *
  rw [Nat.le_div_iff_mul_le some']
  calc 2 ^ 52 * n ≤ 2 ^ 52 * 2 ^ (n.log2 + 1) := Nat.mul_le_mul_left _ Nat.lt_log2_self.le
    _ = 2 ^ (n.log2 + 53) := by
      rw [← pow_add]
      congr 1
      omega
    _ ≤ 2 ^ (m.log2 + (e - f - g).toNat) := Nat.pow_le_pow_right (by decide) (by omega)
    _ = 2 ^ m.log2 * 2 ^ (e - f - g).toNat := pow_add _ _ _
    _ ≤ m * 2 ^ (e - f - g).toNat := Nat.mul_le_mul_right _ (Nat.log2_self_le some.ne')

/-- A quotient of significands. -/
theorem div_eq_nearest :
    Float.ofModel (.pack (.div .binary64 (.finite s m e some) (.finite t n f some'))) =
      nearest (signed (s / t) (m * 2 ^ e / (n * 2 ^ f))) := by
  have lower : quotientScale m e n f ≤ e - f := min_le_left _ _
  have model : UnpackedFloat.div .binary64 (.finite s m e some) (.finite t n f some') =
      UnpackedFloat.roundWithAccuracy .binary64 (s / t)
        (m * 2 ^ (e - f - quotientScale m e n f).toNat / n) (quotientScale m e n f)
        (UnpackedFloat.accuracyOfFraction (m * 2 ^ (e - f - quotientScale m e n f).toNat % n) n) := by
    rw [← Nat.shiftLeft_eq]
    rfl
  have long := long_quotient (m := m) (e := e) (f := f) some some'
  rw [model]
  generalize quotientScale m e n f = g at lower long ⊢
  have shifted : 0 < m * 2 ^ (e - f - g).toNat := Nat.mul_pos some (Nat.two_pow_pos _)
  have fits : g ≤ max (((m * 2 ^ (e - f - g).toNat / n).log2 : Int) + g - 52) (-1074) := by
    by_cases inner : -1074 < g
    · have order := (Nat.le_log2 (by have := long inner; omega)).mpr (long inner)
      omega
    · omega
  have whole : 0 < m * 2 ^ (e - f - g).toNat / n ∨ g ≤ -1074 := by
    by_cases inner : -1074 < g
    · exact .inl ((by decide : 0 < 2 ^ 52).trans_le (long inner))
    · exact .inr (not_lt.mp inner)
  have positive : (0 : Rat) < (m * 2 ^ (e - f - g).toNat : Nat) / n :=
    div_pos (Nat.cast_pos.mpr shifted) (Nat.cast_pos.mpr some')
  have unit (h : Int) : (2 : Rat) ^ h ≠ 0 := (zpow_pos (by norm_num) _).ne'
  rw [round_eq_nearest (s / t) (stands_fraction some') positive fits whole]
  congr 2
  rw [Nat.cast_mul, Nat.cast_pow, Nat.cast_ofNat, ← zpow_natCast, Int.toNat_of_nonneg (by omega),
    zpow_sub₀ (by norm_num), zpow_sub₀ (by norm_num)]
  have n_ne : (n : Rat) ≠ 0 := (Nat.cast_pos.mpr some').ne'
  have := unit g
  have := unit f
  field_simp

end

/-- A significand is full, or its scale is the least one. -/
theorem full_or_least (x : Float) : 2 ^ 52 ≤ significand x ∨ scale x = -1074 := by
  unfold significand scale
  split_ifs <;> omega

section

variable (left : x.isFinite = true) (right : y.isFinite = true)

include left right

theorem rounds_add : Rounds (value x + value y) (x + y) := by
  have model : x + y = .ofModel (.pack (.add .binary64 x.toModel.unpack y.toModel.unpack)) := rfl
  by_cases first : value x = 0
  · have zero := unpack_zero left first
    by_cases second : value y = 0
    · rw [model, zero, unpack_zero right second, first, second, add_zero]
      cases sign x <;> cases sign y <;> exact rounds_zero _
    · obtain ⟨_, number⟩ := unpack_nonzero right second
      have same : x + y = y := by
        rw [model, zero, number]
        conv_rhs => rw [← ofModel_pack_unpack y, number]
        rfl
      rw [same, first, zero_add]
      exact rounds_value right
  · by_cases second : value y = 0
    · obtain ⟨_, number⟩ := unpack_nonzero left first
      have same : x + y = x := by
        rw [model, unpack_zero right second, number]
        conv_rhs => rw [← ofModel_pack_unpack x, number]
        rfl
      rw [same, second, add_zero]
      exact rounds_value left
    · have rounds := rounds_rounded
        (aligned x (min (scale x) (scale y)) + aligned y (min (scale x) (scale y)))
        (e := min (scale x) (scale y))
      rw [Int.cast_add, add_mul, value_aligned (min_le_left _ _),
        value_aligned (min_le_right _ _)] at rounds
      rwa [add_eq_rounded left right first second]

theorem rounds_sub : Rounds (value x - value y) (x - y) := by
  have model : x - y = .ofModel (.pack (.sub .binary64 x.toModel.unpack y.toModel.unpack)) := rfl
  by_cases first : value x = 0
  · have zero := unpack_zero left first
    by_cases second : value y = 0
    · rw [model, zero, unpack_zero right second, first, second, sub_zero]
      cases sign x <;> cases sign y <;> exact rounds_zero _
    · obtain ⟨_, number⟩ := unpack_nonzero right second
      have opposite : x - y = -y := by
        have negated : -y = .ofModel (.pack y.toModel.unpack.neg) := rfl
        rw [model, negated, zero, number]
        rfl
      rw [opposite, first, zero_sub, ← value_neg right]
      exact rounds_value (finite_neg right)
  · by_cases second : value y = 0
    · obtain ⟨_, number⟩ := unpack_nonzero left first
      have same : x - y = x := by
        rw [model, unpack_zero right second, number]
        conv_rhs => rw [← ofModel_pack_unpack x, number]
        rfl
      rw [same, second, sub_zero]
      exact rounds_value left
    · have rounds := rounds_rounded
        (aligned x (min (scale x) (scale y)) - aligned y (min (scale x) (scale y)))
        (e := min (scale x) (scale y))
      rw [Int.cast_sub, sub_mul, value_aligned (min_le_left _ _),
        value_aligned (min_le_right _ _)] at rounds
      rwa [sub_eq_rounded left right first second]

theorem rounds_mul : Rounds (value x * value y) (x * y) := by
  have model : x * y = .ofModel (.pack (.mul .binary64 x.toModel.unpack y.toModel.unpack)) := rfl
  by_cases first : value x = 0
  · rw [model, unpack_zero left first, first, zero_mul]
    rcases unpack_finite right with ⟨-, number⟩ | ⟨_, number⟩ <;> rw [number] <;> exact rounds_zero _
  by_cases second : value y = 0
  · rw [model, unpack_zero right second, second, mul_zero]
    rcases unpack_finite left with ⟨-, number⟩ | ⟨_, number⟩ <;> rw [number] <;> exact rounds_zero _
  obtain ⟨some, number⟩ := unpack_nonzero left first
  obtain ⟨some', number'⟩ := unpack_nonzero right second
  left
  have long : 2 ^ 52 ≤ significand x * significand y ∨ scale x + scale y ≤ -1074 := by
    rcases full_or_least x with full | least
    · exact .inl (full.trans (Nat.le_mul_of_pos_right _ some'))
    · rcases full_or_least y with full | least'
      · exact .inl (full.trans (Nat.le_mul_of_pos_left _ some))
      · exact .inr (by omega)
  rw [model, number, number', mul_eq_nearest _ _ some some' long, ← magnitude_eq, ← magnitude_eq,
    signed_mul, signed_value, signed_value]

theorem rounds_div (divisor : value y ≠ 0) : Rounds (value x / value y) (x / y) := by
  have model : x / y = .ofModel (.pack (.div .binary64 x.toModel.unpack y.toModel.unpack)) := rfl
  obtain ⟨some', number'⟩ := unpack_nonzero right divisor
  by_cases first : value x = 0
  · rw [model, unpack_zero left first, number', first, zero_div]
    exact rounds_zero _
  obtain ⟨some, number⟩ := unpack_nonzero left first
  left
  rw [model, number, number', div_eq_nearest _ _ some some', ← magnitude_eq, ← magnitude_eq,
    signed_div, signed_value, signed_value]

end

end GeoSearch.Binary64
