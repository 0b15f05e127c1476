import GeoSearch.Trigonometry
import Mathlib.Analysis.Real.Sqrt
import Mathlib.Tactic.FieldSimp
import Mathlib.Tactic.Linarith
import Mathlib.Tactic.NormNum
import Mathlib.Tactic.Ring
/-!
Fixed-point numbers as reals. A product, a quotient and a root are each less than one unit of the last
place below the real one.
-/
namespace GeoSearch.Trigonometry

/-! ### Roots of naturals -/

structure Brackets (n root gap : Nat) : Prop where
  below : root * root ≤ n
  above : n < (root + gap) * (root + gap)

/-- One bit more of a root, taken if the square still fits. -/
theorem Brackets.half {n root gap : Nat} (brackets : Brackets n root (gap + gap)) :
    Brackets n (if (root + gap) * (root + gap) ≤ n then root + gap else root) gap := by
  obtain ⟨below, above⟩ := brackets
  split
  · next fits => exact ⟨fits, by rwa [Nat.add_assoc]⟩
  · next beyond => exact ⟨below, not_le.mp beyond⟩

theorem isqrt_eq (n : Nat) : isqrt n = n.sqrt := by
  let bits := n.log2 / 2 + 1
  let more (root k : Nat) : Nat :=
    if (root + 2 ^ (bits - 1 - k)) * (root + 2 ^ (bits - 1 - k)) ≤ n then
      root + 2 ^ (bits - 1 - k)
    else root
  have unfolded : isqrt n = (List.range bits).foldl more 0 := rfl
  -- after so many bits the gap is a power of two that is worth the bits to come
  have taken (k : Nat) (room : k ≤ bits) :
      Brackets n ((List.range k).foldl more 0) (2 ^ (bits - k)) := by
    induction k with
    | zero =>
      refine ⟨Nat.zero_le n, ?_⟩
      rw [List.range_zero, List.foldl_nil, Nat.zero_add, ← pow_add]
      refine Nat.lt_log2_self.trans_le (Nat.pow_le_pow_right (by decide) ?_)
      omega
    | succ k ih =>
      have brackets := ih (Nat.le_of_succ_le room)
      have gap : 2 ^ (bits - k) = 2 ^ (bits - 1 - k) + 2 ^ (bits - 1 - k) := by
        rw [← two_mul, ← pow_succ']
        congr 1
        omega
      have last : bits - (k + 1) = bits - 1 - k := by omega
      rw [List.range_succ, List.foldl_concat, last]
      exact (gap ▸ brackets).half
  obtain ⟨below, above⟩ := taken bits le_rfl
  rw [Nat.sub_self, pow_zero] at above
  rw [unfolded]
  exact Nat.eq_sqrt.mpr ⟨below, above⟩

/-! ### Fixed-point numbers -/

noncomputable def real (places : Nat) (a : Int) : ℝ := a / 2 ^ places

noncomputable def unit (places : Nat) : ℝ := 1 / 2 ^ places

structure Below (places : Nat) (a : Int) (t : ℝ) : Prop where
  le : real places a ≤ t
  lt : t < real places a + unit places

variable {places : Nat} {a b : Int} {t : ℝ}

theorem unit_pos : 0 < unit places := by
  unfold unit
  positivity

theorem one_eq : ((one places : Int) : ℝ) = 2 ^ places := by
  have exact : one places = ((2 ^ places : Nat) : Int) := rfl
  rw [exact]
  push_cast
  rfl

theorem one_positive : 0 < one places := Nat.cast_pos.mpr (Nat.two_pow_pos places)

theorem real_nonneg_iff : 0 ≤ real places a ↔ 0 ≤ a := by
  rw [real, le_div_iff₀ (by positivity), zero_mul, Int.cast_nonneg_iff]

theorem real_nonneg (nonneg : 0 ≤ a) : 0 ≤ real places a := real_nonneg_iff.mpr nonneg

theorem real_pos_iff : 0 < real places a ↔ 0 < a := by
  rw [real, div_pos_iff_of_pos_right (by positivity), Int.cast_pos]

theorem real_pos (positive : 0 < a) : 0 < real places a := real_pos_iff.mpr positive

theorem mul_nonneg_of_nonneg (left : 0 ≤ a) (right : 0 ≤ b) : 0 ≤ mul places a b :=
  Int.ediv_nonneg (Int.mul_nonneg left right) one_positive.le

theorem sqrt_nonneg (a : Int) : 0 ≤ sqrt places a := Int.natCast_nonneg _

theorem real_one : real places (one places) = 1 := by
  rw [real, one_eq, div_self (by positivity)]

theorem real_add (a b : Int) : real places (a + b) = real places a + real places b := by
  rw [real, Int.cast_add, add_div]
  rfl

theorem real_sub (a b : Int) : real places (a - b) = real places a - real places b := by
  rw [real, Int.cast_sub, sub_div]
  rfl

theorem real_neg (a : Int) : real places (-a) = -real places a := by
  rw [real, Int.cast_neg, neg_div]
  rfl

theorem real_mul_int (n a : Int) : real places (n * a) = n * real places a := by
  rw [real, Int.cast_mul, mul_div_assoc]
  rfl

/-- A quotient of integers is rounded down. -/
theorem ediv_below {n d : Int} (positive : 0 < d) :
    ((n / d : Int) : ℝ) ≤ n / d ∧ (n / d : ℝ) < (n / d : Int) + 1 := by
  have divisor : (0 : ℝ) < d := Int.cast_pos.mpr positive
  rw [le_div_iff₀ divisor, div_lt_iff₀ divisor]
  constructor
  · exact_mod_cast Int.ediv_mul_le n positive.ne'
  · exact_mod_cast Int.lt_ediv_add_one_mul_self n positive

/-- A number that is rounded down stands less than one unit below. -/
theorem below_of {x : ℝ} (le : (a : ℝ) ≤ x) (lt : x < a + 1) : Below places a (x / 2 ^ places) := by
  have scale : (0 : ℝ) < 2 ^ places := by positivity
  constructor
  · exact div_le_div_of_nonneg_right le scale.le
  · rw [real, unit, ← add_div]
    exact div_lt_div_of_pos_right lt scale

theorem below_div {d : Int} (positive : 0 < d) (a : Int) :
    Below places (a / d) (real places a / d) := by
  obtain ⟨le, lt⟩ := ediv_below (n := a) positive
  have quotient := @below_of places _ _ le lt
  rwa [div_right_comm] at quotient

theorem below_mul (a b : Int) : Below places (mul places a b) (real places a * real places b) := by
  obtain ⟨le, lt⟩ := ediv_below (n := a * b) (@one_positive places)
  have product := @below_of places _ _ le lt
  rw [one_eq, Int.cast_mul, div_div, mul_div_mul_comm] at product
  exact product

theorem below_quotient (a : Int) (positive : 0 < b) :
    Below places (div places a b) (real places a / real places b) := by
  obtain ⟨le, lt⟩ := ediv_below (n := a * one places) positive
  have quotient := @below_of places _ _ le lt
  have same : ((a * one places : Int) : ℝ) / b / 2 ^ places = real places a / real places b := by
    have divisor : (b : ℝ) ≠ 0 := Int.cast_ne_zero.mpr positive.ne'
    rw [Int.cast_mul, one_eq, real, real]
    field_simp
  rwa [same] at quotient

theorem below_sqrt (nonneg : 0 ≤ a) : Below places (sqrt places a) √(real places a) := by
  obtain ⟨n, rfl⟩ := Int.eq_ofNat_of_zero_le nonneg
  have root : sqrt places n = ((n * 2 ^ places).sqrt : Int) :=
    congrArg Nat.cast (isqrt_eq (n * 2 ^ places))
  have scaled : √(real places n) = √((n * 2 ^ places : Nat) : ℝ) / 2 ^ places := by
    have scale : (0 : ℝ) < 2 ^ places := by positivity
    rw [eq_div_iff scale.ne', ← Real.sqrt_sq scale.le, ← Real.sqrt_mul' _ (by positivity), real]
    congr 1
    push_cast
    field_simp
  rw [root, scaled]
  refine below_of ?_ ?_
  · exact_mod_cast Real.nat_sqrt_le_real_sqrt
  · exact_mod_cast Real.real_sqrt_lt_nat_sqrt_succ

theorem below_ofRat (r : Rat) : Below places (ofRat places r) r := by
  have scale : (r : ℝ) = ((r * (2 ^ places : Nat) : Rat) : ℝ) / 2 ^ places := by
    push_cast
    rw [mul_div_cancel_right₀ _ (by positivity)]
  rw [scale]
  refine below_of ?_ ?_
  · exact_mod_cast Rat.floor_le (r * (2 ^ places : Nat))
  · exact_mod_cast Rat.lt_floor_add_one (r * (2 ^ places : Nat))

theorem toRat_eq (a : Int) : ((toRat places a : Rat) : ℝ) = real places a := by
  have quotient : toRat places a = a / (2 ^ places : Nat) := Rat.mkRat_eq_div a (2 ^ places)
  rw [quotient, real]
  push_cast
  rfl

end GeoSearch.Trigonometry
