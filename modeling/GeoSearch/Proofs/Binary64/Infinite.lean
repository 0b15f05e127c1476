import GeoSearch.Proofs.Binary64.Arithmetic
import Mathlib.Order.WithBot
/-!
Infinities and what is not a number: no operation makes a finite number of them, and an infinity is beyond
all finite numbers. What is not NaN compares by its place on a line with both infinities, and the least
and the greatest of two numbers have the place of one of them.
-/
namespace GeoSearch.Binary64

open Float.Model (UnpackedFloat)

variable {x y : Float} {u v : UnpackedFloat}

theorem not_finite_pack (endless : u.isFinite = false) : (Float.ofModel (.pack u)).isFinite = false := by
  cases u with
  | notANumber => decide
  | infinity s => cases s <;> decide
  | zero s => cases endless
  | finite s m e positive => cases endless

theorem not_finite_cases (endless : x.isFinite = false) :
    x.toModel.unpack = .notANumber ∨ ∃ s, x.toModel.unpack = .infinity s := by
  have known : x.toModel.unpack.isFinite = false := endless
  cases unpacked : x.toModel.unpack with
  | notANumber => exact .inl rfl
  | infinity s => exact .inr ⟨s, rfl⟩
  | _ =>
    rw [unpacked] at known
    cases known

theorem isInf_cases (infinite : x.isInf = true) : x = infinity ∨ x = -infinity := by
  have known : x.toModel.unpack.isInf = true := infinite
  have same := ofModel_pack_unpack x
  cases unpacked : x.toModel.unpack with
  | infinity s =>
    rw [unpacked] at same
    rw [← same]
    cases s
    · exact .inr (by rfl)
    · exact .inl (by rfl)
  | _ =>
    rw [unpacked] at known
    cases known

theorem finite_of_number (number : x.isNaN = false) (bounded : x.isInf = false) :
    x.isFinite = true := by
  have first : x.toModel.unpack.isNaN = false := number
  have second : x.toModel.unpack.isInf = false := bounded
  have model : x.isFinite = x.toModel.unpack.isFinite := rfl
  rw [model]
  cases unpacked : x.toModel.unpack with
  | notANumber =>
    rw [unpacked] at first
    cases first
  | infinity s =>
    rw [unpacked] at second
    cases second
  | _ => rfl

/-- An operation that makes a finite number of neither infinity nor of NaN makes one of none that is
not finite. -/
theorem not_finite_of (operation : UnpackedFloat → UnpackedFloat)
    (none : (operation .notANumber).isFinite = false)
    (beyond : ∀ s, (operation (.infinity s)).isFinite = false) (endless : x.isFinite = false) :
    (Float.ofModel (.pack (operation x.toModel.unpack))).isFinite = false := by
  apply not_finite_pack
  rcases not_finite_cases endless with nan | ⟨s, infinite⟩
  · rw [nan, none]
  · rw [infinite, beyond]

theorem not_finite_sub (endless : x.isFinite = false) : (x - y).isFinite = false := by
  refine not_finite_of (UnpackedFloat.sub .binary64 · y.toModel.unpack) ?_ (fun s => ?_) endless
  · cases y.toModel.unpack <;> rfl
  · cases y.toModel.unpack with
    | infinity t => cases s <;> cases t <;> rfl
    | _ => rfl

section

variable (endless : x.isFinite = false) (finite : y.isFinite = true) (nonzero : value y ≠ 0)

include endless finite nonzero

theorem not_finite_mul : (x * y).isFinite = false := by
  obtain ⟨_, number⟩ := unpack_nonzero finite nonzero
  refine not_finite_of (UnpackedFloat.mul .binary64 · y.toModel.unpack) ?_ (fun s => ?_) endless <;>
    rw [number] <;> rfl

theorem not_finite_div : (x / y).isFinite = false := by
  obtain ⟨_, number⟩ := unpack_nonzero finite nonzero
  refine not_finite_of (UnpackedFloat.div .binary64 · y.toModel.unpack) ?_ (fun s => ?_) endless <;>
    rw [number] <;> rfl

end

/-! ### What is no number -/

theorem unpack_nan : nan.toModel.unpack = .notANumber := by rfl

theorem pack_nan : Float.ofModel (.pack .notANumber) = nan := by rfl

theorem nan_add (x : Float) : nan + x = nan := by
  have model : nan + x = .ofModel (.pack (.add .binary64 nan.toModel.unpack x.toModel.unpack)) := rfl
  rw [model, unpack_nan, ← pack_nan]
  cases x.toModel.unpack <;> rfl

theorem add_nan (x : Float) : x + nan = nan := by
  have model : x + nan = .ofModel (.pack (.add .binary64 x.toModel.unpack nan.toModel.unpack)) := rfl
  rw [model, unpack_nan, ← pack_nan]
  cases x.toModel.unpack <;> rfl

theorem mul_nan (x : Float) : x * nan = nan := by
  have model : x * nan = .ofModel (.pack (.mul .binary64 x.toModel.unpack nan.toModel.unpack)) := rfl
  rw [model, unpack_nan, ← pack_nan]
  cases x.toModel.unpack <;> rfl

theorem not_nan_le (x : Float) : ¬ nan ≤ x := by
  have model : nan ≤ x ↔ (nan.toModel.unpack.compare x.toModel.unpack).any (·.isLE) = true :=
    decide_eq_true_iff
  rw [model, unpack_nan]
  cases x.toModel.unpack <;> exact Bool.false_ne_true

/-! ### Infinity -/

theorem infinity_unpack : infinity.toModel.unpack = .infinity .positive := by rfl

theorem finite_add_infinity (finite : x.isFinite = true) : x + infinity = infinity := by
  have model : x + infinity =
      .ofModel (.pack (.add .binary64 x.toModel.unpack infinity.toModel.unpack)) := rfl
  have known : x.toModel.unpack.isFinite = true := finite
  rw [model, infinity_unpack]
  generalize x.toModel.unpack = u at known
  cases u with
  | notANumber => cases known
  | infinity => cases known
  | _ => rfl

theorem finite_sub_infinity (finite : x.isFinite = true) : x - infinity = -infinity := by
  have model : x - infinity =
      .ofModel (.pack (.sub .binary64 x.toModel.unpack infinity.toModel.unpack)) := rfl
  have known : x.toModel.unpack.isFinite = true := finite
  rw [model, infinity_unpack]
  generalize x.toModel.unpack = u at known
  cases u with
  | notANumber => cases known
  | infinity => cases known
  | _ => rfl

theorem between_infinities (finite : x.isFinite = true) : -infinity ≤ x ∧ x ≤ infinity := by
  have model (y z : Float) : y ≤ z ↔ (y.toModel.unpack.compare z.toModel.unpack).any (·.isLE) = true :=
    decide_eq_true_iff
  have known : x.toModel.unpack.isFinite = true := finite
  have below : (-infinity).toModel.unpack = .infinity .negative := by rfl
  rw [model, model, infinity_unpack, below]
  generalize x.toModel.unpack = u at known
  cases u with
  | notANumber => cases known
  | infinity => cases known
  | _ => exact ⟨rfl, rfl⟩

/-! ### The line with both infinities -/

/-- What is no NaN is finite or one of the infinities. -/
theorem number_cases (number : x.isNaN = false) :
    x.isFinite = true ∨ x = infinity ∨ x = -infinity := by
  cases infinite : x.isInf with
  | true => exact .inr (isInf_cases infinite)
  | false => exact .inl (finite_of_number number infinite)

theorem neg_infinity_unpack : (-infinity).toModel.unpack = .infinity .negative := by rfl

/-- Nothing finite brings an infinity back. -/
theorem infinity_moved (finite : y.isFinite = true) :
    (infinity + y = infinity ∧ infinity - y = infinity) ∧
      -infinity + y = -infinity ∧ -infinity - y = -infinity := by
  have plus (x : Float) : x + y = .ofModel (.pack (.add .binary64 x.toModel.unpack y.toModel.unpack)) :=
    rfl
  have minus (x : Float) : x - y = .ofModel (.pack (.sub .binary64 x.toModel.unpack y.toModel.unpack)) :=
    rfl
  have known : y.toModel.unpack.isFinite = true := finite
  rw [plus, plus, minus, minus, infinity_unpack, neg_infinity_unpack]
  generalize y.toModel.unpack = v at known
  cases v with
  | notANumber => cases known
  | infinity => cases known
  | _ => exact ⟨⟨rfl, rfl⟩, rfl, rfl⟩

/-- A number that is moved by a finite one is a number. -/
theorem number_moved (number : x.isNaN = false) (finite : y.isFinite = true) :
    (x + y).isNaN = false ∧ (x - y).isNaN = false := by
  obtain ⟨⟨plus, minus⟩, plus', minus'⟩ := infinity_moved finite
  rcases number_cases number with inner | rfl | rfl
  · exact ⟨(rounds_add inner finite).number, (rounds_sub inner finite).number⟩
  · rw [plus, minus]
    exact ⟨number, number⟩
  · rw [plus', minus']
    exact ⟨number, number⟩

/-- The place of a number. That of NaN means nothing. -/
def extended (x : Float) : WithBot (WithTop Rat) :=
  if x.isFinite then ((value x : WithTop Rat) : WithBot (WithTop Rat))
  else if negative x then ⊥ else ⊤

theorem extended_finite (finite : x.isFinite = true) :
    extended x = ((value x : WithTop Rat) : WithBot (WithTop Rat)) := if_pos finite

theorem extended_infinity : extended infinity = ⊤ := by
  have endless : infinity.isFinite = false ∧ negative infinity = false := by decide
  simp [extended, endless]

theorem extended_neg_infinity : extended (-infinity) = ⊥ := by
  have endless : (-infinity).isFinite = false ∧ negative (-infinity) = true := by decide
  simp [extended, endless]

theorem compare_infinities (finite : x.isFinite = true) :
    x.toModel.unpack.compare (.infinity .positive) = some .lt ∧
      (UnpackedFloat.infinity .positive).compare x.toModel.unpack = some .gt ∧
      x.toModel.unpack.compare (.infinity .negative) = some .gt ∧
      (UnpackedFloat.infinity .negative).compare x.toModel.unpack = some .lt := by
  rcases unpack_finite finite with ⟨-, unpack⟩ | ⟨_, unpack⟩ <;> rw [unpack] <;>
    exact ⟨rfl, rfl, rfl, rfl⟩

theorem extended_lt_infinity (finite : x.isFinite = true) : extended x < extended infinity := by
  rw [extended_finite finite, extended_infinity]
  exact WithBot.coe_lt_coe.mpr (WithTop.coe_lt_top _)

theorem neg_infinity_lt_extended (finite : x.isFinite = true) : extended (-infinity) < extended x := by
  rw [extended_finite finite, extended_neg_infinity]
  exact WithBot.bot_lt_coe _

theorem infinities_apart : extended (-infinity) < extended infinity := by
  rw [extended_infinity, extended_neg_infinity]
  exact WithBot.bot_lt_coe _

/-- Numbers compare as their places do. -/
theorem compare_extended (left : x.isNaN = false) (right : y.isNaN = false) :
    x.toModel.unpack.compare y.toModel.unpack = some (compare (extended x) (extended y)) := by
  rcases number_cases left with first | rfl | rfl <;>
    rcases number_cases right with second | rfl | rfl
  · rw [compare_eq first second, extended_finite first, extended_finite second]
    rcases lt_trichotomy (value x) (value y) with less | same | greater
    · rw [compare_lt_iff_lt.mpr less, compare_lt_iff_lt.mpr (by exact_mod_cast less)]
    · rw [same, compare_eq_iff_eq.mpr rfl, compare_eq_iff_eq.mpr rfl]
    · rw [compare_gt_iff_gt.mpr greater, compare_gt_iff_gt.mpr (by exact_mod_cast greater)]
  · rw [compare_lt_iff_lt.mpr (extended_lt_infinity first)]
    exact (compare_infinities first).1
  · rw [compare_gt_iff_gt.mpr (neg_infinity_lt_extended first)]
    exact (compare_infinities first).2.2.1
  · rw [compare_gt_iff_gt.mpr (extended_lt_infinity second)]
    exact (compare_infinities second).2.1
  · rw [compare_eq_iff_eq.mpr rfl]
    rfl
  · rw [compare_gt_iff_gt.mpr infinities_apart]
    rfl
  · rw [compare_lt_iff_lt.mpr (neg_infinity_lt_extended second)]
    exact (compare_infinities second).2.2.2
  · rw [compare_lt_iff_lt.mpr infinities_apart]
    rfl
  · rw [compare_eq_iff_eq.mpr rfl]
    rfl

/-- NaN is in no order. -/
theorem numbers_of_le (order : x ≤ y) : x.isNaN = false ∧ y.isNaN = false := by
  have model (z : Float) : z.isNaN = z.toModel.unpack.isNaN := rfl
  have compared : x ≤ y ↔ (x.toModel.unpack.compare y.toModel.unpack).any (·.isLE) = true :=
    decide_eq_true_iff
  have some := compared.mp order
  rw [model, model]
  generalize x.toModel.unpack = u at some
  generalize y.toModel.unpack = v at some
  cases u <;> cases v <;> first | exact ⟨rfl, rfl⟩ | cases some

section

variable (left : x.isNaN = false) (right : y.isNaN = false)

include left right

theorem lt_iff_extended : x < y ↔ extended x < extended y := by
  have model : x < y ↔ (x.toModel.unpack.compare y.toModel.unpack == some .lt) = true :=
    decide_eq_true_iff
  rw [model, compare_extended left right, beq_iff_eq, Option.some.injEq, compare_lt_iff_lt]

theorem le_iff_extended : x ≤ y ↔ extended x ≤ extended y := by
  have model : x ≤ y ↔ (x.toModel.unpack.compare y.toModel.unpack).any (·.isLE) = true :=
    decide_eq_true_iff
  rw [model, compare_extended left right, Option.any_some, ← compare_le_iff_le]
  exact Ordering.isLE_iff_ne_gt

theorem beq_iff_extended : (x == y) = true ↔ extended x = extended y := by
  have model : (x == y) = (x.toModel.unpack.compare y.toModel.unpack == some .eq) := rfl
  rw [model, compare_extended left right, beq_iff_eq, Option.some.injEq, compare_eq_iff_eq]

theorem number_least : (least x y).isNaN = false := by
  rw [least_of_numbers left right]
  split
  · exact right
  · exact left

theorem number_greatest : (greatest x y).isNaN = false := by
  rw [greatest_of_numbers left right]
  split
  · exact right
  · exact left

theorem extended_least : extended (least x y) = min (extended x) (extended y) := by
  rw [least_of_numbers left right]
  split
  · next less => exact (min_eq_right ((lt_iff_extended right left).mp less).le).symm
  · next other =>
    exact (min_eq_left (not_lt.mp (mt (lt_iff_extended right left).mpr other))).symm

theorem extended_greatest : extended (greatest x y) = max (extended x) (extended y) := by
  rw [greatest_of_numbers left right]
  split
  · next less => exact (max_eq_right ((lt_iff_extended left right).mp less).le).symm
  · next other =>
    exact (max_eq_left (not_lt.mp (mt (lt_iff_extended left right).mpr other))).symm

end

/-- The greater of anything and a finite number is not below that, if only infinity. -/
theorem greatest_cases (x : Float) (finite : y.isFinite = true) :
    (greatest x y).isFinite = true ∧ value y ≤ value (greatest x y) ∨ greatest x y = infinity := by
  have right := isNaN_of_finite finite
  cases left : x.isNaN with
  | true =>
    have chosen : greatest x y = y := by rw [greatest, if_pos left]
    rw [chosen]
    exact .inl ⟨finite, le_rfl⟩
  | false =>
    have above : extended y ≤ extended (greatest x y) :=
      (extended_greatest left right).ge.trans' (le_max_right _ _)
    rcases number_cases (number_greatest left right) with inner | most | least
    · exact .inl ⟨inner, (le_iff finite inner).mp
        ((le_iff_extended right (isNaN_of_finite inner)).mpr above)⟩
    · exact .inr most
    · rw [least] at above
      exact absurd above (neg_infinity_lt_extended finite).not_ge

/-- The lesser of anything and a finite number is not above that, if only below all. -/
theorem least_cases (x : Float) (finite : y.isFinite = true) :
    (least x y).isFinite = true ∧ value (least x y) ≤ value y ∨ least x y = -infinity := by
  have right := isNaN_of_finite finite
  cases left : x.isNaN with
  | true =>
    have chosen : least x y = y := by rw [least, if_pos left]
    rw [chosen]
    exact .inl ⟨finite, le_rfl⟩
  | false =>
    have below : extended (least x y) ≤ extended y :=
      (extended_least left right).le.trans (min_le_right _ _)
    rcases number_cases (number_least left right) with inner | most | below'
    · exact .inl ⟨inner, (le_iff inner finite).mp
        ((le_iff_extended (isNaN_of_finite inner) right).mpr below)⟩
    · rw [most] at below
      exact absurd below (extended_lt_infinity finite).not_ge
    · exact .inr below'

end GeoSearch.Binary64
