import GeoSearch.Proofs.Binary64.Integers
import GeoSearch.Proofs.Query.Comparison
import GeoSearch.Proofs.Query.Document
import GeoSearch.Query.Values
/-!
Comparisons of integers. A predicate compares integers as binary64 numbers, which keep 53 significant
bits; the index compares the integers themselves. The two agree on integers that are told apart, and on
others the predicate takes one for the other.
-/
namespace GeoSearch

open Binary64 (value shortened significant ToldApart)
open Json.Number (InRange)

variable {a b low high n : Int}

/-! ### The order of integers -/

namespace Json.Number

theorem InRange.natAbs_lt (ranged : InRange n) : n.natAbs < 2 ^ 64 := by
  unfold InRange at ranged
  omega

/-- An integer is read as the nearest binary64 number. -/
theorem value_toFloat (ranged : InRange n) :
    (integer n).toFloat.isFinite = true ∧ value (integer n).toFloat = shortened n := by
  obtain ⟨finite, exact⟩ :=
    Binary64.value_of_rounds_natCast (Binary64.rounds_ofNat n.natAbs) ranged.natAbs_lt
  unfold toFloat
  dsimp only
  split
  · next negative =>
    refine ⟨Binary64.finite_neg finite, (Binary64.value_neg finite).trans ?_⟩
    rw [exact, shortened, Int.sign_eq_neg_one_of_neg negative]
    push_cast
    ring
  · next nonneg =>
    refine ⟨finite, exact.trans ?_⟩
    obtain ⟨m, rfl⟩ := Int.eq_ofNat_of_zero_le (not_lt.mp nonneg)
    rw [Binary64.shortened_natCast, Int.natAbs_natCast, Int.cast_natCast]

end Json.Number

namespace Document

/-- Integers are ordered by their 53 significant bits. -/
theorem order?_ofInt (left : InRange a) (right : InRange b) :
    order? (.ofInt a) (.ofInt b) = some (compare (shortened a) (shortened b)) := by
  obtain ⟨finite, first⟩ := Json.Number.value_toFloat left
  obtain ⟨finite', second⟩ := Json.Number.value_toFloat right
  have order : order? (.ofInt a) (.ofInt b) = _ := Binary64.order?_eq_compare _ _
  rw [order, Binary64.compare_eq finite finite', first, second, ← cmp_eq_compare, ← cmp_eq_compare,
    Int.cast_strictMono.cmp_map_eq]

end Document

namespace Binary64

/-- Rounding does not turn an order round. -/
theorem compare_shortened (left : InRange a) (right : InRange b) :
    compare (shortened a) (shortened b) = if ToldApart a b then compare a b else .eq := by
  have up (order : a ≤ b) := shortened_mono order left.natAbs_lt right.natAbs_lt
  have down (order : b ≤ a) := shortened_mono order right.natAbs_lt left.natAbs_lt
  split
  · next apart =>
    rcases lt_trichotomy a b with less | rfl | greater
    · have differ := apart.resolve_left less.ne
      rw [compare_lt_iff_lt.mpr less, compare_lt_iff_lt.mpr ((up less.le).lt_of_ne differ)]
    · rw [compare_eq_iff_eq.mpr rfl, compare_eq_iff_eq.mpr rfl]
    · have differ := apart.resolve_left greater.ne'
      rw [compare_gt_iff_gt.mpr greater,
        compare_gt_iff_gt.mpr ((down greater.le).lt_of_ne differ.symm)]
  · next confused => exact compare_eq_iff_eq.mpr (Classical.not_not.mp (not_or.mp confused).2)

end Binary64

theorem Binary64.shortened_le_iff (left : InRange a) (right : InRange b) (apart : ToldApart a b) :
    shortened a ≤ shortened b ↔ a ≤ b := by
  rw [← compare_le_iff_le, compare_shortened left right, if_pos apart, compare_le_iff_le]

namespace Document

theorem order?_ofInt_eq_iff (left : InRange a) (right : InRange b) :
    order? (.ofInt a) (.ofInt b) = some (compare a b) ↔ ToldApart a b := by
  rw [order?_ofInt left right, Binary64.compare_shortened left right, Option.some.injEq]
  split
  · next apart => exact iff_of_true rfl apart
  · next confused =>
    refine iff_of_false (fun same => confused (.inl ?_)) confused
    exact compare_eq_iff_eq.mp same.symm

end Document

/-! ### Integers among those that are stored -/

namespace Comparison

variable {relation : Comparison} {stored : List Int} {field : String} {source : Json}

/-- Whether one of the integers stands in the relation to another; all have to differ from it. -/
def amongIntegers (relation : Comparison) (stored : List Int) (n : Int) : Bool :=
  match relation with
  | equal => stored.any (· = n)
  | unequal => stored.all (· ≠ n)
  | greater => stored.any (n < ·)
  | greaterOrEqual => stored.any (n ≤ ·)
  | less => stored.any (· < n)
  | lessOrEqual => stored.any (· ≤ n)

theorem amongIntegers_eq (relation : Comparison) (stored : List Int) (n : Int) :
    relation.amongIntegers stored n =
      if relation = unequal then !stored.any (compare · n == .eq)
      else stored.any fun m => relation.holds (compare m n) := by
  have lt (m : Int) : (compare m n == .lt) = decide (m < n) := by
    rw [Bool.eq_iff_iff, beq_iff_eq, compare_lt_iff_lt, decide_eq_true_iff]
  have gt (m : Int) : (compare m n == .gt) = decide (n < m) := by
    rw [Bool.eq_iff_iff, beq_iff_eq, compare_gt_iff_gt, decide_eq_true_iff]
  have eq (m : Int) : (compare m n == .eq) = decide (m = n) := by
    rw [Bool.eq_iff_iff, beq_iff_eq, compare_eq_iff_eq, decide_eq_true_iff]
  have le (l m : Int) : decide (l ≤ m) = !decide (m < l) := by
    rw [Bool.eq_iff_iff, Bool.not_eq_true', decide_eq_true_iff, decide_eq_false_iff_not, not_lt]
  cases relation <;> simp [amongIntegers, holds, bne, lt, gt, eq, le, List.not_any_eq_all_not]

/-- Integers that are told apart from a bound may all be shortened. -/
theorem amongIntegers_shortened (ranged : ∀ n ∈ stored, InRange n) (bound : InRange b)
    (apart : ∀ n ∈ stored, ToldApart n b) :
    relation.amongIntegers (stored.map shortened) (shortened b) = relation.amongIntegers stored b := by
  have same (n : Int) (member : n ∈ stored) : compare (shortened n) (shortened b) = compare n b := by
    rw [Binary64.compare_shortened (ranged n member) bound, if_pos (apart n member)]
  have each (test : Ordering → Bool) :
      ((stored.map shortened).any fun m => test (compare m (shortened b))) =
        stored.any fun m => test (compare m b) := by
    rw [Bool.eq_iff_iff, List.any_map, List.any_eq_true, List.any_eq_true]
    exact exists_congr fun n => and_congr_right fun member => by rw [Function.comp, same n member]
  rw [amongIntegers_eq, amongIntegers_eq, each, each (· == .eq)]

theorem compareData_integers (a : Option Attribute) (ranged : ∀ n ∈ stored, InRange n)
    (bound : InRange b) : Predicate.compareData relation a
      ((stored.map Json.ofInt).map .value) [.value (.ofInt b)] =
        relation.amongIntegers (stored.map shortened) (shortened b) := by
  have each (test : Ordering → Bool) :
      (stored.any fun n => (Document.order? (.ofInt n) (.ofInt b)).any test) =
        (stored.map shortened).any fun m => test (compare m (shortened b)) := by
    rw [Bool.eq_iff_iff, List.any_map, List.any_eq_true, List.any_eq_true]
    refine exists_congr fun n => and_congr_right fun member => ?_
    rw [Document.order?_ofInt (ranged n member) bound]
    rfl
  have same : equal.holds = (· == .eq) := rfl
  rw [amongIntegers_eq, ← each, ← each (· == .eq)]
  simp [Predicate.compareData, List.any_map, Function.comp_def, same]

/-- The clause of a comparison with an integer compares the integers themselves. -/
theorem selectsIntegers_clause (values : Document.lookup source field = stored.map Json.ofInt) (n : Int) :
    (relation.clause field (.ofInt n)).selectsIntegers source = relation.amongIntegers stored n := by
  have order (m : Int) : Document.integerOrder? (.ofInt m) (.ofInt n) = some (compare m n) := rfl
  rw [amongIntegers_eq, Clause.selectsIntegers, selectsBy_clause]
  simp [values, List.any_map, Function.comp_def, order]

end Comparison

namespace Predicate

variable {type : FeatureType} {name : String} {source : Json} {stored : List Int}

theorem between_compare (l n h : Int) :
    (Comparison.greaterOrEqual.holds (Ord.compare n l) && Comparison.lessOrEqual.holds (Ord.compare n h)) =
      decide (l ≤ n ∧ n ≤ h) := by
  rw [Bool.eq_iff_iff, Bool.and_eq_true, decide_eq_true_iff, Comparison.holds, Comparison.holds,
    bne_iff_ne, bne_iff_ne, compare_ge_iff_ge, compare_le_iff_le]

section

variable (values : Document.lookup source (type.resolve name).field = stored.map Json.ofInt)

include values

theorem holds_compare_integer {relation : Comparison} {left right : Operand} {swapped : Bool}
    (ranged : ∀ n ∈ stored, InRange n) (bound : InRange b)
    (paired : pairing? left right = some ⟨name, .value (.ofInt b), swapped⟩) (id : String) :
    holds type id source (.compare relation left right) =
      (if swapped then relation.mirror else relation).amongIntegers (stored.map shortened)
        (shortened b) := by
  rw [holds_compare id source paired rfl, values]
  exact Comparison.compareData_integers _ ranged bound

theorem selects_compare_integer {relation : Comparison} {left right : Operand} {swapped : Bool}
    (paired : pairing? left right = some ⟨name, .value (.ofInt b), swapped⟩) :
    (compile type (.compare relation left right)).clause.selectsIntegers source =
      (if swapped then relation.mirror else relation).amongIntegers stored b := by
  have compiled : (compile type (.compare relation left right)).clause =
      (type.resolve name).enclose ((if swapped then relation.mirror else relation).clause
        (type.resolve name).field (.ofInt b)) := by
    simp [compile, compareClause, paired, Attribute.clauseValue?, Json.ofInt, Compilation.ofExcept]
  rw [compiled, Attribute.enclose, Clause.selectsIntegers_within,
    Comparison.selectsIntegers_clause values]

theorem holds_between_integers (ranged : ∀ n ∈ stored, InRange n) (least : InRange low)
    (greatest : InRange high) (id : String) :
    holds type id source
        (between (.property name) (.literal (.value (.ofInt low))) (.literal (.value (.ofInt high)))) =
      stored.any fun n => decide (shortened low ≤ shortened n ∧ shortened n ≤ shortened high) := by
  have each (n : Int) (member : n ∈ stored) :
      ((Document.order? (.ofInt n) (.ofInt low)).any Comparison.greaterOrEqual.holds &&
        (Document.order? (.ofInt n) (.ofInt high)).any Comparison.lessOrEqual.holds) =
      decide (shortened low ≤ shortened n ∧ shortened n ≤ shortened high) := by
    rw [Document.order?_ofInt (ranged n member) least, Document.order?_ofInt (ranged n member) greatest]
    exact between_compare _ _ _
  have found : holds type id source
      (between (.property name) (.literal (.value (.ofInt low))) (.literal (.value (.ofInt high)))) =
      stored.any fun n => (Document.order? (.ofInt n) (.ofInt low)).any Comparison.greaterOrEqual.holds &&
        (Document.order? (.ofInt n) (.ofInt high)).any Comparison.lessOrEqual.holds := by
    simp [holds, betweenData, Operand.data, Json.ofInt, values, List.any_map, Function.comp_def]
  rw [found, Bool.eq_iff_iff, List.any_eq_true, List.any_eq_true]
  exact exists_congr fun n => and_congr_right fun member => by rw [each n member]

theorem selects_between_integers :
    (compile type (between (.property name) (.literal (.value (.ofInt low)))
        (.literal (.value (.ofInt high))))).clause.selectsIntegers source =
      stored.any fun n => decide (low ≤ n ∧ n ≤ high) := by
  have order (m n : Int) :
      Document.integerOrder? (.ofInt m) (.ofInt n) = some (Ord.compare m n) := rfl
  have compiled : (compile type (between (.property name) (.literal (.value (.ofInt low)))
      (.literal (.value (.ofInt high))))).clause =
      (type.resolve name).enclose (.range (type.resolve name).field
        [(.atLeast, .ofInt low), (.atMost, .ofInt high)]) := by
    simp [compile, betweenClause, Attribute.clauseValue?, Json.ofInt, Compilation.ofExcept]
  have first : Limit.atLeast.admits = Comparison.greaterOrEqual.holds := rfl
  have last : Limit.atMost.admits = Comparison.lessOrEqual.holds := rfl
  rw [compiled, Attribute.enclose, Clause.selectsIntegers_within]
  simp [values, List.any_map, Function.comp_def, order, first, last, between_compare]

end

/-- Two bounds that all stored integers are told apart from may be shortened with them. -/
theorem any_between_shortened (ranged : ∀ n ∈ stored, InRange n) (least : InRange low)
    (greatest : InRange high) (apart : ∀ n ∈ stored, ToldApart n low ∧ ToldApart n high) :
    (stored.any fun n => decide (shortened low ≤ shortened n ∧ shortened n ≤ shortened high)) =
      stored.any fun n => decide (low ≤ n ∧ n ≤ high) := by
  rw [Bool.eq_iff_iff, List.any_eq_true, List.any_eq_true]
  refine exists_congr fun n => and_congr_right fun member => ?_
  obtain ⟨first, last⟩ := apart n member
  rw [decide_eq_true_iff, decide_eq_true_iff,
    Binary64.shortened_le_iff least (ranged n member) first.symm,
    Binary64.shortened_le_iff (ranged n member) greatest last]

/-- Integers of 64 bits are ordered by their 53 significant bits. That is their own order just when they
are told apart, as they are if one of them has less than 53 bits or if they are far from each other;
otherwise they count as equal. So a comparison and a range hold of stored integers by their significant
bits, where their clauses select by the integers themselves, and both agree on integers that are told
apart. -/
theorem integer_comparisons (type : FeatureType) (name : String) (source : Json) (stored : List Int)
    (values : Document.lookup source (type.resolve name).field = stored.map Json.ofInt)
    (ranged : ∀ n ∈ stored, InRange n) :
    (∀ a b : Int, InRange a → InRange b →
      Document.order? (.ofInt a) (.ofInt b) = some (Ord.compare (shortened a) (shortened b)) ∧
      (Document.order? (.ofInt a) (.ofInt b) = some (Ord.compare a b) ↔ ToldApart a b) ∧
      (¬ ToldApart a b → Document.order? (.ofInt a) (.ofInt b) = some .eq) ∧
      (a.natAbs < 2 ^ 53 ∨ b.natAbs < 2 ^ 53 ∨ 2 ^ 11 < |a - b| → ToldApart a b)) ∧
    (∀ (relation : Comparison) (left right : Operand) (b : Int) (swapped : Bool) (id : String),
      InRange b → pairing? left right = some ⟨name, .value (.ofInt b), swapped⟩ →
      let leaf := compare relation left right
      let straight := if swapped then relation.mirror else relation
      holds type id source leaf = straight.amongIntegers (stored.map shortened) (shortened b) ∧
      (compile type leaf).clause.selectsIntegers source = straight.amongIntegers stored b ∧
      ((∀ n ∈ stored, ToldApart n b) →
        holds type id source leaf = straight.amongIntegers stored b) ∧
      ∀ reads, Rules.integers.ReadBy reads →
        reads (compile type leaf).clause.document id source = straight.amongIntegers stored b) ∧
    ∀ (low high : Int) (id : String), InRange low → InRange high →
      let leaf :=
        between (.property name) (.literal (.value (.ofInt low))) (.literal (.value (.ofInt high)))
      holds type id source leaf =
        stored.any (fun n => decide (shortened low ≤ shortened n ∧ shortened n ≤ shortened high)) ∧
      (compile type leaf).clause.selectsIntegers source =
        stored.any (fun n => decide (low ≤ n ∧ n ≤ high)) ∧
      ((∀ n ∈ stored, ToldApart n low ∧ ToldApart n high) →
        holds type id source leaf = stored.any fun n => decide (low ≤ n ∧ n ≤ high)) ∧
      ∀ reads, Rules.integers.ReadBy reads →
        reads (compile type leaf).clause.document id source =
          stored.any fun n => decide (low ≤ n ∧ n ≤ high) := by
  refine ⟨fun a b left right => ?_, fun relation left right b swapped id bound paired => ?_,
    fun low high id least greatest => ?_⟩
  · have order := Document.order?_ofInt left right
    refine ⟨order, Document.order?_ofInt_eq_iff left right, fun confused => ?_, ?_⟩
    · rw [order, Binary64.compare_shortened left right, if_neg confused]
    · rintro (short | short | far)
      · exact Binary64.toldApart_of_short short right.natAbs_lt
      · exact (Binary64.toldApart_of_short short left.natAbs_lt).symm
      · exact Binary64.toldApart_of_far left.natAbs_lt right.natAbs_lt far
  · have held : holds type id source (.compare relation left right) = _ :=
      holds_compare_integer values ranged bound paired id
    have selected : (compile type (.compare relation left right)).clause.selectsIntegers source = _ :=
      selects_compare_integer values paired
    refine ⟨held, selected, fun apart => held.trans ?_, fun reads reading => ?_⟩
    · exact Comparison.amongIntegers_shortened ranged bound apart
    · exact (reads_comparison reading rfl id source).trans selected
  · have held := holds_between_integers values ranged least greatest id
    refine ⟨held, selects_between_integers values, fun apart => ?_, fun reads reading => ?_⟩
    · exact held.trans (any_between_shortened ranged least greatest apart)
    · exact (reads_comparison reading rfl id source).trans (selects_between_integers values)

/-- Two long identifiers in nested objects, beside a short one. -/
theorem integer_comparisons_of_identifiers :
    let type : FeatureType :=
      { attributes := [{ name := "id", nativeName := some "refs.id", binding := .integer, nested := true }] }
    let stored : List Int := [9007199254740993, -9223372036854775808, 7]
    let source : Json := .object [("refs", .array (stored.map fun n => .object [("id", .ofInt n)]))]
    let leaf := compare .greaterOrEqual (.literal (.value (.ofInt 9007199254740990))) (.property "id")
    Document.lookup source (type.resolve "id").field = stored.map Json.ofInt ∧
      (∀ n ∈ stored, InRange n) ∧ (∀ n ∈ stored, ToldApart n 9007199254740990) ∧
      holds type "1" source leaf = true ∧
      (compile type leaf).clause.selectsIntegers source = true := by
  intro type stored source leaf
  have path : Document.segments "refs.id" = ["refs", "id"] := by decide
  have values : Document.lookup source (type.resolve "id").field = stored.map Json.ofInt := by
    change Document.lookup source "refs.id" = _
    simp [Document.lookup, path, Document.lookupFrom, Document.children, Document.itemChildren,
      Json.Members.get?, Document.settled, source, stored, Json.ofInt]
  have ranged : ∀ n ∈ stored, InRange n := by decide
  have apart : ∀ n ∈ stored, ToldApart n 9007199254740990 := by decide +kernel
  obtain ⟨-, comparisons, -⟩ := integer_comparisons type "id" source stored values ranged
  obtain ⟨-, selected, held, -⟩ := comparisons .greaterOrEqual (.literal (.value (.ofInt 9007199254740990)))
    (.property "id") 9007199254740990 true "1" (by decide) rfl
  exact ⟨values, ranged, apart, (held apart).trans (by decide), selected.trans (by decide)⟩

/-- The least integer that has no binary64 number of its own counts as the one before it. -/
theorem long_integers_are_confused :
    ¬ ∀ a b : Int, InRange a → InRange b →
      Document.order? (.ofInt a) (.ofInt b) = some (Ord.compare a b) := by
  intro exact
  have order := exact 9007199254740993 9007199254740992 (by decide) (by decide)
  rw [Document.order?_ofInt_eq_iff (by decide) (by decide)] at order
  exact absurd order (by decide +kernel)

end Predicate

end GeoSearch
