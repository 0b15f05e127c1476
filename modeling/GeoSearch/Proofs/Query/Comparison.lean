import GeoSearch.Proofs.Document.Order
import GeoSearch.Proofs.Query.Leaf
import GeoSearch.Query.Selection
/-!
Comparisons with scalars, ranges and null checks: the documents that their clauses select are the ones
they hold of, whichever operand stands first.
-/
namespace GeoSearch

def Operand.isScalar : Operand → Bool
  | .property _ => true
  | .literal (.value (.array _)) => false
  | .literal (.value (.object _)) => false
  | .literal (.value _) => true
  | .literal _ => false

variable (r : Reading) (id : String) (source : Json)

namespace Attribute

@[simp] theorem selects_enclose (a : Attribute) (c : Clause) :
    (a.enclose c).selects r id source = c.selects r id source :=
  Clause.selects_within r id source a.nestedPath? c

/-- A scalar goes into a clause as it is, and is the one value that it stands for. -/
theorem scalar_of_clauseValue? (type : FeatureType) {a : Attribute} {l : Literal} {value : Json}
    (scalar : (Operand.literal l).isScalar = true) (sent : a.clauseValue? l = some value) :
    (Operand.literal l).data type source = [.value value] := by
  cases l with
  | value v => cases v <;> simp_all [clauseValue?, Operand.data]
  | _ => simp [Operand.isScalar] at scalar

end Attribute

namespace Comparison

theorem admits_limit? {relation : Comparison} {limit : Limit} (h : relation.limit? = some limit)
    (o : Ordering) : limit.admits o = relation.holds o := by
  cases relation <;> cases h <;> rfl

theorem limit?_eq_none {relation : Comparison} (h : relation.limit? = none) :
    relation = equal ∨ relation = unequal := by
  cases relation <;> simp_all [limit?]

/-- By whatever rules it is read, the clause of a comparison asks for one value that stands in the
relation; that of an inequality for none that is equal. -/
theorem selectsBy_clause (rules : Rules) (relation : Comparison) (field : String) (value : Json) :
    (relation.clause field value).selectsBy rules r id source =
      if relation = unequal then
        !(Document.lookup source field).any fun v => rules.order? v value == some .eq
      else (Document.lookup source field).any fun v => (rules.order? v value).any relation.holds := by
  unfold clause
  cases limited : relation.limit? with
  | some limit =>
    have ordered : relation ≠ unequal := by rintro rfl; cases limited
    have same : limit.admits = relation.holds := funext (admits_limit? limited)
    simp [Clause.selectsBy, Rules.hasInRange, ordered, same]
  | none =>
    have equal (v : Json) :
        (rules.order? v value == some .eq) = (rules.order? v value).any Comparison.equal.holds := by
      cases rules.order? v value <;> simp [holds]
    rcases limit?_eq_none limited with rfl | rfl <;>
      simp [Clause.negatedIf, Clause.selectsBy, Rules.hasTerm, equal]

@[simp] theorem mirror_eq_unequal (relation : Comparison) :
    relation.mirror = unequal ↔ relation = unequal := by
  cases relation <;> simp [mirror]

end Comparison

namespace Predicate

@[simp] theorem order?_value (a : Option Attribute) (v w : Json) :
    Datum.order? a (.value v) (.value w) = Document.order? v w := rfl

theorem order?_swap (a : Option Attribute) (x y : Datum) :
    Datum.order? a y x = (Datum.order? a x y).map Ordering.swap := by
  have instants : ∀ i j : Option Time.Instant,
      (do some ((← j).compare (← i)) : Option Ordering) =
        (do some ((← i).compare (← j)) : Option Ordering).map Ordering.swap := by
    rintro (_ | i) (_ | j) <;> try rfl
    exact congrArg some (Time.Instant.compare_swap i j)
  cases x <;> cases y
  case value.value v w => exact Document.order?_swap v w
  all_goals exact instants _ _

/-- Exchanged values stand in the mirrored relation. -/
theorem compareData_swap (relation : Comparison) (a : Option Attribute) (x : Datum)
    (ys : List Datum) : compareData relation a [x] ys = compareData relation.mirror a ys [x] := by
  have each (c : Comparison) (y : Datum) :
      (Datum.order? a x y).any c.holds = (Datum.order? a y x).any c.mirror.holds := by
    rw [order?_swap a y x, ← Comparison.mirror_mirror c]
    cases Datum.order? a y x with
    | none => rfl
    | some o => simpa using Comparison.holds_mirror c.mirror o
  have equal (y : Datum) : (Datum.order? a x y).any Comparison.equal.holds =
      (Datum.order? a y x).any Comparison.equal.holds := each .equal y
  simp [compareData, each relation, equal]

/-- The clause of a comparison selects what the comparison holds of. -/
theorem selects_comparison (relation : Comparison) (a : Option Attribute) (field : String)
    (v : Json) :
    (relation.clause field v).selects r id source =
      compareData relation a ((Document.lookup source field).map .value) [.value v] := by
  have equal (w : Json) :
      (Document.order? w v == some .eq) = (Document.order? w v).any Comparison.equal.holds := by
    cases Document.order? w v <;> simp [Comparison.holds]
  rw [Clause.selects, Comparison.selectsBy_clause]
  simp [compareData, equal, List.any_map, Function.comp_def]

theorem isScalar_pairing {left right : Operand} {p : Pairing} (leftScalar : left.isScalar = true)
    (rightScalar : right.isScalar = true) (paired : pairing? left right = some p) :
    (Operand.literal p.literal).isScalar = true := by
  cases left <;> cases right <;> simp only [pairing?, Option.some.injEq, reduceCtorEq] at paired
  · exact paired ▸ rightScalar
  · exact paired ▸ leftScalar

/-- A comparison with the literal in the second place holds as it is, with the literal in the first
place as its mirror. -/
theorem holds_compare {type : FeatureType} {relation : Comparison} {left right : Operand}
    {p : Pairing} {x : Datum} (paired : pairing? left right = some p)
    (single : (Operand.literal p.literal).data type source = [x]) :
    holds type id source (.compare relation left right) =
      compareData (if p.swapped then relation.mirror else relation) (some (type.resolve p.property))
        ((Document.lookup source (type.resolve p.property).field).map .value) [x] := by
  cases left <;> cases right <;> simp only [pairing?, Option.some.injEq, reduceCtorEq] at paired
  · subst paired
    simp only [holds, single]
    rfl
  · subst paired
    simp only [holds, single]
    exact compareData_swap ..

theorem selects_compareClause {type : FeatureType} {relation : Comparison} {left right : Operand}
    {clause : Clause} (leftScalar : left.isScalar = true) (rightScalar : right.isScalar = true)
    (compiled : compareClause type relation left right = .ok clause) :
    clause.selects r id source = holds type id source (.compare relation left right) := by
  obtain ⟨p, value, paired, sent, rfl⟩ := compareClause_ok compiled
  have scalar := isScalar_pairing leftScalar rightScalar paired
  have single := Attribute.scalar_of_clauseValue? source type scalar sent
  rw [Attribute.selects_enclose, selects_comparison, holds_compare id source paired single]

/-- Both bounds are met by one and the same value, in the clause as in the predicate. -/
theorem selects_betweenClause {type : FeatureType} {operand lower upper : Operand} {clause : Clause}
    (lowerScalar : lower.isScalar = true) (upperScalar : upper.isScalar = true)
    (compiled : betweenClause type operand lower upper = .ok clause) :
    clause.selects r id source = holds type id source (.between operand lower upper) := by
  obtain ⟨name, low, high, lowValue, highValue, rfl, rfl, rfl, lowSent, highSent, rfl⟩ :=
    betweenClause_ok compiled
  have lowSingle := Attribute.scalar_of_clauseValue? source type lowerScalar lowSent
  have highSingle := Attribute.scalar_of_clauseValue? source type upperScalar highSent
  have atLeast : Limit.atLeast.admits = Comparison.greaterOrEqual.holds :=
    funext (Comparison.admits_limit? rfl)
  have atMost : Limit.atMost.admits = Comparison.lessOrEqual.holds :=
    funext (Comparison.admits_limit? rfl)
  rw [Attribute.selects_enclose]
  simp only [holds, lowSingle, highSingle]
  simp [Rules.hasInRange, betweenData, Operand.data, atLeast, atMost,
    List.any_map, Function.comp_def]

/-- A null check is the opposite of its existence clause. -/
theorem selects_isNullClause {type : FeatureType} {operand : Operand} {clause : Clause}
    (compiled : isNullClause type operand = .ok clause) :
    clause.selects r id source = holds type id source (.isNull operand) := by
  obtain ⟨name, rfl, rfl⟩ := isNullClause_ok compiled
  simp [presentClause, holds]

end Predicate

end GeoSearch
