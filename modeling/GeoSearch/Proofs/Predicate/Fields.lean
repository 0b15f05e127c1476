import GeoSearch.Predicate.Evaluation
import GeoSearch.Predicate.Tree
/-!
A predicate holds of two source documents alike if they agree at the fields that it looks at.
-/
namespace GeoSearch

namespace Predicate

open Document (Agree)

variable {type : FeatureType} {left right : Json} {id : String}

theorem mem_fields {p leaf : Predicate} {name : String} (member : leaf ∈ p.leaves)
    (operand : .property name ∈ leaf.operands) : (type.resolve name).field ∈ p.fields type :=
  List.mem_filterMap.mpr ⟨.property name, List.mem_flatMap.mpr ⟨leaf, member, operand⟩, rfl⟩

theorem fields_subset {p child : Predicate} (part : child.leaves ⊆ p.leaves) :
    child.fields type ⊆ p.fields type := by
  intro field member
  obtain ⟨operand, found, named⟩ := List.mem_filterMap.mp member
  obtain ⟨leaf, below, stands⟩ := List.mem_flatMap.mp found
  exact List.mem_filterMap.mpr ⟨operand, List.mem_flatMap.mpr ⟨leaf, part below, stands⟩, named⟩

theorem leaves_subset_and {child : Predicate} {children : List Predicate}
    (member : child ∈ children) : child.leaves ⊆ (and children).leaves := by
  rw [leaves, allLeaves_eq_flatMap]
  exact fun leaf below => List.mem_flatMap.mpr ⟨child, member, below⟩

theorem leaves_subset_or {child : Predicate} {children : List Predicate}
    (member : child ∈ children) : child.leaves ⊆ (or children).leaves := by
  rw [leaves, allLeaves_eq_flatMap]
  exact fun leaf below => List.mem_flatMap.mpr ⟨child, member, below⟩

def AgreeOn (type : FeatureType) (left right : Json) (operand : Operand) : Prop :=
  ∀ name, operand = .property name → Agree left right (type.resolve name).field

theorem data_congr {operand : Operand} (agree : AgreeOn type left right operand) :
    operand.data type left = operand.data type right := by
  cases operand with
  | property name => rw [Operand.data, Operand.data, (agree name rfl).values]
  | literal l =>
    cases l with
    | value v => cases v <;> rfl
    | instant => rfl
    | period => rfl
    | geometry => rfl

theorem geometries_congr {a : Attribute} (agree : Agree left right a.field) :
    a.geometries left = a.geometries right := by
  rw [Attribute.geometries, Attribute.geometries, agree.values, agree.member]

/-- The property of a pairing is one of the operands. -/
theorem pairing_property {x y : Operand} {pairing : Pairing} (paired : pairing? x y = some pairing) :
    x = .property pairing.property ∨ y = .property pairing.property := by
  unfold pairing? at paired
  split at paired <;> cases paired <;> simp

theorem pairing_agree {x y : Operand} {pairing : Pairing} (paired : pairing? x y = some pairing)
    (first : AgreeOn type left right x) (second : AgreeOn type left right y) :
    Agree left right (type.resolve pairing.property).field := by
  rcases pairing_property paired with named | named
  · exact first _ named
  · exact second _ named

theorem leaf_congr {p : Predicate} (leaf : p.isLeaf)
    (agree : ∀ operand ∈ p.operands, AgreeOn type left right operand) :
    p.holds type id left = p.holds type id right := by
  cases p with
  | everything | nothing | and | or | not => cases leaf
  | compare relation x y =>
    have first := data_congr (agree x (by simp [operands]))
    have second := data_congr (agree y (by simp [operands]))
    simp only [holds, first, second]
  | between x y z =>
    have first := data_congr (agree x (by simp [operands]))
    have second := data_congr (agree y (by simp [operands]))
    have third := data_congr (agree z (by simp [operands]))
    simp only [holds, first, second, third]
  | like x pattern w =>
    have same := data_congr (agree x (by simp [operands]))
    simp only [holds, same]
  | isNull x =>
    have same := agree x (by simp [operands])
    cases x with
    | property name => simp only [holds, (same name rfl).values]
    | literal l => cases l <;> simp only [holds]
  | ids => simp only [holds]
  | spatial relation x y =>
    cases paired : pairing? x y with
    | none => simp only [holds, paired]
    | some pairing =>
      have same := geometries_congr
        (pairing_agree paired (agree x (by simp [operands])) (agree y (by simp [operands])))
      obtain ⟨name, l, swapped⟩ := pairing
      cases l <;> simp only [holds, paired, SpatialRelation.holds, same]
  | distance relation x y limit units =>
    cases paired : pairing? x y with
    | none => simp only [holds, paired]
    | some pairing =>
      have same := geometries_congr
        (pairing_agree paired (agree x (by simp [operands])) (agree y (by simp [operands])))
      obtain ⟨name, l, swapped⟩ := pairing
      cases l <;> simp only [holds, paired, DistanceRelation.holds, same]
  | temporal relation x y =>
    cases paired : pairing? x y with
    | none => simp only [holds, paired]
    | some pairing =>
      have same := pairing_agree paired (agree x (by simp [operands])) (agree y (by simp [operands]))
      obtain ⟨name, l, swapped⟩ := pairing
      simp only [holds, paired, same.values]

/-- Only the fields of a predicate decide whether it holds. -/
theorem holds_congr (p : Predicate) (agree : ∀ field ∈ p.fields type, Agree left right field) :
    p.holds type id left = p.holds type id right := by
  induction p using tree_induction with
  | everything => rfl
  | nothing => rfl
  | and children ih =>
    rw [holds_and, holds_and, Bool.eq_iff_iff, List.all_eq_true, List.all_eq_true]
    refine forall₂_congr fun child member => ?_
    rw [ih child member fun field reads => agree field (fields_subset (leaves_subset_and member) reads)]
  | or children ih =>
    rw [holds_or, holds_or, Bool.eq_iff_iff, List.any_eq_true, List.any_eq_true]
    refine exists_congr fun child => and_congr_right fun member => ?_
    rw [ih child member fun field reads => agree field (fields_subset (leaves_subset_or member) reads)]
  | not child ih => rw [holds_not, holds_not, ih agree]
  | leaf p leaf =>
    refine leaf_congr leaf fun operand stands name named => ?_
    subst named
    exact agree _ (mem_fields (leaves_of_isLeaf leaf ▸ List.mem_singleton_self p) stands)

end Predicate

end GeoSearch
