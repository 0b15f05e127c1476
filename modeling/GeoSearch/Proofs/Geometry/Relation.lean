import GeoSearch.Geometry.Relation
import GeoSearch.Predicate.Evaluation
import Mathlib.Tactic.ByContra
import Mathlib.Tactic.Push
/-!
Relations to a single position. A position stands in a relation other than disjointness only to a shape
that it is not outside of.
-/
namespace GeoSearch

namespace Relation

variable {a b : Shape} {i j : Location} {p q : Position}

/-- Nothing is highest if no sample lies in both parts. -/
theorem highest_eq_none_iff {located : List (Location × Location × Nat)} :
    highest located i j = none ↔ ∀ s ∈ located, ¬ (s.1 = i ∧ s.2.1 = j) := by
  have folded : ∀ start : Option Nat,
      located.foldl (fun d s => if s.1 = i ∧ s.2.1 = j then higher d s.2.2 else d) start = none ↔
        start = none ∧ ∀ s ∈ located, ¬ (s.1 = i ∧ s.2.1 = j) := by
    induction located with
    | nil => simp
    | cons s rest ih =>
      intro start
      have found : higher start s.2.2 ≠ none := by cases start <;> simp [higher]
      rw [List.foldl_cons, ih, List.forall_mem_cons]
      by_cases both : s.1 = i ∧ s.2.1 = j
      · simp [found, both]
      · simp only [both, if_false, not_false_eq_true, true_and]
  exact (folded none).trans (and_iff_right rfl)

/-- Two parts are apart if no sample lies in both of them. -/
theorem apart_iff (inner : ¬ (i = .exterior ∧ j = .exterior)) :
    (ofShapes a b).apart i j = true ↔
      ∀ s ∈ samples a b, ¬ (a.locate s.1 = i ∧ b.locate s.1 = j) := by
  have meets : (ofShapes a b).meets i j =
      highest ((samples a b).map fun s => (a.locate s.1, b.locate s.1, s.2)) i j := if_neg inner
  rw [apart, meets, Option.isNone_iff_eq_none, highest_eq_none_iff]
  exact List.forall_mem_map

/-- Shapes that intersect have a position that is outside of neither. -/
theorem common_of_intersects (intersects : (ofShapes a b).intersects = true) :
    ∃ p, a.locate p ≠ .exterior ∧ b.locate p ≠ .exterior := by
  by_contra none
  push Not at none
  -- without such a position, no sample is in a part of both
  have parts (i j : Location) (first : i ≠ .exterior) (second : j ≠ .exterior) :
      (ofShapes a b).apart i j = true := by
    rw [apart_iff fun both => first both.1]
    rintro s - ⟨here, there⟩
    refine second (there.symm.trans (none s.1 ?_))
    rw [here]
    exact first
  rw [Relation.intersects, disjoint, parts .interior .interior nofun nofun,
    parts .interior .boundary nofun nofun, parts .boundary .interior nofun nofun,
    parts .boundary .boundary nofun nofun] at intersects
  cases intersects

variable {r : Relation}

/-- Interiors that meet intersect. -/
theorem intersects_of_interiors (meet : r.apart .interior .interior = false) :
    r.intersects = true := by
  rw [intersects, disjoint, meet]
  rfl

theorem apart_of_meets {n : Nat} (meet : r.meets i j = some n) : r.apart i j = false := by
  rw [apart, meet]
  rfl

theorem interiors_of_crosses (crosses : r.crosses = true) : r.apart .interior .interior = false := by
  unfold Relation.crosses at crosses
  dsimp only at crosses
  split at crosses
  · simpa using (Bool.and_eq_true_iff.mp crosses).1
  split at crosses
  · simpa using (Bool.and_eq_true_iff.mp crosses).1
  · have point := (Bool.and_eq_true_iff.mp crosses).2
    exact apart_of_meets (of_decide_eq_true point)

theorem interiors_of_overlaps (overlaps : r.overlaps = true) :
    r.apart .interior .interior = false := by
  unfold Relation.overlaps at overlaps
  dsimp only at overlaps
  split at overlaps
  · cases overlaps
  split at overlaps
  · have line := (Bool.and_eq_true_iff.mp overlaps).1
    exact apart_of_meets (of_decide_eq_true line)
  · simpa using (Bool.and_eq_true_iff.mp overlaps).1

/-- Shapes that cover the same positions intersect, if there is a position at all. -/
theorem intersects_of_equal (inner : ¬ (i = .exterior ∧ j = .exterior)) (some : r.apart i j = false)
    (equal : r.equal = true) : r.intersects = true := by
  by_contra apart
  have disjoint : r.disjoint = true := by simpa [intersects] using apart
  simp only [Relation.equal, Relation.disjoint, Bool.and_eq_true] at equal disjoint
  obtain ⟨⟨⟨⟨interior, boundary⟩, interior'⟩, boundary'⟩, -⟩ := equal
  obtain ⟨⟨⟨first, second⟩, third⟩, fourth⟩ := disjoint
  cases i <;> cases j <;> simp_all

/-- Every relation but disjointness says that the shapes intersect, if there is a position at all. -/
theorem intersects_of_relation {relation : SpatialRelation} (other : relation ≠ .disjoint)
    (inner : ¬ (i = .exterior ∧ j = .exterior)) (some : r.apart i j = false)
    (holds : relation.ofRelation r = true) : r.intersects = true := by
  cases relation with
  | bbox => exact holds
  | intersects => exact holds
  | disjoint => exact absurd rfl other
  | crosses => exact intersects_of_interiors (interiors_of_crosses holds)
  | overlaps => exact intersects_of_interiors (interiors_of_overlaps holds)
  | equals => exact intersects_of_equal inner some holds
  | touches => exact (Bool.and_eq_true_iff.mp holds).2
  | contains =>
    have meet := (Bool.and_eq_true_iff.mp (Bool.and_eq_true_iff.mp holds).1).1
    exact intersects_of_interiors (by simpa using meet)
  | within =>
    have meet := (Bool.and_eq_true_iff.mp (Bool.and_eq_true_iff.mp holds).1).1
    exact intersects_of_interiors (by simpa using meet)

/-! ### Single positions -/

theorem locate_ofPoint (c : Coord Float) (p : Position) :
    (Shape.ofPoints [c]).locate p = if p = c.exact then .interior else .exterior := by
  simp [Shape.locate, Shape.ofPoints, Shape.onBoundary, Shape.covers]

theorem locate_ofPoint_self (c : Coord Float) : (Shape.ofPoints [c]).locate c.exact = .interior := by
  rw [locate_ofPoint, if_pos rfl]

theorem eq_of_locate_ofPoint {c : Coord Float} {p : Position}
    (here : (Shape.ofPoints [c]).locate p ≠ .exterior) : p = c.exact := by
  rw [locate_ofPoint] at here
  by_contra away
  exact here (if_neg away)

theorem mem_samples_left {c : Coord Float} : (c.exact, 0) ∈ samples (Shape.ofPoints [c]) b := by
  simp [samples, vertices, Shape.ofPoints]

theorem mem_samples_right {c : Coord Float} : (c.exact, 0) ∈ samples a (Shape.ofPoints [c]) := by
  simp [samples, vertices, Shape.ofPoints]

variable {c : Coord Float} {relation : SpatialRelation}

/-- A position that stands in a relation to a shape is not outside of it. -/
theorem locate_of_relation (other : relation ≠ .disjoint)
    (holds : relation.ofRelation (ofShapes (Shape.ofPoints [c]) b) = true) :
    b.locate c.exact ≠ .exterior := by
  have inner : ¬ (Location.interior = .exterior ∧ b.locate c.exact = .exterior) :=
    fun both => nomatch both.1
  have met : (ofShapes (Shape.ofPoints [c]) b).apart .interior (b.locate c.exact) = false := by
    rw [Bool.eq_false_iff]
    exact fun apart => (apart_iff inner).mp apart _ mem_samples_left ⟨locate_ofPoint_self c, rfl⟩
  obtain ⟨p, here, there⟩ := common_of_intersects (intersects_of_relation other inner met holds)
  obtain rfl := eq_of_locate_ofPoint here
  exact there

/-- The same with the position second. -/
theorem locate_of_relation_swapped (other : relation ≠ .disjoint)
    (holds : relation.ofRelation (ofShapes a (Shape.ofPoints [c])) = true) :
    a.locate c.exact ≠ .exterior := by
  have inner : ¬ (a.locate c.exact = .exterior ∧ Location.interior = .exterior) :=
    fun both => nomatch both.2
  have met : (ofShapes a (Shape.ofPoints [c])).apart (a.locate c.exact) .interior = false := by
    rw [Bool.eq_false_iff]
    exact fun apart => (apart_iff inner).mp apart _ mem_samples_right ⟨rfl, locate_ofPoint_self c⟩
  obtain ⟨p, here, there⟩ := common_of_intersects (intersects_of_relation other inner met holds)
  obtain rfl := eq_of_locate_ofPoint there
  exact here

/-! ### Where a single position lies -/

/-- A single position is all interior, and meets the part of a shape that it lies in. -/
theorem apart_interior_point (j : Location) :
    (ofShapes (Shape.ofPoints [c]) b).apart .interior j = decide (b.locate c.exact ≠ j) := by
  have inner : ¬ (Location.interior = .exterior ∧ j = .exterior) := fun both => nomatch both.1
  rw [Bool.eq_iff_iff, apart_iff inner, decide_eq_true_iff]
  constructor
  · exact fun apart there => apart _ mem_samples_left ⟨locate_ofPoint_self c, there⟩
  · rintro away s - ⟨here, there⟩
    have same : s.1 = c.exact := eq_of_locate_ofPoint (here.trans_ne nofun)
    exact away (same ▸ there)

theorem apart_boundary_point (j : Location) :
    (ofShapes (Shape.ofPoints [c]) b).apart .boundary j = true := by
  have inner : ¬ (Location.boundary = .exterior ∧ j = .exterior) := fun both => nomatch both.1
  rw [apart_iff inner]
  rintro s - ⟨here, -⟩
  rw [locate_ofPoint] at here
  split at here <;> cases here

theorem apart_point_interior (i : Location) :
    (ofShapes a (Shape.ofPoints [c])).apart i .interior = decide (a.locate c.exact ≠ i) := by
  have inner : ¬ (i = .exterior ∧ Location.interior = .exterior) := fun both => nomatch both.2
  rw [Bool.eq_iff_iff, apart_iff inner, decide_eq_true_iff]
  constructor
  · exact fun apart here => apart _ mem_samples_right ⟨here, locate_ofPoint_self c⟩
  · rintro away s - ⟨here, there⟩
    have same : s.1 = c.exact := eq_of_locate_ofPoint (there.trans_ne nofun)
    exact away (same ▸ here)

theorem apart_point_boundary (i : Location) :
    (ofShapes a (Shape.ofPoints [c])).apart i .boundary = true := by
  have inner : ¬ (i = .exterior ∧ Location.boundary = .exterior) := fun both => nomatch both.2
  rw [apart_iff inner]
  rintro s - ⟨-, there⟩
  rw [locate_ofPoint] at there
  split at there <;> cases there

/-- A position is within a shape if it lies in its interior. -/
theorem within_point :
    (ofShapes (Shape.ofPoints [c]) b).within = decide (b.locate c.exact = .interior) := by
  simp only [within, apart_interior_point, apart_boundary_point]
  cases b.locate c.exact <;> rfl

theorem contains_point :
    (ofShapes a (Shape.ofPoints [c])).contains = decide (a.locate c.exact = .interior) := by
  simp only [contains, apart_point_interior, apart_point_boundary]
  cases a.locate c.exact <;> rfl

/-- A position intersects a shape unless it lies outside. -/
theorem intersects_point :
    (ofShapes (Shape.ofPoints [c]) b).intersects = decide (b.locate c.exact ≠ .exterior) := by
  simp only [intersects, disjoint, apart_interior_point, apart_boundary_point]
  cases b.locate c.exact <;> rfl

theorem intersects_point_right :
    (ofShapes a (Shape.ofPoints [c])).intersects = decide (a.locate c.exact ≠ .exterior) := by
  simp only [intersects, disjoint, apart_point_interior, apart_point_boundary]
  cases a.locate c.exact <;> rfl

end Relation

end GeoSearch
