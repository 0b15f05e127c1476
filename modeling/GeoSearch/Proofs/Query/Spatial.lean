import GeoSearch.Proofs.Geometry.Relation
import GeoSearch.Proofs.Query.Leaf
import GeoSearch.Query.Nested
import GeoSearch.Query.Positions
/-!
Relations between stored positions and literals. The clause and the relation itself begin alike: a
literal of a geographic attribute is brought into the world, and one that covers the world or has no
coordinates is settled without looking at the documents.
-/
namespace GeoSearch

namespace Document

theorem memberAt?_holding (value : Json) (names : List String) :
    memberAt? (holding value names) names = some value := by
  induction names with
  | nil => rfl
  | cons name rest ih => simpa [holding, memberAt?, Json.Members.get?] using ih

def placed (c : Coord Float) (path : String) : Json :=
  alone (.array [.number (.float c.x), .number (.float c.y)]) path

end Document

theorem Attribute.geometries_placed (a : Attribute) (c : Coord Float) :
    a.geometries (Document.placed c a.field) = [.point c] := by
  have member : Document.single? (Document.placed c a.field) a.field =
      some (.array [.number (.float c.x), .number (.float c.y)]) :=
    Document.memberAt?_holding _ _
  rw [geometries, member]
  rfl

def Attribute.prepared (a : Attribute) (g : Geometry Float) : Sanitized Float :=
  if a.geographic then g.sanitize else .clipped g

/-- A literal in degrees with coordinates, and smaller than the world. -/
theorem Attribute.prepared_clipped {a : Attribute} {g : Geometry Float}
    (geographic : a.geographic = true) (some : g.isEmpty = false)
    (small : g.intoWorld.isWorld = false) : a.prepared g = .clipped g.intoWorld := by
  rw [prepared, if_pos geographic, Geometry.sanitize, some, small]
  rfl

namespace SpatialRelation

variable {relation : SpatialRelation} {a : Attribute} {swapped : Bool} {g : Geometry Float}

theorem holds_of_prepared (source : Json) : relation.holds a swapped g source =
    match a.prepared g with
    | .world => true
    | .empty => decide (relation = disjoint)
    | .clipped h => relation.holdsPlanar swapped h (a.geometries source) := by
  unfold holds Attribute.prepared
  cases a.geographic <;> rfl

theorem reasonedClause_of_prepared (stored : a.storage = .point) :
    relation.reasonedClause a g swapped =
      match a.prepared g with
      | .world => .ok .matchAll
      | .empty => .ok (if relation = disjoint then .matchAll else .matchNone)
      | .clipped h => relation.pointClause a.field h swapped (goesAround g) := by
  unfold reasonedClause Attribute.prepared storedClause
  rw [stored]
  cases a.geographic <;> rfl

end SpatialRelation

namespace Predicate

variable {type : FeatureType} {relation : SpatialRelation} {left right : Operand} {name : String}
  {g : Geometry Float} {swapped : Bool} {clause : Clause}
  (paired : pairing? left right = some ⟨name, .geometry g, swapped⟩)

include paired

theorem holds_spatial (id : String) (source : Json) :
    holds type id source (.spatial relation left right) =
      relation.holds (type.resolve name) swapped g source := by
  rw [holds, paired]

theorem compile_spatial (reasoned : relation.reasonedClause (type.resolve name) g swapped = .ok clause) :
    compile type (.spatial relation left right) = { clause } := by
  simp [compile, spatialClause, paired, SpatialRelation.clause, reasoned, Except.mapError,
    Compilation.ofExcept]

theorem compile_spatial_error {reason : String}
    (reasoned : relation.reasonedClause (type.resolve name) g swapped = .error reason) :
    compile type (.spatial relation left right) =
      { clause := .matchAll, notes := [⟨relation.text, reason⟩] } := by
  simp [compile, spatialClause, paired, SpatialRelation.clause, reasoned, Except.mapError,
    Compilation.ofExcept]

/-- A literal that covers the world: every document is selected, and stands in the relation. -/
theorem settled_world (stored : (type.resolve name).storage = .point)
    (whole : (type.resolve name).prepared g = .world) :
    compile type (.spatial relation left right) = { clause := .matchAll } ∧
      ∀ id source, holds type id source (.spatial relation left right) = true := by
  constructor
  · apply compile_spatial paired
    rw [SpatialRelation.reasonedClause_of_prepared stored, whole]
  · intro id source
    rw [holds_spatial paired, SpatialRelation.holds_of_prepared, whole]

/-- A literal without coordinates: nothing is selected, and nothing stands in a relation to it but for
disjointness. -/
theorem settled_empty (stored : (type.resolve name).storage = .point)
    (nothing : (type.resolve name).prepared g = .empty) (other : relation ≠ .disjoint) :
    compile type (.spatial relation left right) = { clause := .matchNone } ∧
      ∀ id source, holds type id source (.spatial relation left right) = false := by
  constructor
  · apply compile_spatial paired
    rw [SpatialRelation.reasonedClause_of_prepared stored, nothing]
    exact congrArg Except.ok (if_neg other)
  · intro id source
    rw [holds_spatial paired, SpatialRelation.holds_of_prepared, nothing]
    exact decide_eq_false other

def sites : FeatureType where
  name := "sites"
  attributes := [.ofGeometry "at" .point]

end Predicate

end GeoSearch
