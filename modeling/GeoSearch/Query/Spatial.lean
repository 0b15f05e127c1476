import GeoSearch.Query.Clause
import GeoSearch.Predicate.Evaluation
/-!
Clauses for spatial and distance relations, by the way a geometry is stored. A relation that has no
clause gives the reason instead.
-/
namespace GeoSearch

/-- The part of a predicate that no clause can express. -/
structure Note where
  kind : String
  reason : String
  deriving Repr, DecidableEq

def Note.text (n : Note) : String := n.kind ++ ": " ++ n.reason

/-- The rings of a literal with an area: a polygon, a box or a triangle. -/
def Geometry.polygon? : Geometry Float → Option (Polygon Float)
  | .polygon p => some p
  | .rect r => some r.toPolygon
  | .triangle a b c => some (trianglePolygon a b c)
  | _ => none

namespace SpatialRelation

/-- The attribute lies within the literal. -/
def isWithin (relation : SpatialRelation) (swapped : Bool) : Bool :=
  (relation = within && !swapped) || (relation = contains && swapped)

/-- Bounds as wide as the world reach around it. -/
def goesAround (g : Geometry Float) : Bool :=
  match g.bounds with
  | some box => 360.0 ≤ box.width
  | none => false

/-- The box clause of bounds; its edges lie in the world. -/
def boxClause (field : String) (around : Bool) (box : Rect Float) : Clause :=
  let south := clampLatitude box.low.y
  let north := clampLatitude box.high.y
  let (west, east) :=
    if around then (-180.0, 180.0) else (wrapLongitude box.low.x, wrapLongitude box.high.x)
  .filtered (.inBox field ⟨west, north⟩ ⟨east, south⟩)

def pointReason : String := "not supported for point storage with this literal"

def pointClause (relation : SpatialRelation) (field : String) (g : Geometry Float) (swapped : Bool)
    (around : Bool) : Except String Clause :=
  let ring? :=
    if relation.isWithin swapped || relation = intersects then g.polygon?.map Polygon.exterior
    else none
  match ring? with
  | some ring => .ok (.filtered (.inRing field ring))
  | none =>
    if relation = bbox then
      match g.bounds with
      | some box => .ok (boxClause field around box)
      | none => .error "literal has no envelope"
    else .error pointReason

def shapeRelation? (relation : SpatialRelation) (swapped : Bool) : Option ShapeRelation :=
  if relation = disjoint then some .disjoint
  else if relation.isWithin swapped then some .within
  else if relation = intersects || relation = bbox then some .intersects
  else none

def shapeClause (relation : SpatialRelation) (field : String) (g : Geometry Float)
    (swapped : Bool) : Except String Clause :=
  match relation.shapeRelation? swapped with
  | some r => .ok (.filtered (.shape field r g))
  | none => .error "not supported for shape storage"

/-- The clause on a literal that is ready for it. Whether the literal goes around the world was
seen before it was brought into the world. -/
def storedClause (relation : SpatialRelation) (a : Attribute) (g : Geometry Float) (swapped : Bool)
    (around : Bool) : Except String Clause :=
  match a.storage with
  | .point => relation.pointClause a.field g swapped around
  | .shape => relation.shapeClause a.field g swapped
  | .absent => .error "attribute is not a geometry"

def reasonedClause (relation : SpatialRelation) (a : Attribute) (literal : Geometry Float)
    (swapped : Bool) : Except String Clause :=
  if a.storage = .absent then .error "attribute is not a geometry"
  else if a.geographic then
    match literal.sanitize with
    | .world => .ok .matchAll
    | .empty => .ok (if relation = disjoint then .matchAll else .matchNone)
    | .clipped g => relation.storedClause a g swapped (goesAround literal)
  else relation.storedClause a literal swapped (goesAround literal)

/-- The clause for a relation between an attribute and a literal. -/
def clause (relation : SpatialRelation) (a : Attribute) (literal : Geometry Float) (swapped : Bool) :
    Except Note Clause :=
  (relation.reasonedClause a literal swapped).mapError (⟨relation.text, ·⟩)

end SpatialRelation

namespace DistanceRelation

/-- The clause for a distance from the centroid of a literal. -/
def clause (relation : DistanceRelation) (a : Attribute) (literal : Geometry Float)
    (distance : Float) (units : String) (swapped : Bool) : Except Note Clause :=
  if a.storage = .absent then .error ⟨relation.text, "attribute is not a geometry"⟩
  else
    match literal.centroid? with
    | none => .error ⟨relation.text, "literal has no centroid"⟩
    | some centre =>
      let metres := Distance.toMetres distance units a.geographic
      .ok (.negatedIf (relation.negated swapped) (.filtered (.near a.field metres centre)))

end DistanceRelation

end GeoSearch
