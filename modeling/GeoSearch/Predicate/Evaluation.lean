import GeoSearch.Predicate.Temporal
import GeoSearch.Predicate.Like
import GeoSearch.Document.Lookup
import GeoSearch.Document.Order
import GeoSearch.Geometry.Relation
import GeoSearch.Geometry.World
import GeoSearch.Geometry.Centroid
import GeoSearch.Geometry.Distance
import GeoSearch.Geometry.Document
/-!
Predicates evaluated on documents. A field with several values satisfies a relation when one of
them does.
-/
namespace GeoSearch

/-- One value of an operand. -/
inductive Datum where
  | value (value : Json)
  | instant (i : Time.Instant)

namespace Datum

/-- A datum as an instant; stored values are read as dates of the attribute. -/
def instant? (a : Option Attribute) : Datum → Option Time.Instant
  | instant i => some i
  | value v => a.bind (·.readDate? v)

/-- Where an instant takes part, both sides are instants. -/
def order? (a : Option Attribute) (x y : Datum) : Option Ordering :=
  match x, y with
  | value v, value w => Document.order? v w
  | _, _ => do some ((← x.instant? a).compare (← y.instant? a))

/-- The text that a pattern is matched against. -/
def text? : Datum → Option String
  | value (.string s) => some s
  | value (.number n) => some n.text
  | value (.bool b) => some (if b then "true" else "false")
  | _ => none

end Datum

namespace Operand

def data (type : FeatureType) (source : Json) : Operand → List Datum
  | property name => (Document.lookup source (type.resolve name).field).map .value
  | literal (.value .null) => []
  | literal (.value v) => [.value v]
  | literal (.instant i) => [.instant i]
  | literal _ => []

end Operand

/-- The geometries of a field. A field that is itself a geometry is one, even when it is an array. -/
def Attribute.geometries (a : Attribute) (source : Json) : List (Geometry Float) :=
  match (Document.single? source a.field).bind GeoJson.read? with
  | some g => [g]
  | none => (Document.lookup source a.field).filterMap GeoJson.read?

namespace SpatialRelation

def ofRelation (r : Relation) : SpatialRelation → Bool
  | bbox => r.intersects
  | intersects => r.intersects
  | contains => r.contains
  | crosses => r.crosses
  | disjoint => r.disjoint
  | equals => r.equal
  | overlaps => r.overlaps
  | touches => r.touches
  | within => r.within

/-- Whether one of the geometries stands in a relation to a literal in the plane. A box relation
looks at the bounds of the literal. -/
def holdsPlanar (relation : SpatialRelation) (swapped : Bool) (literal : Geometry Float)
    (geometries : List (Geometry Float)) : Bool :=
  let target? := if relation = bbox then literal.bounds.map Geometry.rect else some literal
  match target? with
  | none => false
  | some target => geometries.any fun g =>
    relation.ofRelation (if swapped then Relation.of target g else Relation.of g target)

/-- Literals of geographic attributes are brought into the world first: all stands in every relation
to the whole world, and nothing but disjointness holds of an empty literal. -/
def holds (relation : SpatialRelation) (a : Attribute) (swapped : Bool) (literal : Geometry Float)
    (source : Json) : Bool :=
  if a.geographic then
    match literal.sanitize with
    | .world => true
    | .empty => relation = disjoint
    | .clipped g => relation.holdsPlanar swapped g (a.geometries source)
  else relation.holdsPlanar swapped literal (a.geometries source)

end SpatialRelation

namespace DistanceRelation

/-- Exchanged operands turn a relation into its opposite. -/
def negated (relation : DistanceRelation) (swapped : Bool) : Bool :=
  match relation with
  | within => swapped
  | beyond => !swapped

/-- Distances are taken between centroids. -/
def holds (relation : DistanceRelation) (a : Attribute) (swapped : Bool) (literal : Geometry Float)
    (distance : Float) (units : String) (source : Json) : Bool :=
  match literal.centroid? with
  | none => false
  | some centre =>
    let limit := Distance.toMetres distance units a.geographic
    let near := ((a.geometries source).filterMap Geometry.centroid?).any fun c =>
      Distance.between a.geographic c centre ≤ limit
    near != relation.negated swapped

end DistanceRelation

/-- Whether an identifier is listed, plainly or qualified by the name of its type. -/
def FeatureType.lists (type : FeatureType) (identifiers : List String) (id : String) : Bool :=
  identifiers.any fun listed =>
    listed == id || Text.after? (type.name ++ ".").toList listed.toList == some id.toList

namespace Predicate

/-- Whether the values stand in a relation. A value that is missing differs from every other. -/
def compareData (relation : Comparison) (a : Option Attribute) (left right : List Datum) : Bool :=
  let some? (c : Comparison) : Bool :=
    left.any fun x => right.any fun y => (Datum.order? a x y).any c.holds
  if relation = .unequal then !some? .equal else some? relation

def betweenData (a : Option Attribute) (values lower upper : List Datum) : Bool :=
  values.any fun x =>
    (lower.any fun y => (Datum.order? a x y).any Comparison.greaterOrEqual.holds) &&
      upper.any fun y => (Datum.order? a x y).any Comparison.lessOrEqual.holds

mutual

/-- Whether a feature with this identifier and this source document satisfies a predicate. -/
def holds (type : FeatureType) (id : String) (source : Json) : Predicate → Bool
  | .everything => true
  | .nothing => false
  | .and children => allHold type id source children
  | .or children => anyHolds type id source children
  | .not child => !holds type id source child
  | .compare relation left right =>
    compareData relation ((left.property? <|> right.property?).map type.resolve)
      (left.data type source) (right.data type source)
  | .between operand lower upper =>
    betweenData (operand.property?.map type.resolve) (operand.data type source)
      (lower.data type source) (upper.data type source)
  | .like operand pattern wildcards =>
    (operand.data type source).any fun x => x.text?.any (Like.matchesText wildcards pattern)
  | .isNull operand =>
    match operand with
    | .property name => (Document.lookup source (type.resolve name).field).isEmpty
    | .literal (.value v) => v.isNull
    | .literal _ => false
  | .ids identifiers => type.lists identifiers id
  | .spatial relation left right =>
    match pairing? left right with
    | some ⟨name, .geometry g, swapped⟩ => relation.holds (type.resolve name) swapped g source
    | _ => false
  | .distance relation left right limit units =>
    match pairing? left right with
    | some ⟨name, .geometry g, swapped⟩ =>
      relation.holds (type.resolve name) swapped g limit units source
    | _ => false
  | .temporal relation left right =>
    match pairing? left right with
    | some ⟨name, l, swapped⟩ =>
      match l.temporal? with
      | some value =>
        let a := type.resolve name
        ((Document.lookup source a.field).filterMap a.readDate?).any fun v =>
          relation.holds v value swapped
      | none => false
    | none => false

def allHold (type : FeatureType) (id : String) (source : Json) : List Predicate → Bool
  | [] => true
  | child :: rest => holds type id source child && allHold type id source rest

def anyHolds (type : FeatureType) (id : String) (source : Json) : List Predicate → Bool
  | [] => false
  | child :: rest => holds type id source child || anyHolds type id source rest

end

@[simp] theorem holds_and (type : FeatureType) (id : String) (source : Json)
    (children : List Predicate) :
    holds type id source (.and children) = children.all (holds type id source) := by
  have all : allHold type id source children = children.all (holds type id source) := by
    induction children with
    | nil => rfl
    | cons child rest ih => exact congrArg (holds type id source child && ·) ih
  exact all

@[simp] theorem holds_or (type : FeatureType) (id : String) (source : Json)
    (children : List Predicate) :
    holds type id source (.or children) = children.any (holds type id source) := by
  have any : anyHolds type id source children = children.any (holds type id source) := by
    induction children with
    | nil => rfl
    | cons child rest ih => exact congrArg (holds type id source child || ·) ih
  exact any

@[simp] theorem holds_not (type : FeatureType) (id : String) (source : Json) (child : Predicate) :
    holds type id source (.not child) = !holds type id source child := rfl

end Predicate

end GeoSearch
