import GeoSearch.Query.Compile
/-!
Where the clauses on fields stand in a query, and which leaf of its predicate each comes from.
-/
namespace GeoSearch

/-- A clause on a field, with the paths of the envelopes around it from the outermost inwards. -/
structure Placed where
  envelopes : List String
  clause : Clause

namespace Clause

/-- The field that a clause looks at; combinations, identifiers and native queries have none. -/
def field? : Clause → Option String
  | .term field _ => some field
  | .range field _ => some field
  | .regexp field _ => some field
  | .queryString field _ => some field
  | .present field => some field
  | .near field _ _ => some field
  | .inRing field _ => some field
  | .inBox field _ _ => some field
  | .shape field _ _ => some field
  | _ => none

mutual

/-- The clauses on fields of a query, from left to right. -/
def placed : Clause → List Placed
  | .matchAll => []
  | .ids _ => []
  | .native _ => []
  | .must clauses => allPlaced clauses
  | .should clauses => allPlaced clauses
  | .mustNot clause => placed clause
  | .filtered clause => placed clause
  | .nested path clause => (placed clause).map fun p => { p with envelopes := path :: p.envelopes }
  | clause => [{ envelopes := [], clause }]

def allPlaced : List Clause → List Placed
  | [] => []
  | clause :: rest => placed clause ++ allPlaced rest

end

@[simp] theorem placed_matchAll : matchAll.placed = [] := rfl

@[simp] theorem placed_matchNone : matchNone.placed = [] := rfl

@[simp] theorem placed_ids (ids : List String) : (Clause.ids ids).placed = [] := rfl

@[simp] theorem placed_mustNot (clause : Clause) : (mustNot clause).placed = clause.placed := rfl

@[simp] theorem placed_filtered (clause : Clause) : (filtered clause).placed = clause.placed := rfl

@[simp] theorem placed_nested (path : String) (clause : Clause) :
    (nested path clause).placed =
      clause.placed.map fun p => { p with envelopes := path :: p.envelopes } := rfl

theorem allPlaced_eq_flatMap (clauses : List Clause) : allPlaced clauses = clauses.flatMap placed := by
  induction clauses with
  | nil => rfl
  | cons clause rest ih => exact congrArg (clause.placed ++ ·) ih

@[simp] theorem placed_must (clauses : List Clause) :
    (must clauses).placed = clauses.flatMap placed := allPlaced_eq_flatMap clauses

@[simp] theorem placed_should (clauses : List Clause) :
    (should clauses).placed = clauses.flatMap placed := allPlaced_eq_flatMap clauses

/-- A clause on a field stands alone. -/
theorem placed_of_field? {clause : Clause} {field : String} (on : clause.field? = some field) :
    clause.placed = [{ envelopes := [], clause }] := by
  cases clause <;> first | rfl | cases on

end Clause

/-- A clause on a field as it comes from a leaf about an attribute. -/
structure Production where
  leaf : Predicate
  subject : Attribute
  placed : Placed

namespace Predicate

def subject? (type : FeatureType) : Predicate → Option Attribute
  | .compare _ left right => (pairing? left right).map fun p => type.resolve p.property
  | .between operand _ _ => operand.property?.map type.resolve
  | .like operand _ _ => operand.property?.map type.resolve
  | .isNull operand => operand.property?.map type.resolve
  | .spatial _ left right => (pairing? left right).map fun p => type.resolve p.property
  | .distance _ left right _ _ => (pairing? left right).map fun p => type.resolve p.property
  | .temporal _ left right => (pairing? left right).map fun p => type.resolve p.property
  | _ => none

def isGeometric : Predicate → Bool
  | .spatial .. => true
  | .distance .. => true
  | _ => false

def ownProductions (type : FeatureType) (leaf : Predicate) : List Production :=
  match leaf.subject? type with
  | some subject =>
    (leaf.compile type).clause.placed.map fun placed => { leaf, subject, placed }
  | none => []

mutual

/-- What the leaves of a predicate put into its query. A negation that leaves something out puts
nothing there. -/
def productions (type : FeatureType) : Predicate → List Production
  | .everything => []
  | .nothing => []
  | .and children => allProductions type children
  | .or children => allProductions type children
  | .not child => if (child.compile type).exact then productions type child else []
  | leaf => leaf.ownProductions type

def allProductions (type : FeatureType) : List Predicate → List Production
  | [] => []
  | child :: rest => productions type child ++ allProductions type rest

end

theorem allProductions_eq_flatMap (type : FeatureType) (children : List Predicate) :
    allProductions type children = children.flatMap (productions type) := by
  induction children with
  | nil => rfl
  | cons child rest ih => exact congrArg (productions type child ++ ·) ih

end Predicate

end GeoSearch
