import GeoSearch.Json.Basic
import GeoSearch.Time.Instant
import GeoSearch.Geometry.Basic
/-!
Predicates over the attributes of features: comparisons, ranges, text patterns, identifier sets,
spatial, distance and temporal relations, and their combinations.
-/
namespace GeoSearch

inductive Literal where
  | value (value : Json)
  | instant (instant : Time.Instant)
  | period (period : Time.Period)
  | geometry (geometry : Geometry Float)

inductive Operand where
  | property (name : String)
  | literal (literal : Literal)

inductive Comparison where
  | equal
  | unequal
  | greater
  | greaterOrEqual
  | less
  | lessOrEqual
  deriving Repr, DecidableEq

inductive SpatialRelation where
  | bbox
  | contains
  | crosses
  | disjoint
  | equals
  | intersects
  | overlaps
  | touches
  | within
  deriving Repr, DecidableEq

inductive DistanceRelation where
  | within
  | beyond
  deriving Repr, DecidableEq

inductive TemporalRelation where
  | after
  | before
  | begins
  | begunBy
  | during
  | endedBy
  | ends
  | meets
  | metBy
  | overlappedBy
  | contains
  | equals
  | overlaps
  | anyInteracts
  deriving Repr, DecidableEq

/-- The characters with a meaning in a text pattern, and whether case counts. -/
structure Wildcards where
  anyRun : Char := '%'
  single : Char := '_'
  escape : Char := '\\'
  matchCase : Bool := true
  deriving Repr, DecidableEq

inductive Predicate where
  /-- every feature -/
  | everything
  /-- no feature -/
  | nothing
  | and (children : List Predicate)
  | or (children : List Predicate)
  | not (child : Predicate)
  | compare (relation : Comparison) (left right : Operand)
  /-- both bounds are included -/
  | between (operand lower upper : Operand)
  | like (operand : Operand) (pattern : String) (wildcards : Wildcards)
  | isNull (operand : Operand)
  | ids (identifiers : List String)
  | spatial (relation : SpatialRelation) (left right : Operand)
  | distance (relation : DistanceRelation) (left right : Operand) (distance : Float) (units : String)
  | temporal (relation : TemporalRelation) (left right : Operand)

namespace Comparison

def text : Comparison → String
  | equal => "="
  | unequal => "!="
  | greater => ">"
  | greaterOrEqual => ">="
  | less => "<"
  | lessOrEqual => "<="

/-- The comparison that says the same with its operands exchanged. -/
def mirror : Comparison → Comparison
  | greater => less
  | greaterOrEqual => lessOrEqual
  | less => greater
  | lessOrEqual => greaterOrEqual
  | other => other

def holds : Comparison → Ordering → Bool
  | equal, o => o == .eq
  | unequal, o => o != .eq
  | greater, o => o == .gt
  | greaterOrEqual, o => o != .lt
  | less, o => o == .lt
  | lessOrEqual, o => o != .gt

@[simp] theorem mirror_mirror (c : Comparison) : c.mirror.mirror = c := by cases c <;> rfl

theorem holds_mirror (c : Comparison) (o : Ordering) : c.mirror.holds o.swap = c.holds o := by
  cases c <;> cases o <;> rfl

end Comparison

def SpatialRelation.text : SpatialRelation → String
  | bbox => "bbox"
  | contains => "contains"
  | crosses => "crosses"
  | disjoint => "disjoint"
  | equals => "equals"
  | intersects => "intersects"
  | overlaps => "overlaps"
  | touches => "touches"
  | within => "within"

def DistanceRelation.text : DistanceRelation → String
  | within => "dwithin"
  | beyond => "beyond"

def TemporalRelation.text : TemporalRelation → String
  | after => "after"
  | before => "before"
  | begins => "begins"
  | begunBy => "begun_by"
  | during => "during"
  | endedBy => "ended_by"
  | ends => "ends"
  | meets => "meets"
  | metBy => "met_by"
  | overlappedBy => "overlapped_by"
  | contains => "tcontains"
  | equals => "tequals"
  | overlaps => "toverlaps"
  | anyInteracts => "any_interacts"

def Operand.property? : Operand → Option String
  | property name => some name
  | literal _ => none

/-- A property on one side of a relation and a literal on the other. -/
structure Pairing where
  property : String
  literal : Literal
  /-- the literal stands first -/
  swapped : Bool

/-- There is none of two properties and none of two literals. -/
def pairing? : Operand → Operand → Option Pairing
  | .property name, .literal value => some ⟨name, value, false⟩
  | .literal value, .property name => some ⟨name, value, true⟩
  | _, _ => none

/-- The kind of a predicate; for relations, the relation. -/
def Predicate.kind : Predicate → String
  | .everything => "include"
  | .nothing => "exclude"
  | .and _ => "and"
  | .or _ => "or"
  | .not _ => "not"
  | .compare .. => "compare"
  | .between .. => "between"
  | .like .. => "like"
  | .isNull _ => "is_null"
  | .ids _ => "ids"
  | .spatial relation .. => relation.text
  | .distance relation .. => relation.text
  | .temporal relation .. => relation.text

end GeoSearch
