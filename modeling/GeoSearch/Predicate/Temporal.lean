import GeoSearch.Predicate.Basic
import GeoSearch.Time.Rfc3339
/-!
Temporal relations between an attribute that holds instants and an instant or a period.
-/
namespace GeoSearch

inductive TemporalValue where
  | instant (i : Time.Instant)
  | period (p : Time.Period)
  deriving Repr, DecidableEq

def TemporalValue.instants : TemporalValue → List Time.Instant
  | instant i => [i]
  | period p => [p.start, p.stop]

/-- Instants and periods, and texts that are timestamps. -/
def Literal.temporal? : Literal → Option TemporalValue
  | .instant i => some (.instant i)
  | .period p => some (.period p)
  | .value (.string text) => (Time.Rfc3339.read? text).map .instant
  | _ => none

/-- The side of the literal on which an attribute lies. -/
inductive Side where
  | later
  | earlier
  deriving Repr, DecidableEq

/-- The part of the time line that a clause on an instant can single out. -/
inductive Window where
  | later (i : Time.Instant)
  | earlier (i : Time.Instant)
  /-- strictly between two instants -/
  | inside (start stop : Time.Instant)
  | at (i : Time.Instant)
  deriving Repr, DecidableEq

namespace Window

def admits : Window → Time.Instant → Bool
  | later i, v => i.before v
  | earlier i, v => v.before i
  | inside start stop, v => start.before v && v.before stop
  | .at i, v => v.compare i == .eq

def instants : Window → List Time.Instant
  | later i => [i]
  | earlier i => [i]
  | inside start stop => [start, stop]
  | .at i => [i]

end Window

namespace TemporalRelation

/-- Exchanged operands exchange later and earlier. -/
def side? (relation : TemporalRelation) (swapped : Bool) : Option Side :=
  match relation with
  | after => some (if swapped then .earlier else .later)
  | before => some (if swapped then .later else .earlier)
  | _ => none

/-- What lies on a side of an instant or a period. -/
def beside : TemporalValue → Side → Window
  | .instant i, .later => .later i
  | .instant i, .earlier => .earlier i
  | .period p, .later => .later p.stop
  | .period p, .earlier => .earlier p.start

/-- The instants that stand in a relation to a literal, or why no clause can single them out. -/
def window (relation : TemporalRelation) (value : TemporalValue) (swapped : Bool) :
    Except String Window :=
  match relation.side? swapped with
  | some side => .ok (beside value side)
  | none =>
    match relation, value with
    | begins, .period p => .ok (.at p.start)
    | ends, .period p => .ok (.at p.stop)
    | begins, .instant i => .ok (.at i)
    | ends, .instant i => .ok (.at i)
    | begunBy, .instant i => .ok (.at i)
    | endedBy, .instant i => .ok (.at i)
    | equals, .instant i => .ok (.at i)
    | during, .period p => .ok (.inside p.start p.stop)
    | contains, .period p => .ok (.inside p.start p.stop)
    | during, .instant _ => .error "requires a period literal"
    | contains, .instant _ => .error "requires a period literal"
    | begunBy, .period _ => .error "requires an instant literal"
    | endedBy, .period _ => .error "requires an instant literal"
    | equals, .period _ => .error "requires an instant literal"
    | _, _ => .error "not expressible on instant attributes"

/-- Whether a stored instant stands in a relation to a literal. -/
def holds (relation : TemporalRelation) (v : Time.Instant) (value : TemporalValue) (swapped : Bool) :
    Bool :=
  match relation.side? swapped with
  | some side => (beside value side).admits v
  | none =>
    match relation, value with
    | begins, .period p => v.compare p.start == .eq
    | meets, .period p => v.compare p.start == .eq
    | ends, .period p => v.compare p.stop == .eq
    | metBy, .period p => v.compare p.stop == .eq
    | during, .period p => p.start.before v && v.before p.stop
    | contains, .period p => p.start.before v && v.before p.stop
    | anyInteracts, .period p => !v.before p.start && !p.stop.before v
    | begins, .instant i => v.compare i == .eq
    | ends, .instant i => v.compare i == .eq
    | begunBy, .instant i => v.compare i == .eq
    | endedBy, .instant i => v.compare i == .eq
    | equals, .instant i => v.compare i == .eq
    | anyInteracts, .instant i => v.compare i == .eq
    | _, _ => false

end TemporalRelation

end GeoSearch
