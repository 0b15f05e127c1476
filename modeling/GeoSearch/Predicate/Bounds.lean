import GeoSearch.Predicate.Basic
import GeoSearch.Geometry.World
import GeoSearch.Geometry.Distance
/-!
The part of the world that a predicate confines its results to. Spatial literals bound their
relations; anything else leaves the world open.
-/
namespace GeoSearch

inductive Bounds where
  /-- no spatial limit -/
  | world
  /-- nothing can match -/
  | empty
  | envelope (box : Rect Float)

namespace Bounds

/-- The box of the bounds; the world where nothing can match. -/
def box : Bounds → Rect Float
  | envelope r => r
  | world => GeoSearch.world
  | empty => GeoSearch.world

def intersect : Bounds → Bounds → Bounds
  | empty, _ => empty
  | _, empty => empty
  | world, b => b
  | a, world => a
  | envelope a, envelope b =>
    let low : Coord Float := ⟨Scalar.greatest a.low.x b.low.x, Scalar.greatest a.low.y b.low.y⟩
    let high : Coord Float := ⟨Scalar.least a.high.x b.high.x, Scalar.least a.high.y b.high.y⟩
    if high.x < low.x || high.y < low.y then empty else envelope (Rect.ofCorners low high)

def union : Bounds → Bounds → Bounds
  | world, _ => world
  | _, world => world
  | empty, b => b
  | a, empty => a
  | envelope a, envelope b =>
    envelope (Rect.ofCorners
      ⟨Scalar.least a.low.x b.low.x, Scalar.least a.low.y b.low.y⟩
      ⟨Scalar.greatest a.high.x b.high.x, Scalar.greatest a.high.y b.high.y⟩)

def metresPerDegree : Float := 111319.49

/-- A box with a margin on every side, in degrees. -/
def padded (margin : Float) (r : Rect Float) : Rect Float :=
  Rect.ofCorners ⟨r.low.x - margin, r.low.y - margin⟩ ⟨r.high.x + margin, r.high.y + margin⟩

def ofLiteral : Literal → Bounds
  | .geometry g =>
    match g.bounds with
    | some box => envelope box
    | none => empty
  | _ => world

/-- The bounds of the literal of a relation, none of two properties or two literals. -/
def ofOperands (left right : Operand) : Bounds :=
  match pairing? left right with
  | some p => ofLiteral p.literal
  | none => world

end Bounds

namespace Predicate

mutual

def bounds : Predicate → Bounds
  | .nothing => .empty
  | .and children => childBounds children |>.foldl .intersect .world
  | .or children =>
    match childBounds children with
    | [] => .world
    | first :: rest => rest.foldl .union first
  | .spatial relation left right =>
    if relation = .disjoint then .world else Bounds.ofOperands left right
  | .distance .within left right limit units =>
    match Bounds.ofOperands left right with
    | .envelope box =>
      let degrees := Distance.toMetres limit units true / Bounds.metresPerDegree
      .envelope (Bounds.padded (Scalar.greatest degrees 0.0) box)
    | other => other
  | _ => .world

def childBounds : List Predicate → List Bounds
  | [] => []
  | child :: rest => bounds child :: childBounds rest

end

end Predicate

end GeoSearch
