import GeoSearch.Geometry.Location
import GeoSearch.Geometry.Measure
import Mathlib.Algebra.Order.Field.Rat
/-!
What areas cover. A mosaic is made of areas that overlap nowhere, each drawn with rings that turn once.
-/
namespace GeoSearch

/-- Around what is on none of its sides a ring turns once or not at all, and always the same way. -/
def TurnsOnce (ring : List Position) : Prop :=
  ∃ turn : Int, (turn = 1 ∨ turn = -1) ∧
    ∀ p, onPath ring p = false → windingNumber ring p = 0 ∨ windingNumber ring p = turn

namespace Polygon

def rings (area : Polygon Rat) : List (List Position) := area.exterior :: area.interiors

/-- The closed region of an area: not outside its exterior, and strictly inside none of its holes. -/
def Covers (area : Polygon Rat) (p : Position) : Prop :=
  locateInRing area.exterior p ≠ .exterior ∧ ∀ hole ∈ area.interiors, locateInRing hole p ≠ .interior

/-- The holes of an area are within its exterior and overlap nowhere. -/
structure Sound (area : Polygon Rat) : Prop where
  turns : ∀ ring ∈ area.rings, TurnsOnce ring
  within : ∀ hole ∈ area.interiors, ∀ p, locateInRing hole p = .interior →
    locateInRing area.exterior p ≠ .exterior
  apart : area.interiors.Pairwise fun hole other => ∀ p,
    ¬ (locateInRing hole p = .interior ∧ locateInRing other p = .interior)

end Polygon

/-- Areas whose insides overlap nowhere. -/
structure Mosaic (areas : List (Polygon Rat)) : Prop where
  sound : ∀ area ∈ areas, area.Sound
  apart : areas.Pairwise fun area other => ∀ p,
    ¬ (locateInArea area p = .interior ∧ locateInArea other p = .interior)

/-! ### The areas of a geometry -/

namespace Geometry

variable {α : Type} [Scalar α]

mutual

/-- The polygons of a geometry, those of boxes and triangles included. -/
def areas : Geometry α → List (Polygon α)
  | polygon p => [p]
  | multiPolygon ps => ps
  | collection gs => memberAreas gs
  | rect r => [r.toPolygon]
  | triangle a b c => [trianglePolygon a b c]
  | _ => []

def memberAreas : List (Geometry α) → List (Polygon α)
  | [] => []
  | g :: gs => areas g ++ memberAreas gs

end

end Geometry

def Polygon.exact (p : Polygon Float) : Polygon Rat :=
  ⟨p.exterior.map Coord.exact, p.interiors.map (List.map Coord.exact)⟩

namespace Geometry

def exactAreas (g : Geometry Float) : List (Polygon Rat) := g.areas.map Polygon.exact

/-- The sum of the exact areas, whether they overlap or not. -/
def exactArea (g : Geometry Float) : Rat := (g.exactAreas.map Polygon.area).sum

/-- A position is in the closed region of one of the areas. -/
def Covers (g : Geometry Float) (p : Position) : Prop := ∃ area ∈ g.exactAreas, area.Covers p

end Geometry

end GeoSearch
