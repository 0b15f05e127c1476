import GeoSearch.Geometry.Scalar
/-!
Planar geometries: points, lines, areas and collections of them, over any coordinate numbers.
-/
namespace GeoSearch

structure Coord (α : Type) where
  x : α
  y : α
  deriving Repr, DecidableEq

/-- A box from its least to its greatest corner. -/
structure Rect (α : Type) where
  low : Coord α
  high : Coord α
  deriving Repr, DecidableEq

/-- A closed ring of an exterior and of each hole. -/
structure Polygon (α : Type) where
  exterior : List (Coord α)
  interiors : List (List (Coord α))
  deriving Repr, DecidableEq

inductive Geometry (α : Type) where
  | point (position : Coord α)
  | line (start stop : Coord α)
  | lineString (coords : List (Coord α))
  | polygon (area : Polygon α)
  | multiPoint (points : List (Coord α))
  | multiLineString (lines : List (List (Coord α)))
  | multiPolygon (areas : List (Polygon α))
  | collection (members : List (Geometry α))
  | rect (box : Rect α)
  | triangle (a b c : Coord α)

variable {α : Type} [Scalar α]

def Coord.same (a b : Coord α) : Bool := Scalar.eq a.x b.x && Scalar.eq a.y b.y

def Coord.map (f : Coord α → Coord α) : List (Coord α) → List (Coord α) := List.map f

/-- A ring that ends where it starts: the first coordinate is repeated unless it is the last one. -/
def closeRing (ring : List (Coord α)) : List (Coord α) :=
  match ring, ring.getLast? with
  | first :: _, some last => if first.same last then ring else ring ++ [first]
  | _, _ => ring

/-- The polygon of these rings, each of them closed. -/
def Polygon.ofRings (exterior : List (Coord α)) (interiors : List (List (Coord α))) : Polygon α :=
  ⟨closeRing exterior, interiors.map closeRing⟩

/-- The box of two opposite corners. -/
def Rect.ofCorners (a b : Coord α) : Rect α :=
  let (lowX, highX) := if Scalar.lt a.x b.x then (a.x, b.x) else (b.x, a.x)
  let (lowY, highY) := if Scalar.lt a.y b.y then (a.y, b.y) else (b.y, a.y)
  ⟨⟨lowX, lowY⟩, ⟨highX, highY⟩⟩

def Rect.same (a b : Rect α) : Bool := a.low.same b.low && a.high.same b.high

def Rect.width (r : Rect α) : α := r.high.x - r.low.x

def Rect.height (r : Rect α) : α := r.high.y - r.low.y

/-- The boundary of a box, from its lower right corner counterclockwise. -/
def Rect.ring (r : Rect α) : List (Coord α) :=
  [⟨r.high.x, r.low.y⟩, ⟨r.high.x, r.high.y⟩, ⟨r.low.x, r.high.y⟩, ⟨r.low.x, r.low.y⟩,
   ⟨r.high.x, r.low.y⟩]

def Rect.toPolygon (r : Rect α) : Polygon α := ⟨r.ring, []⟩

def trianglePolygon (a b c : Coord α) : Polygon α := Polygon.ofRings [a, b, c, a] []

def segments (coords : List (Coord α)) : List (Coord α × Coord α) := coords.zip coords.tail

namespace Polygon

def coords (p : Polygon α) : List (Coord α) := p.exterior ++ p.interiors.flatten

def mapCoords (f : Coord α → Coord α) (p : Polygon α) : Polygon α :=
  ofRings (p.exterior.map f) (p.interiors.map (List.map f))

end Polygon

namespace Geometry

mutual

/-- Every coordinate, holes and members included. -/
def coords : Geometry α → List (Coord α)
  | point c => [c]
  | line a b => [a, b]
  | lineString cs => cs
  | polygon p => p.coords
  | multiPoint cs => cs
  | multiLineString ls => ls.flatten
  | multiPolygon ps => ps.flatMap Polygon.coords
  | collection gs => memberCoords gs
  | rect r => r.ring.tail
  | triangle a b c => [a, b, c]

def memberCoords : List (Geometry α) → List (Coord α)
  | [] => []
  | g :: gs => coords g ++ memberCoords gs

end

def isEmpty (g : Geometry α) : Bool := g.coords.isEmpty

mutual

/-- The same geometry with each coordinate replaced; a box is rebuilt from its two corners. -/
def mapCoords (f : Coord α → Coord α) : Geometry α → Geometry α
  | point c => point (f c)
  | line a b => line (f a) (f b)
  | lineString cs => lineString (cs.map f)
  | polygon p => polygon (p.mapCoords f)
  | multiPoint cs => multiPoint (cs.map f)
  | multiLineString ls => multiLineString (ls.map (List.map f))
  | multiPolygon ps => multiPolygon (ps.map (Polygon.mapCoords f))
  | collection gs => collection (mapMembers f gs)
  | rect r => rect (Rect.ofCorners (f r.low) (f r.high))
  | triangle a b c => triangle (f a) (f b) (f c)

def mapMembers (f : Coord α → Coord α) : List (Geometry α) → List (Geometry α)
  | [] => []
  | g :: gs => mapCoords f g :: mapMembers f gs

end

end Geometry

end GeoSearch
