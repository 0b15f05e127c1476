import GeoSearch.Geometry.Measure
import GeoSearch.Trigonometry
/-!
Centroids. Parts of the highest dimension count, each weighted by its measure: points by number,
segments by length, areas by area less that of the holes.
-/
namespace GeoSearch

inductive Dimension where
  | points
  | lines
  | areas
  deriving Repr, DecidableEq

def Dimension.rank : Dimension → Nat
  | points => 0
  | lines => 1
  | areas => 2

namespace Centroid

/-- A weight and the sum of weighted positions, over parts of one dimension. -/
structure Mass where
  dimension : Dimension
  weight : Float
  moment : Coord Float

def Mass.placed (dimension : Dimension) (position : Coord Float) (weight : Float) : Mass :=
  ⟨dimension, weight, ⟨position.x * weight, position.y * weight⟩⟩

/-- Adds masses; the higher dimension replaces the lower. -/
def Mass.add (a b : Mass) : Mass :=
  if a.dimension = b.dimension then
    ⟨a.dimension, a.weight + b.weight, ⟨a.moment.x + b.moment.x, a.moment.y + b.moment.y⟩⟩
  else if a.dimension.rank < b.dimension.rank then b else a

/-- Takes a mass away; one of a lower dimension takes nothing. -/
def Mass.remove (a b : Mass) : Mass :=
  if a.dimension = b.dimension then
    ⟨a.dimension, a.weight - b.weight, ⟨a.moment.x - b.moment.x, a.moment.y - b.moment.y⟩⟩
  else if a.dimension.rank < b.dimension.rank then b else a

def join (sum : Option Mass) (part : Mass) : Option Mass :=
  match sum with
  | some m => some (m.add part)
  | none => some part

def addPoint (sum : Option Mass) (c : Coord Float) : Option Mass :=
  join sum (Mass.placed .points c 1.0)

def middle (a b : Coord Float) : Coord Float := ⟨(a.x + b.x) / 2.0, (a.y + b.y) / 2.0⟩

/-- A segment; one without length is a point. -/
def addSegment (sum : Option Mass) (s : Coord Float × Coord Float) : Option Mass :=
  if s.1.same s.2 then addPoint sum s.1
  else
    join sum (Mass.placed .lines (middle s.1 s.2)
      (Trigonometry.length (s.2.x - s.1.x) (s.2.y - s.1.y)))

def hasAreas (sum : Option Mass) : Bool :=
  match sum with
  | some m => m.dimension = .areas
  | none => false

def addLine (sum : Option Mass) (coords : List (Coord Float)) : Option Mass :=
  if hasAreas sum then sum
  else match coords with
    | [c] => addPoint sum c
    | coords => (segments coords).foldl addSegment sum

/-- A ring as an area; a ring without area is a line, or a point if it never moves. -/
def addRing (sum : Option Mass) (ring : List (Coord Float)) : Option Mass :=
  let area := ringArea ring
  match ring with
  | [] => sum
  | first :: _ =>
    if area == 0.0 then
      if ring.all (first.same ·) then addPoint sum first else addLine sum ring
    else
      let moment := (segments ring).foldl (fun (moment : Coord Float) s =>
        let a := s.1.shift first
        let b := s.2.shift first
        let d := determinant a b
        ⟨moment.x + (b.x + a.x) * d, moment.y + (b.y + a.y) * d⟩) ⟨0.0, 0.0⟩
      let scale := 6.0 * area
      join sum (Mass.placed .areas ⟨moment.x / scale + first.x, moment.y / scale + first.y⟩ area.abs)

/-- A polygon; one that its holes cover is the line of its exterior. -/
def addPolygon (sum : Option Mass) (p : Polygon Float) : Option Mass :=
  match addRing none p.exterior with
  | none => sum
  | some outer =>
    match p.interiors.foldl addRing none with
    | none => join sum outer
    | some holes =>
      let rest := outer.remove holes
      if rest.weight == 0.0 then addLine sum p.exterior else join sum rest

def center (r : Rect Float) : Coord Float :=
  ⟨(r.high.x + r.low.x) / 2.0, (r.high.y + r.low.y) / 2.0⟩

def addRect (sum : Option Mass) (r : Rect Float) : Option Mass :=
  if r.low.same r.high then addPoint sum r.low
  else if r.low.x == r.high.x || r.low.y == r.high.y then
    [(r.low, r.low), (r.low, r.high), (r.high, r.high), (r.high, r.low)].foldl addSegment sum
  else join sum (Mass.placed .areas (center r) (r.width * r.height))

/-- Whether three points lie on one line, decided exactly. -/
def collinear (a b c : Coord Float) : Bool :=
  let v := Binary64.value
  (v b.x - v a.x) * (v c.y - v a.y) = (v b.y - v a.y) * (v c.x - v a.x)

def addTriangle (sum : Option Mass) (a b c : Coord Float) : Option Mass :=
  if collinear a b c then
    if a.same b && b.same c then addPoint sum a
    else [(a, b), (b, c), (c, a)].foldl addSegment sum
  else
    join sum (Mass.placed .areas ⟨(a.x + b.x + c.x) / 3.0, (a.y + b.y + c.y) / 3.0⟩ (triangleArea a b c))

mutual

def addGeometry (sum : Option Mass) : Geometry Float → Option Mass
  | .point c => addPoint sum c
  | .line a b => addSegment sum (a, b)
  | .lineString cs => addLine sum cs
  | .polygon p => addPolygon sum p
  | .multiPoint cs => cs.foldl addPoint sum
  | .multiLineString ls => if hasAreas sum then sum else ls.foldl addLine sum
  | .multiPolygon ps => ps.foldl addPolygon sum
  | .collection gs => addMembers sum gs
  | .rect r => addRect sum r
  | .triangle a b c => addTriangle sum a b c

def addMembers (sum : Option Mass) : List (Geometry Float) → Option Mass
  | [] => sum
  | g :: gs => addMembers (addGeometry sum g) gs

end

end Centroid

/-- The centroid, none of an empty geometry. -/
def Geometry.centroid? : Geometry Float → Option (Coord Float)
  | .point c => some c
  | .line a b => some (Centroid.middle a b)
  | .rect r => some (Centroid.center r)
  | g => (Centroid.addGeometry none g).map fun m => ⟨m.moment.x / m.weight, m.moment.y / m.weight⟩

end GeoSearch
