import GeoSearch.Geometry.Basic
/-!
Where a position lies with respect to a geometry: in its interior, on its boundary, or outside.
All of it is decided exactly, on rationals. A geometry is first sorted into points, lines and
areas; a line that never moves is a point.
-/
namespace GeoSearch

abbrev Position := Coord Rat

inductive Location where
  | interior
  | boundary
  | exterior
  deriving Repr, DecidableEq

/-- The parts of a geometry. Consecutive positions of a line differ, and a line has at least two. -/
structure Shape where
  points : List Position
  lines : List (List Position)
  areas : List (Polygon Rat)

def Coord.exact (c : Coord Float) : Position := ⟨Binary64.value c.x, Binary64.value c.y⟩

/-- Drops positions that repeat the one before. -/
def withoutRepeats : List Position → List Position
  | a :: b :: rest => if a = b then withoutRepeats (b :: rest) else a :: withoutRepeats (b :: rest)
  | short => short

namespace Shape

def empty : Shape := ⟨[], [], []⟩

def append (a b : Shape) : Shape := ⟨a.points ++ b.points, a.lines ++ b.lines, a.areas ++ b.areas⟩

def ofPoints (coords : List (Coord Float)) : Shape := ⟨coords.map Coord.exact, [], []⟩

def ofLine (coords : List (Coord Float)) : Shape :=
  match withoutRepeats (coords.map Coord.exact) with
  | [] => empty
  | [p] => ⟨[p], [], []⟩
  | line => ⟨[], [line], []⟩

/-- An area without an exterior is nothing. -/
def ofPolygon (p : Polygon Float) : Shape :=
  if p.exterior.isEmpty then empty
  else
    let ring (coords : List (Coord Float)) := coords.map Coord.exact
    ⟨[], [], [⟨ring p.exterior, p.interiors.map ring⟩]⟩

def join (parts : List Shape) : Shape := parts.foldl append empty

mutual

def ofGeometry : Geometry Float → Shape
  | .point c => ofPoints [c]
  | .line a b => ofLine [a, b]
  | .lineString cs => ofLine cs
  | .polygon p => ofPolygon p
  | .multiPoint cs => ofPoints cs
  | .multiLineString ls => join (ls.map ofLine)
  | .multiPolygon ps => join (ps.map ofPolygon)
  | .collection gs => ofMembers gs
  | .rect r => ofPolygon r.toPolygon
  | .triangle a b c => ofPolygon (trianglePolygon a b c)

def ofMembers : List (Geometry Float) → Shape
  | [] => empty
  | g :: gs => (ofGeometry g).append (ofMembers gs)

end

end Shape

/-- Twice the signed area of a triangle: positive when `c` lies to the left of `a` to `b`. -/
def orientation (a b c : Position) : Rat :=
  (b.x - a.x) * (c.y - a.y) - (b.y - a.y) * (c.x - a.x)

def between (a b x : Rat) : Bool := (a ≤ x && x ≤ b) || (b ≤ x && x ≤ a)

/-- Whether a position lies on a segment, its ends included. -/
def onSegment (s : Position × Position) (p : Position) : Bool :=
  orientation s.1 s.2 p = 0 && between s.1.x s.2.x p.x && between s.1.y s.2.y p.y

/-- How a segment passes the horizontal ray to the right of a position: 1 upwards, -1 downwards.
The lower end of a segment belongs to it, the upper end does not. -/
def crossing (p : Position) (s : Position × Position) : Int :=
  if s.1.y ≤ p.y then
    if p.y < s.2.y ∧ 0 < orientation s.1 s.2 p then 1 else 0
  else
    if s.2.y ≤ p.y ∧ orientation s.1 s.2 p < 0 then -1 else 0

def onPath (path : List Position) (p : Position) : Bool :=
  match path with
  | [q] => q = p
  | path => (segments path).any (onSegment · p)

/-- How often a ring turns around a position. -/
def windingNumber (ring : List Position) (p : Position) : Int :=
  (segments ring).foldl (fun turns s => turns + crossing p s) 0

def locateInRing (ring : List Position) (p : Position) : Location :=
  if onPath ring p then .boundary
  else if windingNumber ring p = 0 then .exterior
  else .interior

/-- Inside a ring of a hole is outside the area. -/
def locateInHoles (p : Position) : List (List Position) → Location
  | [] => .interior
  | hole :: rest =>
    match locateInRing hole p with
    | .exterior => locateInHoles p rest
    | .boundary => .boundary
    | .interior => .exterior

def locateInArea (area : Polygon Rat) (p : Position) : Location :=
  match locateInRing area.exterior p with
  | .interior => locateInHoles p area.interiors
  | other => other

/-- The ends of a line, none when it is closed. -/
def lineEnds (line : List Position) : List Position :=
  match line, line.getLast? with
  | first :: _, some last => if first = last then [] else [first, last]
  | _, _ => []

namespace Shape

/-- Ends that an odd number of lines share are boundary; so are the rims of areas. -/
def onBoundary (s : Shape) (p : Position) : Bool :=
  (s.lines.flatMap lineEnds).countP (· = p) % 2 = 1 ||
    s.areas.any fun area => locateInArea area p = .boundary

def covers (s : Shape) (p : Position) : Bool :=
  s.points.contains p || s.lines.any (onPath · p) ||
    s.areas.any fun area => locateInArea area p ≠ .exterior

/-- Where a position lies. The inside of an area comes first, then any boundary, then the rest. -/
def locate (s : Shape) (p : Position) : Location :=
  if s.areas.any (fun area => locateInArea area p = .interior) then .interior
  else if s.onBoundary p then .boundary
  else if s.covers p then .interior
  else .exterior

end Shape

end GeoSearch
