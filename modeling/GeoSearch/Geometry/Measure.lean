import GeoSearch.Geometry.Basic
/-!
Bounding boxes and areas.
-/
namespace GeoSearch

open Scalar

variable {α : Type} [Scalar α]

/-! ### Bounding boxes -/

def widen (range : α × α) (x : α) : α × α :=
  if lt range.2 x then (range.1, x) else if lt x range.1 then (x, range.2) else range

/-- The box around coordinates, none when there are none. -/
def boundsOf : List (Coord α) → Option (Rect α)
  | [] => none
  | first :: rest =>
    let xs := rest.foldl (fun range c => widen range c.x) (first.x, first.x)
    let ys := rest.foldl (fun range c => widen range c.y) (first.y, first.y)
    some (Rect.ofCorners ⟨xs.1, ys.1⟩ ⟨xs.2, ys.2⟩)

def lesser (x y : α) : α := if lt x y then x else y

def larger (x y : α) : α := if lt y x then x else y

def Rect.merge (a b : Rect α) : Rect α :=
  Rect.ofCorners ⟨lesser a.low.x b.low.x, lesser a.low.y b.low.y⟩
    ⟨larger a.high.x b.high.x, larger a.high.y b.high.y⟩

def mergeBounds (a b : Option (Rect α)) : Option (Rect α) :=
  match a, b with
  | some a, some b => some (a.merge b)
  | some a, none => some a
  | none, b => b

namespace Geometry

mutual

/-- The box around a geometry; holes do not count, and empty geometries have none. -/
def bounds : Geometry α → Option (Rect α)
  | point c => some ⟨c, c⟩
  | line a b => boundsOf [a, b]
  | lineString cs => boundsOf cs
  | polygon p => boundsOf p.exterior
  | multiPoint cs => boundsOf cs
  | multiLineString ls => boundsOf ls.flatten
  | multiPolygon ps => boundsOf (ps.flatMap Polygon.exterior)
  | collection gs => memberBounds gs none
  | rect r => some r
  | triangle a b c => boundsOf [a, b, c]

def memberBounds : List (Geometry α) → Option (Rect α) → Option (Rect α)
  | [], found => found
  | g :: gs, found => memberBounds gs (mergeBounds found (bounds g))

end

end Geometry

/-! ### Areas -/

def determinant (a b : Coord α) : α := a.x * b.y - a.y * b.x

def Coord.shift (c origin : Coord α) : Coord α := ⟨c.x - origin.x, c.y - origin.y⟩

/-- Twice the signed area inside a ring, measured from its first coordinate; a ring that is open or
too short has none. -/
def twiceRingArea (ring : List (Coord α)) : α :=
  match ring, ring.getLast? with
  | first :: _ :: _ :: _, some last =>
    if first.same last then
      (segments ring).foldl
        (fun sum s => sum + determinant (s.1.shift first) (s.2.shift first)) (ofInt 0)
    else ofInt 0
  | _, _ => ofInt 0

def ringArea (ring : List (Coord α)) : α := twiceRingArea ring / ofInt 2

/-- The exterior's area less that of each hole. -/
def Polygon.area (p : Polygon α) : α :=
  let outer := ringArea p.exterior
  let rest := p.interiors.foldl (fun sum ring => sum - Scalar.abs (ringArea ring)) (Scalar.abs outer)
  Scalar.abs (if lt outer (ofInt 0) then -rest else rest)

def triangleArea (a b c : Coord α) : α :=
  Scalar.abs ((ofInt 0 + determinant a b + determinant b c + determinant c a) / ofInt 2)

namespace Geometry

mutual

def area : Geometry α → α
  | polygon p => p.area
  | multiPolygon ps => ps.foldl (fun sum p => sum + p.area) (ofInt 0)
  | collection gs => memberArea gs (ofInt 0)
  | rect r => r.width * r.height
  | triangle a b c => triangleArea a b c
  | _ => ofInt 0

def memberArea : List (Geometry α) → α → α
  | [], sum => sum
  | g :: gs, sum => memberArea gs (sum + area g)

end

end Geometry

end GeoSearch
