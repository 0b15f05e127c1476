import GeoSearch.Geometry.Measure
/-!
The world in degrees of longitude and latitude, and literals brought into it: longitudes by whole
turns, latitudes by clamping.
-/
namespace GeoSearch

open Scalar

variable {α : Type} [Scalar α]

def world : Rect α := ⟨⟨ofInt (-180), ofInt (-90)⟩, ⟨ofInt 180, ofInt 90⟩⟩

/-- A longitude turned into -180 to 180. -/
def wrapLongitude (lon : α) : α :=
  let x := remainder lon (ofInt 360)
  if lt (ofInt 180) x then x - ofInt 360
  else if lt x (ofInt (-180)) then x + ofInt 360
  else x

def clampLatitude (lat : α) : α := clamp lat (ofInt (-90)) (ofInt 90)

def Coord.intoWorld (c : Coord α) : Coord α := ⟨wrapLongitude c.x, clampLatitude c.y⟩

def Geometry.intoWorld (g : Geometry α) : Geometry α := g.mapCoords Coord.intoWorld

/-- The area of the world differs by less than this from that of a geometry that fills it. -/
def areaTolerance : α := ofInt 1 / ofInt 1000000000

/-- A geometry that fills the world's box, by its bounds and its area. -/
def Geometry.isWorld (g : Geometry α) : Bool :=
  match g.bounds with
  | some box =>
    box.same world && lt (Scalar.abs (g.area - (world : Rect α).width * (world : Rect α).height)) areaTolerance
  | none => false

/-- A geographic literal made ready for a clause. -/
inductive Sanitized (α : Type) where
  /-- it covers the world -/
  | world
  /-- it has no coordinates -/
  | empty
  | clipped (g : Geometry α)

def Geometry.sanitize (g : Geometry α) : Sanitized α :=
  if g.isEmpty then .empty
  else if g.intoWorld.isWorld then .world
  else .clipped g.intoWorld

end GeoSearch
