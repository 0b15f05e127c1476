import GeoSearch.Geometry.Basic
import GeoSearch.Decimal.Layout
import GeoSearch.Text.Split
import GeoSearch.Trigonometry
/-!
Distances: units of length, and how far apart two positions are on the globe and in the plane.
-/
namespace GeoSearch.Distance

/-- Metres in one unit, none when the unit is unknown. -/
def metresPerUnit (units : String) : Option Float :=
  match Text.trim units with
  | "" | "m" | "meter" | "meters" => some 1.0
  | "kilometers" | "kilometer" | "km" => some 1000.0
  | "millimeter" | "millimeters" | "mm" => some 0.001
  | "mile" | "miles" | "mi" => some 1609.344
  | "nautical mile" | "nautical-mile" | "NM" | "nmi" => some 1852.0
  | "foot" | "feet" | "ft" => some 0.3048
  | "inch" | "inches" | "in" => some 0.0254
  | _ => none

/-- A distance in metres. Planar distances and unknown units are left as given. -/
def toMetres (distance : Float) (units : String) (geographic : Bool) : Float :=
  if geographic then
    match metresPerUnit units with
    | some factor => distance * factor
    | none => distance
  else distance

/-- A distance as a clause states it. -/
def clauseText (metres : Float) : String := Decimal.measure metres ++ "m"

/-- Mean radius of the earth in metres. -/
def earthRadius : Float := 6371008.7714

def radiansPerDegree : Float := 3.141592653589793 / 180.0

def toRadians (degrees : Float) : Float := degrees * radiansPerDegree

/-- Great-circle distance in metres, by the haversine formula. -/
def haversine (a b : Coord Float) : Float :=
  let lat1 := toRadians a.y
  let lat2 := toRadians b.y
  let sinLat := Trigonometry.sin ((lat2 - lat1) / 2.0)
  let sinLon := Trigonometry.sin (toRadians (b.x - a.x) / 2.0)
  let h := sinLat * sinLat +
    Trigonometry.cos lat1 * Trigonometry.cos lat2 * (sinLon * sinLon)
  2.0 * earthRadius * Trigonometry.arcsin h.sqrt

def planar (a b : Coord Float) : Float :=
  ((a.x - b.x) * (a.x - b.x) + (a.y - b.y) * (a.y - b.y)).sqrt

/-- The distance of two positions, great-circle or planar. -/
def between (geographic : Bool) (a b : Coord Float) : Float :=
  if geographic then haversine a b else planar a b

end GeoSearch.Distance
