import GeoSearch.Geometry.Basic
import GeoSearch.Json.Basic
import GeoSearch.Text.Split
/-!
Geometries in documents: the object form that clauses carry, and the forms in which stored
documents hold positions and shapes.
-/
namespace GeoSearch.GeoJson

/-! ### Writing -/

def position (c : Coord Float) : Json := .array [.ofFloat c.x, .ofFloat c.y]

def positions (coords : List (Coord Float)) : Json := .array (coords.map position)

def rings (p : Polygon Float) : Json := .array (positions p.exterior :: p.interiors.map positions)

def typed (kind : String) (key : String) (value : Json) : Json :=
  .object [("type", .string kind), (key, value)]

mutual

/-- The object form of a geometry. A box is an envelope of its upper left and lower right corners. -/
def write : Geometry Float → Json
  | .point c => typed "Point" "coordinates" (position c)
  | .line a b => typed "LineString" "coordinates" (positions [a, b])
  | .lineString cs => typed "LineString" "coordinates" (positions cs)
  | .polygon p => typed "Polygon" "coordinates" (rings p)
  | .multiPoint cs => typed "MultiPoint" "coordinates" (positions cs)
  | .multiLineString ls => typed "MultiLineString" "coordinates" (.array (ls.map positions))
  | .multiPolygon ps => typed "MultiPolygon" "coordinates" (.array (ps.map rings))
  | .collection gs => typed "GeometryCollection" "geometries" (.array (writeMembers gs))
  | .rect r => typed "envelope" "coordinates"
      (positions [⟨r.low.x, r.high.y⟩, ⟨r.high.x, r.low.y⟩])
  | .triangle a b c => typed "Polygon" "coordinates" (rings (trianglePolygon a b c))

def writeMembers : List (Geometry Float) → List Json
  | [] => []
  | g :: gs => write g :: writeMembers gs

end

/-! ### Reading -/

/-- A number, or the text of one with blanks around it. -/
def number? : Json → Option Float
  | .number n => some n.toFloat
  | .string s => Decimal.read? (Text.trimChars s.toList)
  | _ => none

/-- The first two items of a list. -/
def position? : Json → Option (Coord Float)
  | .array (x :: y :: _) => do some ⟨← number? x, ← number? y⟩
  | _ => none

def line? : Json → Option (List (Coord Float))
  | .array items => items.mapM position?
  | _ => none

/-- A polygon needs an exterior. -/
def polygon? : Json → Option (Polygon Float)
  | .array (exterior :: interiors) => do
    some (Polygon.ofRings (← line? exterior) (← interiors.mapM line?))
  | _ => none

/-- A number of a point text: an optional minus, digits, an optional point, digits. -/
def pointNumber? (text : List Char) : Option (List Char × List Char) :=
  let (sign, rest) := match text with
    | '-' :: rest => (['-'], rest)
    | rest => ([], rest)
  let (whole, rest) := Decimal.splitDigits rest
  match rest with
  | '.' :: rest =>
    let (fraction, rest) := Decimal.splitDigits rest
    some (sign ++ whole ++ '.' :: fraction, rest)
  | rest => some (sign ++ whole, rest)

/-- A position as `lat,lon` text. -/
def pointText? (text : String) : Option (Coord Float) := do
  let blanks (text : List Char) := text.dropWhile Text.isBlank
  let (lat, rest) ← pointNumber? (blanks text.toList)
  match blanks rest with
  | ',' :: rest =>
    let (lon, rest) ← pointNumber? (blanks rest)
    if (blanks rest).isEmpty then
      let lat ← Decimal.read? lat
      let lon ← Decimal.read? lon
      some ⟨lon, lat⟩
    else none
  | _ => none

def asciiUpper (text : String) : String := String.ofList (text.toList.map Char.toUpper)

/-- A geometry of a given type from its coordinates. -/
def shaped? (kind : String) (coordinates : Json) : Option (Geometry Float) :=
  match kind with
  | "POINT" => (position? coordinates).map .point
  | "LINESTRING" => (line? coordinates).map .lineString
  | "POLYGON" => (polygon? coordinates).map .polygon
  | "MULTIPOINT" => (line? coordinates).map .multiPoint
  | "MULTILINESTRING" => do
    some (.multiLineString (← (← coordinates.asArray?).mapM line?))
  | "MULTIPOLYGON" => do
    some (.multiPolygon (← (← coordinates.asArray?).mapM polygon?))
  | "ENVELOPE" =>
    match coordinates with
    | .array (upperLeft :: lowerRight :: _) => do
      some (.rect (Rect.ofCorners (← position? upperLeft) (← position? lowerRight)))
    | _ => none
  | _ => none

def kind? (members : Json.Members) : Option String := do
  some (asciiUpper (← (← members.lookup "type").asString?))

mutual

/-- A geometry stored in a document: `lat,lon` text, a `[lon, lat]` list, an object with `lat` and
`lon`, or an object with a type. -/
def read? : Json → Option (Geometry Float)
  | .string s => (pointText? s).map .point
  | .array items => (position? (.array items)).map .point
  | .object members =>
    match members.lookup "lat", members.lookup "lon" with
    | some lat, some lon => do some (.point ⟨← number? lon, ← number? lat⟩)
    | _, _ =>
      match kind? members with
      | none => none
      | some "GEOMETRYCOLLECTION" => readGeometries? members
      | some kind => do shaped? kind (← members.lookup "coordinates")
  | _ => none

/-- The collection of the geometries that the member of that name lists. -/
def readGeometries? : List (String × Json) → Option (Geometry Float)
  | [] => none
  | (key, value) :: rest =>
    if key = "geometries" then
      match value with
      | .array items => (readMembers? items).map .collection
      | _ => none
    else readGeometries? rest

def readMembers? : List Json → Option (List (Geometry Float))
  | [] => some []
  | item :: rest => do some ((← read? item) :: (← readMembers? rest))

end

end GeoSearch.GeoJson
