import GeoSearch.Predicate.Evaluation
import GeoSearch.Query.Selection
/-!
Clauses on stored positions. A ring clause asks for a position strictly inside its ring, whatever else
the literal had; a box clause asks for one between its corners. A distance clause is read from its
document, where the limit stands under `distance` and the centre under the name of the field. And the
positions that the document of a clause sends: its lists of two numbers, at any depth.
-/
namespace GeoSearch

/-! ### Stored positions -/

def Geometry.point? : Geometry Float → Option (Coord Float)
  | .point c => some c
  | _ => none

def Document.positions (source : Json) (field : String) : List (Coord Float) :=
  ((Attribute.plain field).geometries source).filterMap Geometry.point?

theorem Attribute.positions_field {a : Attribute} {source : Json} {c : Coord Float}
    (one : a.geometries source = [.point c]) : Document.positions source a.field = [c] := by
  have same : (Attribute.plain a.field).geometries source = a.geometries source := rfl
  rw [Document.positions, same, one]
  rfl

/-- A position strictly inside a ring. -/
def ringAdmits (ring : List (Coord Float)) (c : Coord Float) : Bool :=
  locateInRing (ring.map Coord.exact) c.exact = .interior

/-- A longitude on the way from `west` eastwards to `east`, which crosses the antimeridian where `west`
is the greater of the two. -/
def meridiansAdmit (west east lon : Float) : Bool :=
  if east < west then west ≤ lon || lon ≤ east else west ≤ lon && lon ≤ east

/-- A position between two corners, the corners included. -/
def cornersAdmit (topLeft bottomRight c : Coord Float) : Bool :=
  (bottomRight.y ≤ c.y && c.y ≤ topLeft.y) && meridiansAdmit topLeft.x bottomRight.x c.x

def Clause.admitsPosition : Clause → Json → Bool
  | .inRing field ring, source => (Document.positions source field).any (ringAdmits ring)
  | .inBox field topLeft bottomRight, source =>
    (Document.positions source field).any (cornersAdmit topLeft bottomRight)
  | _, _ => false

/-- An index of positions; what callers wrote in its language stays its own affair. -/
def Reading.ofPositions (native : Json → String → Json → Bool) : Reading :=
  ⟨Clause.admitsPosition, native⟩

namespace Clause

variable {native : Json → String → Json → Bool} {id : String} {source : Json} {a : Attribute}
  {c : Coord Float}

theorem selects_inRing (ring : List (Coord Float)) (one : a.geometries source = [.point c]) :
    (filtered (inRing a.field ring)).selects (.ofPositions native) id source = ringAdmits ring c := by
  have read : (filtered (inRing a.field ring)).selects (.ofPositions native) id source =
    (Document.positions source a.field).any (ringAdmits ring) := rfl
  rw [read, Attribute.positions_field one, List.any_cons, List.any_nil, Bool.or_false]

theorem selects_inBox (topLeft bottomRight : Coord Float) (one : a.geometries source = [.point c]) :
    (filtered (inBox a.field topLeft bottomRight)).selects (.ofPositions native) id source =
      cornersAdmit topLeft bottomRight c := by
  have read : (filtered (inBox a.field topLeft bottomRight)).selects (.ofPositions native) id source =
    (Document.positions source a.field).any (cornersAdmit topLeft bottomRight) := rfl
  rw [read, Attribute.positions_field one, List.any_cons, List.any_nil, Bool.or_false]

end Clause

namespace Distance

/-- The metres of a text that ends in their unit. -/
def metres? (text : String) : Option Float :=
  match text.toList.reverse with
  | 'm' :: number => Decimal.read? number.reverse
  | _ => none

/-- The limit and the centre that a distance clause states for a field. -/
def stated? (clause : Json) (field : String) : Option (Float × Coord Float) := do
  let body ← clause.member? "geo_distance"
  let limit ← body.member? "distance"
  let centre ← body.member? field
  some (← metres? (← limit.asString?), ← GeoJson.position? centre)

def admits (clause : Json) (field : String) (c : Coord Float) : Bool :=
  (stated? clause field).any fun (limit, centre) => haversine c centre ≤ limit

end Distance

def Clause.admitsDistance : Clause → Json → Bool
  | .near field metres centre, source =>
    (Document.positions source field).any (Distance.admits (nearDocument field metres centre) field)
  | _, _ => false

/-- An index of positions that reads distances from the documents of clauses. -/
def Reading.ofDistances (native : Json → String → Json → Bool) : Reading :=
  ⟨Clause.admitsDistance, native⟩

/-! ### Positions that are sent -/

namespace Json

def pair? : List Json → Option (Coord Float)
  | [.number lon, .number lat] => some ⟨lon.toFloat, lat.toFloat⟩
  | _ => none

mutual

/-- The lists of two numbers in a document, from left to right. -/
def positions : Json → List (Coord Float)
  | .array items =>
    match pair? items with
    | some c => [c]
    | none => itemPositions items
  | .object members => memberPositions members
  | _ => []

def itemPositions : List Json → List (Coord Float)
  | [] => []
  | item :: rest => positions item ++ itemPositions rest

def memberPositions : List (String × Json) → List (Coord Float)
  | [] => []
  | (_, value) :: rest => positions value ++ memberPositions rest

end

@[simp] theorem positions_string (s : String) : (string s).positions = [] := rfl

@[simp] theorem positions_object (members : Members) :
    (object members).positions = memberPositions members := rfl

@[simp] theorem memberPositions_nil : memberPositions [] = [] := rfl

@[simp] theorem memberPositions_cons (name : String) (value : Json) (rest : Members) :
    memberPositions ((name, value) :: rest) = value.positions ++ memberPositions rest := rfl

/-- A list of documents none of which is a number sends what each of them sends. -/
theorem positions_array {items : List Json} (structured : ∀ item ∈ items, ∀ n, item ≠ .number n) :
    (array items).positions = items.flatMap positions := by
  have single : pair? items = none := by
    unfold pair?
    split
    · next lon lat => exact absurd rfl (structured (number lon) (by simp) lon)
    · rfl
  have each : ∀ items, itemPositions items = items.flatMap positions := by
    intro items
    induction items with
    | nil => rfl
    | cons item rest ih => rw [itemPositions, ih, List.flatMap_cons]
  rw [positions, single]
  exact each items

theorem positions_map {α : Type} {write : α → Json} (structured : ∀ a n, write a ≠ .number n)
    (items : List α) :
    (array (items.map write)).positions = items.flatMap fun a => (write a).positions := by
  rw [positions_array (List.forall_mem_map.mpr fun a _ => structured a), List.flatMap_map]

end Json

namespace Geometry

mutual

/-- The coordinates that the object form of a geometry lists: two corners for a box, a closed ring for
a triangle, all of them for the others. -/
def sent : Geometry Float → List (Coord Float)
  | point c => [c]
  | line a b => [a, b]
  | lineString cs => cs
  | polygon p => p.coords
  | multiPoint cs => cs
  | multiLineString ls => ls.flatten
  | multiPolygon ps => ps.flatMap Polygon.coords
  | collection gs => memberSent gs
  | rect r => [⟨r.low.x, r.high.y⟩, ⟨r.high.x, r.low.y⟩]
  | triangle a b c => (trianglePolygon a b c).coords

def memberSent : List (Geometry Float) → List (Coord Float)
  | [] => []
  | g :: gs => sent g ++ memberSent gs

end

end Geometry

end GeoSearch
