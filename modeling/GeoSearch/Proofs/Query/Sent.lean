import GeoSearch.Proofs.Query.Box
import GeoSearch.Query.Positions
/-!
The positions that the clause of a spatial relation sends. On an attribute in degrees all of them are in
the world: those of a literal are once it is brought there, and so are the ends of its bounds.
-/
namespace GeoSearch

open SpatialRelation (goesAround boxClause)

variable {coords : List (Coord Float)} {c : Coord Float} {p : Polygon Float} {g h : Geometry Float}

/-! ### Documents of geometries -/

namespace GeoJson

theorem position_ne_number (c : Coord Float) (n : Json.Number) : position c ≠ .number n := nofun

theorem positions_ne_number (coords : List (Coord Float)) (n : Json.Number) :
    positions coords ≠ .number n := nofun

theorem rings_ne_number (p : Polygon Float) (n : Json.Number) : rings p ≠ .number n := nofun

theorem write_ne_number (g : Geometry Float) (n : Json.Number) : write g ≠ .number n := by
  cases g <;> exact nofun

theorem positions_position (finite : c.Finite) : (position c).positions = [c] := by
  simp only [position, Json.ofFloat, finite.1, finite.2, if_true]
  rfl

theorem positions_positions (finite : ∀ c ∈ coords, c.Finite) :
    (positions coords).positions = coords := by
  have each : ∀ c ∈ coords, (position c).positions = [c] := fun c member =>
    positions_position (finite c member)
  rw [positions, Json.positions_map position_ne_number, List.flatMap_congr each,
    List.flatMap_singleton']

theorem positions_lines {lines : List (List (Coord Float))}
    (finite : ∀ line ∈ lines, ∀ c ∈ line, c.Finite) :
    (Json.array (lines.map positions)).positions = lines.flatten := by
  have each : ∀ line ∈ lines, (positions line).positions = id line := fun line member =>
    positions_positions (finite line member)
  rw [Json.positions_map positions_ne_number, List.flatMap_congr each, List.flatMap_id]

theorem positions_rings (finite : ∀ c ∈ p.coords, c.Finite) : (rings p).positions = p.coords := by
  refine @positions_lines (p.exterior :: p.interiors) ?_
  intro line stands c member
  rcases List.mem_cons.mp stands with rfl | hole
  · exact finite c (List.mem_append_left _ member)
  · exact finite c (List.mem_append_right _ (List.mem_flatten_of_mem hole member))

theorem positions_areas {areas : List (Polygon Float)}
    (finite : ∀ p ∈ areas, ∀ c ∈ p.coords, c.Finite) :
    (Json.array (areas.map rings)).positions = areas.flatMap Polygon.coords := by
  rw [Json.positions_map rings_ne_number]
  exact List.flatMap_congr fun p member => positions_rings (finite p member)

theorem positions_typed (kind key : String) (value : Json) :
    (typed kind key value).positions = value.positions := by
  simp [typed]

theorem writeMembers_eq (gs : List (Geometry Float)) : writeMembers gs = gs.map write := by
  induction gs with
  | nil => rfl
  | cons g gs ih => rw [writeMembers, ih, List.map_cons]

mutual

/-- The object form of a geometry sends what it lists. -/
theorem positions_write : ∀ g : Geometry Float, (∀ c ∈ g.sent, c.Finite) →
    (write g).positions = g.sent
  | .point c, finite => (positions_typed ..).trans (positions_position (finite c (by simp [Geometry.sent])))
  | .line _ _, finite => (positions_typed ..).trans (positions_positions finite)
  | .lineString _, finite => (positions_typed ..).trans (positions_positions finite)
  | .polygon _, finite => (positions_typed ..).trans (positions_rings finite)
  | .multiPoint _, finite => (positions_typed ..).trans (positions_positions finite)
  | .multiLineString _, finite => by
    refine (positions_typed ..).trans (positions_lines ?_)
    exact fun line stands c member => finite c (List.mem_flatten_of_mem stands member)
  | .multiPolygon _, finite => by
    refine (positions_typed ..).trans (positions_areas ?_)
    exact fun p stands c member => finite c (List.mem_flatMap.mpr ⟨p, stands, member⟩)
  | .collection gs, finite => by
    refine (positions_typed ..).trans ?_
    rw [writeMembers_eq, Json.positions_map write_ne_number]
    exact positions_members gs finite
  | .rect _, finite => (positions_typed ..).trans (positions_positions finite)
  | .triangle _ _ _, finite => (positions_typed ..).trans (positions_rings finite)

theorem positions_members : ∀ gs : List (Geometry Float), (∀ c ∈ Geometry.memberSent gs, c.Finite) →
    gs.flatMap (fun g => (write g).positions) = Geometry.memberSent gs
  | [], _ => rfl
  | g :: gs, finite => by
    rw [List.flatMap_cons, Geometry.memberSent,
      positions_write g fun c member => finite c (List.mem_append_left _ member),
      positions_members gs fun c member => finite c (List.mem_append_right _ member)]

end

end GeoJson

/-! ### Geometries in the world -/

namespace Geometry

mutual

/-- What a literal that is brought into the world lists is in the world. -/
theorem sent_intoWorld : ∀ g : Geometry Float, g.Finite → ∀ c ∈ g.intoWorld.sent, c.InWorld
  | point _, finite => @inWorld_map_intoWorld [_] finite
  | line _ _, finite => @inWorld_map_intoWorld [_, _] finite
  | lineString _, finite => inWorld_map_intoWorld finite
  | polygon _, finite => Polygon.inWorld_intoWorld finite
  | multiPoint _, finite => inWorld_map_intoWorld finite
  | multiLineString ls, finite => by
    have lines : (ls.map (List.map Coord.intoWorld)).flatten = ls.flatten.map Coord.intoWorld :=
      (List.map_flatten ..).symm
    intro c member
    exact inWorld_map_intoWorld finite c (lines ▸ member)
  | multiPolygon ps, finite => by
    intro c member
    obtain ⟨p, stands, member⟩ := List.mem_flatMap.mp member
    obtain ⟨p, among, rfl⟩ := List.mem_map.mp stands
    exact Polygon.inWorld_intoWorld (fun c stands => finite c (List.mem_flatMap.mpr ⟨p, among, stands⟩))
      c member
  | collection gs, finite => memberSent_intoWorld gs finite
  | rect r, finite => by
    obtain ⟨low, high⟩ := Rect.inWorld_intoWorld finite
    intro c member
    rcases List.mem_pair.mp member with rfl | rfl
    · exact ⟨low.1, high.2⟩
    · exact ⟨high.1, low.2⟩
  | triangle a b c, finite => by
    have corners := @inWorld_map_intoWorld [a, b, c] finite
    intro d member
    have among := Polygon.mem_ofRings.mp member
    refine corners d ?_
    simp only [List.flatten_nil, List.append_nil, List.mem_cons, List.not_mem_nil, or_false,
      List.map_cons, List.map_nil] at among ⊢
    tauto

theorem memberSent_intoWorld : ∀ gs : List (Geometry Float), (∀ c ∈ memberCoords gs, c.Finite) →
    ∀ c ∈ memberSent (mapMembers Coord.intoWorld gs), c.InWorld
  | [], _ => nofun
  | g :: gs, finite => by
    intro c member
    rcases List.mem_append.mp member with this | that
    · exact sent_intoWorld g (fun c member => finite c (List.mem_append_left _ member)) c this
    · exact memberSent_intoWorld gs (fun c member => finite c (List.mem_append_right _ member)) c that

end

/-- The exterior that a ring clause takes of a literal in the world. -/
theorem polygon?_intoWorld (finite : g.Finite) (ringed : g.intoWorld.polygon? = some p) :
    ∀ c ∈ p.exterior, c.InWorld := by
  intro c member
  cases g with
  | polygon q =>
    cases ringed
    exact Polygon.inWorld_intoWorld finite c (List.mem_append_left _ member)
  | rect r =>
    obtain ⟨low, high⟩ := Rect.inWorld_intoWorld finite
    cases ringed
    exact Rect.inWorld_ring low high c member
  | triangle a b d =>
    cases ringed
    exact sent_intoWorld (triangle a b d) finite c (List.mem_append_left _ member)
  | _ => cases ringed

end Geometry

/-! ### Clauses -/

namespace Clause

variable (field : String)

theorem positions_inRing (finite : ∀ c ∈ coords, c.Finite) :
    (filtered (inRing field coords)).document.positions = coords := by
  simp [document, onField, only, matchAllDocument, GeoJson.positions_positions finite]

theorem positions_inBox {a b : Coord Float} (first : a.Finite) (second : b.Finite) :
    (filtered (inBox field a b)).document.positions = [a, b] := by
  simp [document, onField, only, matchAllDocument, GeoJson.positions_position first,
    GeoJson.positions_position second]

theorem positions_shape (relation : ShapeRelation) (finite : ∀ c ∈ g.sent, c.Finite) :
    (filtered (shape field relation g)).document.positions = g.sent := by
  simp [document, onField, only, matchAllDocument, GeoJson.positions_write g finite]

end Clause

namespace SpatialRelation

variable {relation : SpatialRelation} {swapped around : Bool} {field : String} {clause : Clause}

/-- The corners of a box clause, which may be opened to all longitudes. -/
theorem corners_inWorld (around : Bool) {box : Rect Float} (low : box.low.InWorld) (high : box.high.InWorld) :
    (⟨if around then -180.0 else box.low.x, box.high.y⟩ : Coord Float).InWorld ∧
      (⟨if around then 180.0 else box.high.x, box.low.y⟩ : Coord Float).InWorld := by
  have west : (world : Rect Float).low.x ≤ -180.0 ∧ (-180.0 : Float) ≤ (world : Rect Float).high.x := by
    decide
  have east : (world : Rect Float).low.x ≤ 180.0 ∧ (180.0 : Float) ≤ (world : Rect Float).high.x := by
    decide
  cases around with
  | false => exact ⟨⟨low.1, high.2⟩, high.1, low.2⟩
  | true => exact ⟨⟨west, high.2⟩, east, low.2⟩

section

variable (finite : g.Finite)

include finite

theorem positions_pointClause
    (stored : relation.pointClause field g.intoWorld swapped around = .ok clause) :
    ∀ c ∈ clause.document.positions, c.InWorld := by
  rcases pointClause_cases stored with ⟨p, ringed, rfl⟩ | ⟨box, bounded, rfl⟩
  · have inside := Geometry.polygon?_intoWorld finite ringed
    rw [Clause.positions_inRing field fun c member => (inside c member).finite]
    exact inside
  · obtain ⟨-, low, high⟩ := Geometry.bounds_intoWorld finite bounded
    obtain ⟨upper, lower⟩ := corners_inWorld around low high
    rw [boxClause_inWorld low high, Clause.positions_inBox field upper.finite lower.finite]
    simpa using And.intro upper lower

theorem positions_shapeClause
    (stored : relation.shapeClause field g.intoWorld swapped = .ok clause) :
    ∀ c ∈ clause.document.positions, c.InWorld := by
  have inside := Geometry.sent_intoWorld g finite
  obtain ⟨shape, -, rfl⟩ := shapeClause_ok stored
  rw [Clause.positions_shape field _ fun c member => (inside c member).finite]
  exact inside

end

/-- All positions that the clause of a relation to a literal sends are in the world, if the attribute is
in degrees. -/
theorem clause_positions_inWorld (relation : SpatialRelation) (a : Attribute) (g : Geometry Float)
    (swapped : Bool) (clause : Clause) (geographic : a.geographic = true) (finite : g.Finite)
    (compiled : relation.clause a g swapped = .ok clause) :
    ∀ c ∈ clause.document.positions, c.InWorld := by
  rcases clause_cases compiled with rfl | rfl | stored
  · exact nofun
  · exact nofun
  · rw [if_pos geographic] at stored
    unfold storedClause at stored
    split at stored
    · exact positions_pointClause finite stored
    · exact positions_shapeClause finite stored
    · cases stored

def astray : Geometry Float :=
  .collection [.point ⟨190, 95⟩, .collection [.rect ⟨⟨170, -10⟩, ⟨190, 10⟩⟩]]

/-- The literal is sent with its position at the pole and its box turned. -/
theorem clause_positions_inWorld_astray :
    let a : Attribute := .ofGeometry "area" .shape
    let clause : Clause := .filtered (.shape "area" .intersects astray.intoWorld)
    a.geographic = true ∧ astray.Finite ∧ intersects.clause a astray false = .ok clause ∧
      clause.document.positions = [⟨-170, 90⟩, ⟨-170, 10⟩, ⟨170, -10⟩] ∧
      ∀ c ∈ clause.document.positions, c.InWorld := by
  intro a clause
  have finite : astray.Finite := by decide
  have small : astray.intoWorld.isWorld = false := by decide +kernel
  have compiled : intersects.clause a astray false = .ok clause := by
    have clipped : astray.sanitize = .clipped astray.intoWorld := by
      rw [Geometry.sanitize, small]
      rfl
    simp [SpatialRelation.clause, reasonedClause, clipped]
    rfl
  have listed : astray.intoWorld.sent = [⟨-170, 90⟩, ⟨-170, 10⟩, ⟨170, -10⟩] := by decide +kernel
  have inside := Geometry.sent_intoWorld astray finite
  have sent := Clause.positions_shape a.field .intersects fun c member => (inside c member).finite
  exact ⟨rfl, finite, compiled, sent.trans listed,
    clause_positions_inWorld intersects a astray false clause rfl finite compiled⟩

end SpatialRelation

end GeoSearch
