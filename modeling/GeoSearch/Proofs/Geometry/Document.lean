import GeoSearch.Geometry.Document
import GeoSearch.Proofs.Geometry.Frame
import GeoSearch.Proofs.Predicate.Document
/-!
Geometries that are written to documents and read back. Nothing is lost but that lines of two ends come
back as line strings, and triangles as polygons.
-/
namespace GeoSearch

/-! ### What documents know -/

def Rect.Wide (r : Rect Float) : Prop := (r.low.x == r.high.x) = false

def Rect.mirrored (r : Rect Float) : Rect Float := ⟨⟨r.high.x, r.low.y⟩, ⟨r.low.x, r.high.y⟩⟩

namespace Geometry

mutual

/-- Lines of two ends as line strings, and triangles as polygons, at any depth. -/
def plain : Geometry Float → Geometry Float
  | line a b => lineString [a, b]
  | triangle a b c => polygon ⟨[a, b, c, a], []⟩
  | collection gs => collection (plainMembers gs)
  | g => g

def plainMembers : List (Geometry Float) → List (Geometry Float)
  | [] => []
  | g :: gs => plain g :: plainMembers gs

end

mutual

def Wide : Geometry Float → Prop
  | rect r => r.Wide
  | collection gs => AllWide gs
  | _ => True

def AllWide : List (Geometry Float) → Prop
  | [] => True
  | g :: gs => Wide g ∧ AllWide gs

end

mutual

/-- The same geometry, but that the ends of a box that is not wide may be exchanged: they are one number,
which for zero is written in two ways. -/
def Same : Geometry Float → Geometry Float → Prop
  | rect r, h => h = rect r ∨ ¬ r.Wide ∧ h = rect r.mirrored
  | collection gs, h => ∃ hs, h = collection hs ∧ AllSame gs hs
  | g, h => h = g

def AllSame : List (Geometry Float) → List (Geometry Float) → Prop
  | [], hs => hs = []
  | g :: gs, hs => ∃ h rest, hs = h :: rest ∧ Same g h ∧ AllSame gs rest

end

end Geometry

variable {coords : List (Coord Float)} {p : Polygon Float} {r : Rect Float}

namespace GeoJson

/-! ### Positions, lines and rings -/

theorem position?_position (centre : Coord Float) :
    position? (position centre) = if centre.Finite then some centre else none := by
  by_cases longitude : centre.x.isFinite = true
  · by_cases latitude : centre.y.isFinite = true
    · simp [position, position?, Json.ofFloat, number?, Json.Number.toFloat, Coord.Finite, longitude,
        latitude]
    · simp [position, position?, Json.ofFloat, number?, Json.Number.toFloat, Coord.Finite, longitude,
        latitude]
  · simp [position, position?, Json.ofFloat, number?, Coord.Finite, longitude]

theorem line?_positions (finite : ∀ c ∈ coords, c.Finite) : line? (positions coords) = some coords :=
  Json.mapM_map fun c member => (position?_position c).trans (if_pos (finite c member))

theorem mapM_line?_positions {lines : List (List (Coord Float))}
    (finite : ∀ c ∈ lines.flatten, c.Finite) : (lines.map positions).mapM line? = some lines :=
  Json.mapM_map fun _ stands => line?_positions fun c member =>
    finite c (List.mem_flatten_of_mem stands member)

/-- Closing rings that are closed keeps them. -/
theorem polygon?_rings (finite : ∀ c ∈ p.coords, c.Finite) (ringed : p.Ringed) :
    polygon? (rings p) = some p := by
  have exterior : line? (positions p.exterior) = some p.exterior :=
    line?_positions fun c member => finite c (List.mem_append_left _ member)
  have interiors : (p.interiors.map positions).mapM line? = some p.interiors :=
    mapM_line?_positions fun c member => finite c (List.mem_append_right _ member)
  have closed : p.interiors.map closeRing = p.interiors :=
    (List.map_congr_left ringed.2).trans p.interiors.map_id
  rw [rings, polygon?, exterior, interiors]
  simp [Polygon.ofRings, ringed.1, closed]

theorem mapM_polygon?_rings {areas : List (Polygon Float)}
    (finite : ∀ c ∈ areas.flatMap Polygon.coords, c.Finite) (ringed : ∀ p ∈ areas, p.Ringed) :
    (areas.map rings).mapM polygon? = some areas :=
  Json.mapM_map fun p stands => polygon?_rings
    (fun c member => finite c (List.mem_flatMap.mpr ⟨p, stands, member⟩)) (ringed p stands)

/-! ### Boxes -/

/-- The upper left and the lower right corner of a box give the box again, or the box with its ends
exchanged if they are one number. -/
theorem same_ofCorners (finite : r.Finite) (ordered : r.Ordered) :
    (Geometry.rect r).Same (.rect (Rect.ofCorners ⟨r.low.x, r.high.y⟩ ⟨r.high.x, r.low.y⟩)) := by
  obtain ⟨low, high⟩ := finite
  have along := (Binary64.le_iff low.2 high.2).mp ordered.2
  have level : Scalar.lt r.high.y r.low.y = false :=
    Bool.eq_false_iff.mpr (mt (Scalar.lt_iff high.2 low.2).mp (not_lt.mpr along))
  by_cases across : Scalar.lt r.low.x r.high.x = true
  · refine .inl (congrArg Geometry.rect ?_)
    simp [Rect.ofCorners, across, level]
  · refine .inr ⟨fun wide => ?_, congrArg Geometry.rect ?_⟩
    · have even : Binary64.value r.low.x = Binary64.value r.high.x :=
        le_antisymm ((Binary64.le_iff low.1 high.1).mp ordered.1)
          (not_lt.mp (mt (Scalar.lt_iff low.1 high.1).mpr across))
      exact Bool.eq_false_iff.mp wide ((Binary64.beq_iff low.1 high.1).mpr even)
    · simp [Rect.ofCorners, Rect.mirrored, across, level]

/-! ### Objects -/

theorem read?_shaped {kind upper : String} (name : asciiUpper kind = upper)
    (other : upper ≠ "GEOMETRYCOLLECTION") (value : Json) :
    read? (typed kind "coordinates" value) = shaped? upper value := by
  simp [typed, read?, kind?, Json.asString?, name, List.lookup]

theorem read?_point (value : Json) :
    read? (typed "Point" "coordinates" value) = (position? value).map .point :=
  read?_shaped (by decide : _ = "POINT") (by decide) value

theorem read?_lineString (value : Json) :
    read? (typed "LineString" "coordinates" value) = (line? value).map .lineString :=
  read?_shaped (by decide : _ = "LINESTRING") (by decide) value

theorem read?_polygon (value : Json) :
    read? (typed "Polygon" "coordinates" value) = (polygon? value).map .polygon :=
  read?_shaped (by decide : _ = "POLYGON") (by decide) value

theorem read?_multiPoint (value : Json) :
    read? (typed "MultiPoint" "coordinates" value) = (line? value).map .multiPoint :=
  read?_shaped (by decide : _ = "MULTIPOINT") (by decide) value

theorem read?_multiLineString (items : List Json) :
    read? (typed "MultiLineString" "coordinates" (.array items)) =
      (items.mapM line?).map .multiLineString := by
  refine (read?_shaped (by decide : _ = "MULTILINESTRING") (by decide) _).trans ?_
  cases read : items.mapM line? <;> simp [shaped?, Json.asArray?, read]

theorem read?_multiPolygon (items : List Json) :
    read? (typed "MultiPolygon" "coordinates" (.array items)) =
      (items.mapM polygon?).map .multiPolygon := by
  refine (read?_shaped (by decide : _ = "MULTIPOLYGON") (by decide) _).trans ?_
  cases read : items.mapM polygon? <;> simp [shaped?, Json.asArray?, read]

theorem read?_envelope {upperLeft lowerRight : Coord Float} (first : upperLeft.Finite)
    (second : lowerRight.Finite) :
    read? (typed "envelope" "coordinates" (positions [upperLeft, lowerRight])) =
      some (.rect (Rect.ofCorners upperLeft lowerRight)) := by
  refine (read?_shaped (by decide : _ = "ENVELOPE") (by decide) _).trans ?_
  simp [shaped?, positions, position?_position, first, second]

theorem read?_collection (items : List Json) :
    read? (typed "GeometryCollection" "geometries" (.array items)) =
      (readMembers? items).map .collection := by
  have name : asciiUpper "GeometryCollection" = "GEOMETRYCOLLECTION" := by decide
  simp [typed, read?, kind?, Json.asString?, name, List.lookup, readGeometries?]

end GeoJson

/-! ### Geometries -/

namespace Geometry

open GeoJson

mutual

theorem read?_write_same : ∀ g : Geometry Float, g.Finite → g.WellFormed →
    ∃ h, read? (write g) = some h ∧ g.plain.Same h
  | point c, finite, _ => by
    refine ⟨point c, ?_, rfl⟩
    rw [write, read?_point, position?_position, if_pos (finite c (List.mem_singleton_self c))]
    rfl
  | line a b, finite, _ => by
    refine ⟨lineString [a, b], ?_, rfl⟩
    rw [write, read?_lineString, @line?_positions [a, b] finite]
    rfl
  | lineString cs, finite, _ => by
    refine ⟨lineString cs, ?_, rfl⟩
    rw [write, read?_lineString, @line?_positions cs finite]
    rfl
  | polygon p, finite, formed => by
    refine ⟨polygon p, ?_, rfl⟩
    rw [write, read?_polygon, polygon?_rings finite formed]
    rfl
  | multiPoint cs, finite, _ => by
    refine ⟨multiPoint cs, ?_, rfl⟩
    rw [write, read?_multiPoint, @line?_positions cs finite]
    rfl
  | multiLineString ls, finite, _ => by
    refine ⟨multiLineString ls, ?_, rfl⟩
    rw [write, read?_multiLineString, mapM_line?_positions finite]
    rfl
  | multiPolygon ps, finite, formed => by
    refine ⟨multiPolygon ps, ?_, rfl⟩
    rw [write, read?_multiPolygon, mapM_polygon?_rings finite formed]
    rfl
  | collection gs, finite, formed => by
    obtain ⟨hs, read, same⟩ := readMembers?_writeMembers gs finite formed
    refine ⟨collection hs, ?_, hs, rfl, same⟩
    rw [write, read?_collection, read]
    rfl
  | rect r, finite, formed => by
    have ends : r.Finite := (framed_rect finite formed).finite
    have upperLeft : (⟨r.low.x, r.high.y⟩ : Coord Float).Finite := ⟨ends.1.1, ends.2.2⟩
    have lowerRight : (⟨r.high.x, r.low.y⟩ : Coord Float).Finite := ⟨ends.2.1, ends.1.2⟩
    exact ⟨_, read?_envelope upperLeft lowerRight, same_ofCorners ends formed⟩
  | triangle a b c, finite, _ => by
    have first : a.Finite := finite a List.mem_cons_self
    have ring : trianglePolygon a b c = ⟨[a, b, c, a], []⟩ := trianglePolygon_eq first b c
    refine ⟨polygon ⟨[a, b, c, a], []⟩, ?_, rfl⟩
    rw [write, read?_polygon, ring, polygon?_rings]
    · rfl
    · intro d member
      refine finite d ?_
      simp only [Polygon.coords, List.flatten_nil, List.append_nil, List.mem_cons, coords] at member ⊢
      tauto
    · exact ⟨if_pos (Coord.same_self first), nofun⟩

theorem readMembers?_writeMembers : ∀ gs : List (Geometry Float), (∀ c ∈ memberCoords gs, c.Finite) →
    AllWellFormed gs → ∃ hs, readMembers? (writeMembers gs) = some hs ∧ AllSame (plainMembers gs) hs
  | [], _, _ => ⟨[], rfl, rfl⟩
  | g :: gs, finite, formed => by
    obtain ⟨h, read, same⟩ :=
      read?_write_same g (fun c member => finite c (List.mem_append_left _ member)) formed.1
    obtain ⟨hs, rest, all⟩ :=
      readMembers?_writeMembers gs (fun c member => finite c (List.mem_append_right _ member)) formed.2
    refine ⟨h :: hs, ?_, h, hs, rfl, same, all⟩
    rw [writeMembers, readMembers?, read, rest]
    rfl

end

mutual

theorem Same.eq : ∀ {g h : Geometry Float}, g.plain.Same h → g.Wide → h = g.plain
  | rect _, _, same, wide => same.resolve_right fun ⟨narrow, _⟩ => narrow wide
  | collection _, _, ⟨_, exact, all⟩, wide => exact.trans (congrArg collection (all.eq wide))
  | point _, _, same, _ | line _ _, _, same, _ | lineString _, _, same, _ | polygon _, _, same, _
  | multiPoint _, _, same, _ | multiLineString _, _, same, _ | multiPolygon _, _, same, _
  | triangle _ _ _, _, same, _ => same

theorem AllSame.eq : ∀ {gs hs : List (Geometry Float)}, AllSame (plainMembers gs) hs → AllWide gs →
    hs = plainMembers gs
  | [], _, empty, _ => empty
  | _ :: _, _, ⟨_, _, rfl, same, all⟩, wide => congrArg₂ List.cons (same.eq wide.1) (all.eq wide.2)

end

end Geometry

/-- A geometry that is written is read back as it is, but for lines of two ends and triangles. A box that
is not wide may have its ends exchanged, which are one number. -/
theorem GeoJson.read?_write (g : Geometry Float) (finite : g.Finite) (formed : g.WellFormed) :
    ∃ h, read? (write g) = some h ∧ g.plain.Same h ∧ (g.Wide → h = g.plain) := by
  obtain ⟨h, read, same⟩ := Geometry.read?_write_same g finite formed
  exact ⟨h, read, same, same.eq⟩

namespace Geometry

def mixed : Geometry Float :=
  .collection [.line ⟨0, 0⟩ ⟨1, 2⟩, .collection [.triangle ⟨0, 0⟩ ⟨4, 0⟩ ⟨0, 4⟩, .lineString []],
    .multiPolygon [⟨[], [[]]⟩], .rect ⟨⟨-10, -20⟩, ⟨10, 20⟩⟩]

theorem mixed_read_back : mixed.Finite ∧ mixed.WellFormed ∧ mixed.Wide ∧
    GeoJson.read? (GeoJson.write mixed) = some (.collection [.lineString [⟨0, 0⟩, ⟨1, 2⟩],
      .collection [.polygon ⟨[⟨0, 0⟩, ⟨4, 0⟩, ⟨0, 4⟩, ⟨0, 0⟩], []⟩, .lineString []],
      .multiPolygon [⟨[], [[]]⟩], .rect ⟨⟨-10, -20⟩, ⟨10, 20⟩⟩]) := by
  have finite : mixed.Finite := by decide
  have formed : mixed.WellFormed := by
    refine ⟨trivial, ⟨trivial, trivial, trivial⟩, ?_, ?_, trivial⟩
    · exact List.forall_mem_singleton.mpr ⟨rfl, List.forall_mem_singleton.mpr rfl⟩
    · constructor <;> decide
  have box : Rect.Wide ⟨⟨-10, -20⟩, ⟨10, 20⟩⟩ := (by decide : ((-10 : Float) == 10) = false)
  have wide : mixed.Wide := ⟨trivial, ⟨trivial, trivial, trivial⟩, trivial, box, trivial⟩
  obtain ⟨h, read, -, same⟩ := GeoJson.read?_write mixed finite formed
  exact ⟨finite, formed, wide, read.trans (congrArg some (same wide))⟩

end Geometry

end GeoSearch
