import GeoSearch.Geometry.World
import GeoSearch.Proofs.Binary64.Nearest
import GeoSearch.Proofs.Geometry.Frame
/-!
Geometries inside the world. Bringing one into the world leaves it as it is: the same shape and the
same frame.
-/
namespace GeoSearch

open Binary64 (value)
open Shape (ofGeometry ofMembers)

def Rect.Contains (box : Rect Float) (c : Coord Float) : Prop :=
  (box.low.x ≤ c.x ∧ c.x ≤ box.high.x) ∧ box.low.y ≤ c.y ∧ c.y ≤ box.high.y

def Coord.InWorld (c : Coord Float) : Prop := (world : Rect Float).Contains c

def Geometry.InWorld (g : Geometry Float) : Prop := ∀ c ∈ g.coords, c.InWorld

instance (c : Coord Float) : Decidable c.InWorld := inferInstanceAs (Decidable ((_ ∧ _) ∧ _ ∧ _))

instance (g : Geometry Float) : Decidable g.InWorld :=
  inferInstanceAs (Decidable (∀ c ∈ g.coords, c.InWorld))

variable {c : Coord Float} {box : Rect Float} {x : Float}

namespace Rect

theorem Contains.finite (inside : box.Contains c) (known : box.Finite) : c.Finite :=
  ⟨Binary64.finite_of_between known.1.1 known.2.1 inside.1.1 inside.1.2,
    Binary64.finite_of_between known.1.2 known.2.2 inside.2.1 inside.2.2⟩

/-- A box of finite ends holds the position of a coordinate that it contains. -/
theorem contains_iff (known : box.Finite) (finite : c.Finite) :
    box.Contains c ↔ box.Holds c.exact := by
  obtain ⟨low, high⟩ := known
  rw [Contains, Binary64.le_iff low.1 finite.1, Binary64.le_iff finite.1 high.1,
    Binary64.le_iff low.2 finite.2, Binary64.le_iff finite.2 high.2]
  exact ⟨fun ⟨⟨left, right⟩, below, above⟩ => ⟨left, right, below, above⟩,
    fun holds => ⟨⟨holds.left, holds.right⟩, holds.below, holds.above⟩⟩

end Rect

/-! ### Coordinates in the world -/

/-- The numbers of degrees that the world is made of: a turn, its halves and the poles. -/
theorem finite_degrees : (Scalar.ofInt 360 : Float).isFinite = true ∧
    (Scalar.ofInt 180 : Float).isFinite = true ∧ (Scalar.ofInt (-180) : Float).isFinite = true ∧
    (Scalar.ofInt 90 : Float).isFinite = true ∧ (Scalar.ofInt (-90) : Float).isFinite = true := by
  decide

theorem value_degrees : value (Scalar.ofInt 360 : Float) = 360 ∧
    value (Scalar.ofInt 180 : Float) = 180 ∧ value (Scalar.ofInt (-180) : Float) = -180 ∧
    value (Scalar.ofInt 90 : Float) = 90 ∧ value (Scalar.ofInt (-90) : Float) = -90 := by
  decide +kernel

theorem finite_world : (world : Rect Float).Finite := by
  obtain ⟨-, east, west, north, south⟩ := finite_degrees
  exact ⟨⟨west, south⟩, east, north⟩

theorem exact_world : (world : Rect Float).low.exact = ⟨-180, -90⟩ ∧
    (world : Rect Float).high.exact = ⟨180, 90⟩ := by
  obtain ⟨-, east, west, north, south⟩ := value_degrees
  exact ⟨congrArg₂ Coord.mk west south, congrArg₂ Coord.mk east north⟩

theorem Coord.InWorld.finite (inside : c.InWorld) : c.Finite :=
  Rect.Contains.finite inside finite_world

theorem Coord.InWorld.holds (inside : c.InWorld) : (world : Rect Float).Holds c.exact :=
  (Rect.contains_iff finite_world inside.finite).mp inside

theorem Coord.inWorld_iff (finite : c.Finite) : c.InWorld ↔
    (-180 ≤ value c.x ∧ value c.x ≤ 180) ∧ -90 ≤ value c.y ∧ value c.y ≤ 90 := by
  obtain ⟨low, high⟩ := exact_world
  obtain ⟨west, south⟩ := Coord.mk.inj low
  obtain ⟨east, north⟩ := Coord.mk.inj high
  obtain ⟨lowest, highest⟩ := finite_world
  rw [InWorld, Rect.Contains, Binary64.le_iff lowest.1 finite.1, Binary64.le_iff finite.1 highest.1,
    Binary64.le_iff lowest.2 finite.2, Binary64.le_iff finite.2 highest.2, west, south, east, north]

theorem Coord.InWorld.degrees (inside : c.InWorld) :
    (-180 ≤ value c.x ∧ value c.x ≤ 180) ∧ -90 ≤ value c.y ∧ value c.y ≤ 90 :=
  (Coord.inWorld_iff inside.finite).mp inside

theorem Coord.inWorld_iff_abs :
    c.InWorld ↔ c.Finite ∧ |value c.x| ≤ 180 ∧ |value c.y| ≤ 90 := by
  constructor
  · intro inside
    obtain ⟨across, along⟩ := inside.degrees
    exact ⟨inside.finite, abs_le.mpr across, abs_le.mpr along⟩
  · intro ⟨finite, across, along⟩
    exact (Coord.inWorld_iff finite).mpr ⟨abs_le.mp across, abs_le.mp along⟩

/-- Clamping keeps what is between the ends. -/
theorem clamp_self {low high : Float} (lowest : low.isFinite = true) (highest : high.isFinite = true)
    (finite : x.isFinite = true) (above : value low ≤ value x) (below : value x ≤ value high) :
    Scalar.clamp x low high = x := by
  rw [Scalar.clamp, if_neg (mt (Scalar.lt_iff finite lowest).mp (not_lt.mpr above)),
    if_neg (mt (Scalar.lt_iff highest finite).mp (not_lt.mpr below))]

theorem wrapLongitude_self (finite : x.isFinite = true) (west : -180 ≤ value x)
    (east : value x ≤ 180) : wrapLongitude x = x := by
  obtain ⟨turn, half, half', -⟩ := finite_degrees
  obtain ⟨full, value_half, value_half', -⟩ := value_degrees
  have rest : Scalar.remainder x (Scalar.ofInt 360) = x := by
    apply Binary64.remainder_of_lt finite turn
    rw [← Binary64.abs_value, ← Binary64.abs_value, full]
    exact (abs_le.mpr ⟨west, east⟩).trans_lt (by norm_num)
  rw [wrapLongitude, rest, if_neg, if_neg]
  · rw [Scalar.lt_iff finite half', value_half']
    exact not_lt.mpr west
  · rw [Scalar.lt_iff half finite, value_half]
    exact not_lt.mpr east

/-- A coordinate of the world is left where it is. -/
theorem Coord.intoWorld_self (inside : c.InWorld) : c.intoWorld = c := by
  obtain ⟨⟨west, east⟩, south, north⟩ := inside.degrees
  obtain ⟨lowest, highest⟩ := finite_world
  obtain ⟨low, high⟩ := exact_world
  have longitude : wrapLongitude c.x = c.x := wrapLongitude_self inside.finite.1 west east
  have latitude : clampLatitude c.y = c.y := by
    apply clamp_self lowest.2 highest.2 inside.finite.2
    · exact (Coord.mk.inj low).2.trans_le south
    · exact north.trans_eq (Coord.mk.inj high).2.symm
  rw [intoWorld, longitude, latitude]

/-! ### Geometries in the world -/

theorem map_intoWorld {coords : List (Coord Float)} (inside : ∀ c ∈ coords, c.InWorld) :
    coords.map Coord.intoWorld = coords :=
  (List.map_congr_left fun c member => Coord.intoWorld_self (inside c member)).trans coords.map_id

theorem Polygon.mapCoords_intoWorld {p : Polygon Float} (inside : ∀ c ∈ p.coords, c.InWorld)
    (ringed : p.Ringed) : p.mapCoords Coord.intoWorld = p := by
  have exterior : p.exterior.map Coord.intoWorld = p.exterior :=
    map_intoWorld fun c member => inside c (List.mem_append_left _ member)
  have interiors : p.interiors.map (List.map Coord.intoWorld) = p.interiors := by
    refine (List.map_congr_left fun hole stands => ?_).trans p.interiors.map_id
    exact map_intoWorld fun c member =>
      inside c (List.mem_append_right _ (List.mem_flatten_of_mem stands member))
  have holes : p.interiors.map closeRing = p.interiors :=
    (List.map_congr_left ringed.2).trans p.interiors.map_id
  rw [mapCoords, exterior, interiors, ofRings, ringed.1, holes]

namespace Geometry

structure Redrawn (g h : Geometry Float) : Prop where
  finite : h.Finite
  formed : h.WellFormed
  shape : ofGeometry h = ofGeometry g
  frame : h.frame.map Coord.exact = g.frame.map Coord.exact

theorem InWorld.finite {g : Geometry Float} (inside : g.InWorld) : g.Finite :=
  fun c member => (inside c member).finite

theorem redrawn_of_eq {g h : Geometry Float} (same : h = g) (inside : g.InWorld)
    (formed : g.WellFormed) : Redrawn g h := by
  rw [same]
  exact ⟨inside.finite, formed, rfl, rfl⟩

/-- A box is rebuilt from its corners, which may exchange two zeros of different signs. -/
theorem redrawn_rect {r : Rect Float} (inside : (rect r).InWorld) (ordered : r.Ordered) :
    Redrawn (rect r) (rect (Rect.ofCorners r.low r.high)) := by
  have known := framed_rect inside.finite ordered
  have again := Rect.frames_ofCorners known.across known.along
  generalize Rect.ofCorners r.low r.high = s at again
  obtain ⟨left, right⟩ := known.across.ends_eq again.across
  obtain ⟨below, above⟩ := known.along.ends_eq again.along
  have ring : s.ring.map Coord.exact = r.ring.map Coord.exact := by
    simp [Rect.ring, Coord.exact, left, right, below, above]
  have shape (t : Rect Float) : ofGeometry (rect t) = ⟨[], [], [⟨t.ring.map Coord.exact, []⟩]⟩ := rfl
  refine ⟨finite_rect again.finite, again.ordered, ?_, ring⟩
  rw [shape, shape, ring]

mutual

/-- A geometry of the world is left as it is. -/
theorem redrawn_intoWorld : ∀ g : Geometry Float, g.InWorld → g.WellFormed → Redrawn g g.intoWorld
  | point c, inside, formed =>
    redrawn_of_eq (congrArg point (Coord.intoWorld_self (inside c (List.mem_singleton_self c))))
      inside formed
  | line a b, inside, formed =>
    have first := Coord.intoWorld_self (inside a (by simp [coords]))
    have second := Coord.intoWorld_self (inside b (by simp [coords]))
    redrawn_of_eq (congrArg₂ line first second) inside formed
  | lineString _, inside, formed =>
    redrawn_of_eq (congrArg lineString (map_intoWorld inside)) inside formed
  | polygon _, inside, formed =>
    redrawn_of_eq (congrArg polygon (Polygon.mapCoords_intoWorld inside formed)) inside formed
  | multiPoint _, inside, formed =>
    redrawn_of_eq (congrArg multiPoint (map_intoWorld inside)) inside formed
  | multiLineString ls, inside, formed => by
    have paths : ls.map (List.map Coord.intoWorld) = ls := by
      refine (List.map_congr_left fun path stands => ?_).trans ls.map_id
      exact map_intoWorld fun c member => inside c (List.mem_flatten_of_mem stands member)
    exact redrawn_of_eq (congrArg multiLineString paths) inside formed
  | multiPolygon ps, inside, formed => by
    have areas : ps.map (Polygon.mapCoords Coord.intoWorld) = ps := by
      refine (List.map_congr_left fun p stands => ?_).trans ps.map_id
      refine Polygon.mapCoords_intoWorld (fun c member => inside c ?_) (formed p stands)
      exact List.mem_flatMap.mpr ⟨p, stands, member⟩
    exact redrawn_of_eq (congrArg multiPolygon areas) inside formed
  | collection gs, inside, formed =>
    have ⟨finite, again, shape, frame⟩ := redrawn_members gs inside formed
    ⟨finite, again, shape, frame⟩
  | rect r, inside, formed => by
    have low := Coord.intoWorld_self (inside r.low (by simp [coords, Rect.ring]))
    have high := Coord.intoWorld_self (inside r.high (by simp [coords, Rect.ring]))
    rw [intoWorld, mapCoords, low, high]
    exact redrawn_rect inside formed
  | triangle a b c, inside, formed => by
    have same : (triangle a b c).intoWorld = triangle a b c := by
      rw [intoWorld, mapCoords, Coord.intoWorld_self (inside a (by simp [coords])),
        Coord.intoWorld_self (inside b (by simp [coords])),
        Coord.intoWorld_self (inside c (by simp [coords]))]
    exact redrawn_of_eq same inside formed

theorem redrawn_members : ∀ gs : List (Geometry Float), (∀ c ∈ memberCoords gs, c.InWorld) →
    AllWellFormed gs →
    (∀ c ∈ memberCoords (mapMembers Coord.intoWorld gs), c.Finite) ∧
      AllWellFormed (mapMembers Coord.intoWorld gs) ∧
      ofMembers (mapMembers Coord.intoWorld gs) = ofMembers gs ∧
      (memberFrames (mapMembers Coord.intoWorld gs)).map Coord.exact = (memberFrames gs).map Coord.exact
  | [], _, _ => ⟨nofun, trivial, rfl, rfl⟩
  | g :: gs, inside, formed => by
    have here := redrawn_intoWorld g (fun c member => inside c (List.mem_append_left _ member)) formed.1
    obtain ⟨finite, again, shape, frame⟩ :=
      redrawn_members gs (fun c member => inside c (List.mem_append_right _ member)) formed.2
    refine ⟨?_, ⟨here.formed, again⟩, ?_, ?_⟩
    · intro c member
      rcases List.mem_append.mp member with this | that
      · exact here.finite c this
      · exact finite c that
    · exact congrArg₂ Shape.append here.shape shape
    · rw [mapMembers, memberFrames, memberFrames, List.map_append, List.map_append, frame]
      exact congrArg (· ++ _) here.frame

end

end Geometry

end GeoSearch
