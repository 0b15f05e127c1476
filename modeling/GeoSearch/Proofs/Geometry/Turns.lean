import GeoSearch.Geometry.Cover
import GeoSearch.Proofs.Geometry.Wrap
/-!
Geometries brought into the world, on exact coordinates. Longitudes move by whole turns and latitudes to
the nearer pole, in the structure that the geometry has; and what has been brought into the world stays
as it is.
-/
namespace GeoSearch

variable {c d : Position} {t u : Rat} {ring : List Position}

/-! ### Coordinates -/

/-- A longitude of the world stays. -/
theorem Turned.kept (turned : Turned t u) (west : -180 ≤ t) (east : t ≤ 180) : u = t := by
  obtain ⟨⟨k, rfl⟩, west', east', beyond_west, beyond_east⟩ := turned
  have least : (-1 : Rat) ≤ k := by linarith
  have most : (k : Rat) ≤ 1 := by linarith
  obtain rfl | rfl | rfl : k = -1 ∨ k = 0 ∨ k = 1 := by
    have : -1 ≤ k := by exact_mod_cast least
    have : k ≤ 1 := by exact_mod_cast most
    omega
  -- a whole turn within the world leads from one end to the other, which is never taken
  · have := beyond_east (by push_cast at *; linarith)
    push_cast at *
    linarith
  · simp
  · have := beyond_west (by push_cast at *; linarith)
    push_cast at *
    linarith

structure Coord.Brought (c d : Position) : Prop where
  turned : Turned c.x d.x
  kept : -180 ≤ c.x → c.x ≤ 180 → d.x = c.x
  clamped : d.y = max (-90) (min c.y 90)

namespace Coord

theorem brought_intoWorld (c : Position) : c.Brought c.intoWorld where
  turned := turned_wrapLongitude c.x
  kept := (turned_wrapLongitude c.x).kept
  clamped := clampLatitude_eq c.y

/-- A coordinate of the world stays. -/
theorem Brought.eq (brought : c.Brought d) (west : -180 ≤ c.x) (east : c.x ≤ 180) (south : -90 ≤ c.y)
    (north : c.y ≤ 90) : d = c := by
  obtain ⟨-, kept, clamped⟩ := brought
  rw [min_eq_left north, max_eq_right south] at clamped
  exact congrArg₂ Coord.mk (kept west east) clamped

theorem Brought.inWorld (brought : c.Brought d) :
    (-180 ≤ d.x ∧ d.x ≤ 180) ∧ -90 ≤ d.y ∧ d.y ≤ 90 := by
  refine ⟨⟨brought.turned.west, brought.turned.east⟩, ?_⟩
  rw [brought.clamped]
  exact ⟨le_max_left _ _, max_le (by norm_num) (min_le_right _ _)⟩

theorem intoWorld_intoWorld (c : Position) : c.intoWorld.intoWorld = c.intoWorld := by
  obtain ⟨⟨west, east⟩, south, north⟩ := c.brought_intoWorld.inWorld
  exact c.intoWorld.brought_intoWorld.eq west east south north

theorem same_rat (c d : Position) : c.same d = true ↔ c = d := by
  obtain ⟨x, y⟩ := c
  obtain ⟨x', y'⟩ := d
  simp [same, Scalar.eq]

end Coord

/-! ### Rings and boxes -/

theorem closeRing_of_closed (closed : Closed ring) : closeRing ring = ring := by
  cases ring with
  | nil => rfl
  | cons first rest =>
    unfold closeRing
    rw [← show some first = (first :: rest).getLast? from closed]
    exact if_pos ((first.same_rat first).mpr rfl)

theorem closeRing_eq_nil : closeRing ring = [] ↔ ring = [] := by
  constructor
  · intro none
    cases ring with
    | nil => rfl
    | cons first rest =>
      unfold closeRing at none
      split at none
      · split at none
        · exact none
        · simp at none
      · exact none
  · rintro rfl
    rfl

theorem closed_map (move : Position → Position) (closed : Closed ring) : Closed (ring.map move) := by
  rw [Closed, List.head?_map, List.getLast?_map, show ring.head? = ring.getLast? from closed]

theorem closed_closeRing_rat (ring : List Position) : Closed (closeRing ring) := by
  have closed := closed_map_closeRing id fun a (_ : a ∈ ring) b _ => (a.same_rat b).mp
  rwa [List.map_id] at closed

theorem map_intoWorld_twice (coords : List Position) :
    (coords.map Coord.intoWorld).map Coord.intoWorld = coords.map Coord.intoWorld := by
  rw [List.map_map]
  exact List.map_congr_left fun c _ => c.intoWorld_intoWorld

/-- A ring that was closed after it was brought into the world stays. -/
theorem closeRing_intoWorld (ring : List Position) :
    closeRing ((closeRing (ring.map Coord.intoWorld)).map Coord.intoWorld) =
      closeRing (ring.map Coord.intoWorld) := by
  have fixed : (closeRing (ring.map Coord.intoWorld)).map Coord.intoWorld =
      closeRing (ring.map Coord.intoWorld) := by
    refine (List.map_congr_left fun c member => ?_).trans (List.map_id _)
    obtain ⟨d, -, rfl⟩ := List.mem_map.mp (mem_of_mem_closeRing member)
    exact d.intoWorld_intoWorld
  rw [fixed, closeRing_of_closed (closed_closeRing_rat _)]

/-- The box that lies between two corners. -/
theorem Rect.ofCorners_rat (a b : Position) :
    Rect.ofCorners a b = ⟨⟨min a.x b.x, min a.y b.y⟩, ⟨max a.x b.x, max a.y b.y⟩⟩ := by
  have ends (s t : Rat) : (if Scalar.lt s t then (s, t) else (t, s)) = (min s t, max s t) := by
    by_cases less : s < t
    · simp [Scalar.lt, less, less.le]
    · simp [Scalar.lt, less, not_lt.mp less]
  rw [Rect.ofCorners, ends, ends]

/-- The box of two corners in the world has its own corners in the world, and in order. -/
theorem Rect.intoWorld_intoWorld (a b : Position) :
    let box := Rect.ofCorners a.intoWorld b.intoWorld
    Rect.ofCorners box.low.intoWorld box.high.intoWorld = box := by
  obtain ⟨⟨west, east⟩, south, north⟩ := a.brought_intoWorld.inWorld
  obtain ⟨⟨west', east'⟩, south', north'⟩ := b.brought_intoWorld.inWorld
  rw [Rect.ofCorners_rat a.intoWorld]
  generalize a.intoWorld = c at *
  generalize b.intoWorld = d at *
  have low : (⟨min c.x d.x, min c.y d.y⟩ : Position).intoWorld = ⟨min c.x d.x, min c.y d.y⟩ :=
    (Coord.brought_intoWorld _).eq (le_min west west') (min_le_of_left_le east) (le_min south south')
      (min_le_of_left_le north)
  have high : (⟨max c.x d.x, max c.y d.y⟩ : Position).intoWorld = ⟨max c.x d.x, max c.y d.y⟩ :=
    (Coord.brought_intoWorld _).eq (le_max_of_le_left west) (max_le east east') (le_max_of_le_left south)
      (max_le north north')
  dsimp only
  rw [low, high, Rect.ofCorners_rat]
  simp

namespace Polygon

theorem intoWorld_intoWorld (p : Polygon Rat) :
    (p.mapCoords Coord.intoWorld).mapCoords Coord.intoWorld = p.mapCoords Coord.intoWorld := by
  refine congrArg₂ Polygon.mk (closeRing_intoWorld p.exterior) ?_
  change (((p.interiors.map _).map closeRing).map _).map closeRing = (p.interiors.map _).map closeRing
  simp only [List.map_map]
  exact List.map_congr_left fun hole _ => closeRing_intoWorld hole

theorem coords_mapCoords_eq_nil {move : Position → Position} {p : Polygon Rat} :
    (p.mapCoords move).coords = [] ↔ p.coords = [] := by
  simp [mapCoords, ofRings, coords, closeRing_eq_nil]

end Polygon

/-! ### Structures -/

namespace Geometry

/-- Every ring of the areas is closed, as areas are built. -/
def Ringed (g : Geometry Rat) : Prop := ∀ area ∈ g.areas, ∀ ring ∈ area.rings, Closed ring

mutual

/-- A geometry of the same type and structure, each coordinate in some relation to the one in its
place. A box lies between the coordinates in the places of its corners. -/
def Replaced (r : Position → Position → Prop) : Geometry Rat → Geometry Rat → Prop
  | point c, point d => r c d
  | line a b, line c d => r a c ∧ r b d
  | lineString cs, lineString ds => List.Forall₂ r cs ds
  | polygon p, polygon q => List.Forall₂ (List.Forall₂ r) p.rings q.rings
  | multiPoint cs, multiPoint ds => List.Forall₂ r cs ds
  | multiLineString ls, multiLineString ms => List.Forall₂ (List.Forall₂ r) ls ms
  | multiPolygon ps, multiPolygon qs =>
    List.Forall₂ (fun p q => List.Forall₂ (List.Forall₂ r) p.rings q.rings) ps qs
  | collection gs, collection hs => AllReplaced r gs hs
  | rect box, rect box' => ∃ c d, r box.low c ∧ r box.high d ∧
      box' = ⟨⟨min c.x d.x, min c.y d.y⟩, ⟨max c.x d.x, max c.y d.y⟩⟩
  | triangle a b c, triangle d e f => r a d ∧ r b e ∧ r c f
  | _, _ => False

def AllReplaced (r : Position → Position → Prop) : List (Geometry Rat) → List (Geometry Rat) → Prop
  | [], [] => True
  | g :: gs, h :: hs => Replaced r g h ∧ AllReplaced r gs hs
  | _, _ => False

end

/-! ### What is kept -/

theorem rings_intoWorld (p : Polygon Rat) (closed : ∀ ring ∈ p.rings, Closed ring) :
    (p.mapCoords Coord.intoWorld).rings = p.rings.map (List.map Coord.intoWorld) := by
  have each (ring : List Position) (member : ring ∈ p.rings) :
      closeRing (ring.map Coord.intoWorld) = ring.map Coord.intoWorld :=
    closeRing_of_closed (closed_map _ (closed ring member))
  have exterior := each p.exterior List.mem_cons_self
  have interiors : (p.interiors.map (List.map Coord.intoWorld)).map closeRing =
      p.interiors.map (List.map Coord.intoWorld) := by
    rw [List.map_map]
    exact List.map_congr_left fun hole member => each hole (List.mem_cons_of_mem _ member)
  rw [Polygon.mapCoords, Polygon.ofRings, Polygon.rings, exterior, interiors]
  rfl

theorem forall₂_brought (coords : List Position) :
    List.Forall₂ Coord.Brought coords (coords.map Coord.intoWorld) := by
  rw [List.forall₂_map_right_iff, List.forall₂_same]
  exact fun c _ => c.brought_intoWorld

theorem forall₂_forall₂_brought (lines : List (List Position)) :
    List.Forall₂ (List.Forall₂ Coord.Brought) lines (lines.map (List.map Coord.intoWorld)) := by
  rw [List.forall₂_map_right_iff, List.forall₂_same]
  exact fun coords _ => forall₂_brought coords

mutual

theorem replaced_intoWorld : ∀ g : Geometry Rat, g.Ringed → g.Replaced Coord.Brought g.intoWorld
  | point c, _ => c.brought_intoWorld
  | line a b, _ => ⟨a.brought_intoWorld, b.brought_intoWorld⟩
  | lineString cs, _ => forall₂_brought cs
  | polygon p, ringed => by
    change List.Forall₂ _ _ (p.mapCoords Coord.intoWorld).rings
    rw [rings_intoWorld p (ringed p List.mem_cons_self)]
    exact forall₂_forall₂_brought p.rings
  | multiPoint cs, _ => forall₂_brought cs
  | multiLineString ls, _ => forall₂_forall₂_brought ls
  | multiPolygon ps, ringed => by
    change List.Forall₂ _ ps (ps.map (Polygon.mapCoords Coord.intoWorld))
    rw [List.forall₂_map_right_iff, List.forall₂_same]
    intro p member
    rw [rings_intoWorld p (ringed p member)]
    exact forall₂_forall₂_brought p.rings
  | collection gs, ringed => replaced_members gs ringed
  | rect box, _ => ⟨box.low.intoWorld, box.high.intoWorld, box.low.brought_intoWorld,
      box.high.brought_intoWorld, Rect.ofCorners_rat _ _⟩
  | triangle a b c, _ => ⟨a.brought_intoWorld, b.brought_intoWorld, c.brought_intoWorld⟩

theorem replaced_members : ∀ gs : List (Geometry Rat),
    (∀ area ∈ memberAreas gs, ∀ ring ∈ area.rings, Closed ring) →
    AllReplaced Coord.Brought gs (mapMembers Coord.intoWorld gs)
  | [], _ => trivial
  | g :: gs, ringed =>
    ⟨replaced_intoWorld g fun area member => ringed area (List.mem_append_left _ member),
      replaced_members gs fun area member => ringed area (List.mem_append_right _ member)⟩

end

mutual

theorem intoWorld_intoWorld : ∀ g : Geometry Rat, g.intoWorld.intoWorld = g.intoWorld
  | point c => congrArg point c.intoWorld_intoWorld
  | line a b => congrArg₂ line a.intoWorld_intoWorld b.intoWorld_intoWorld
  | lineString cs => congrArg lineString (map_intoWorld_twice cs)
  | polygon p => congrArg polygon p.intoWorld_intoWorld
  | multiPoint cs => congrArg multiPoint (map_intoWorld_twice cs)
  | multiLineString ls => by
    simp only [intoWorld, mapCoords, List.map_map]
    exact congrArg multiLineString (List.map_congr_left fun coords _ => map_intoWorld_twice coords)
  | multiPolygon ps => by
    simp only [intoWorld, mapCoords, List.map_map]
    exact congrArg multiPolygon (List.map_congr_left fun p _ => p.intoWorld_intoWorld)
  | collection gs => congrArg collection (members_intoWorld gs)
  | rect box => congrArg rect (Rect.intoWorld_intoWorld box.low box.high)
  | triangle a b c => by
    simp only [intoWorld, mapCoords, Coord.intoWorld_intoWorld]

theorem members_intoWorld : ∀ gs : List (Geometry Rat),
    mapMembers Coord.intoWorld (mapMembers Coord.intoWorld gs) = mapMembers Coord.intoWorld gs
  | [] => rfl
  | g :: gs => congrArg₂ List.cons (intoWorld_intoWorld g) (members_intoWorld gs)

end

mutual

theorem coords_mapCoords_eq_nil {move : Position → Position} :
    ∀ g : Geometry Rat, (g.mapCoords move).coords = [] ↔ g.coords = []
  | point _ | line _ _ | rect _ | triangle _ _ _ => by simp [mapCoords, coords, Rect.ring]
  | lineString _ | multiPoint _ => by simp [mapCoords, coords]
  | polygon _ => Polygon.coords_mapCoords_eq_nil
  | multiLineString _ => by simp [mapCoords, coords]
  | multiPolygon _ => by simp [mapCoords, coords, Polygon.coords_mapCoords_eq_nil]
  | collection gs => coords_mapMembers_eq_nil gs

theorem coords_mapMembers_eq_nil {move : Position → Position} :
    ∀ gs : List (Geometry Rat), memberCoords (mapMembers move gs) = [] ↔ memberCoords gs = []
  | [] => Iff.rfl
  | g :: gs => by
    rw [mapMembers, memberCoords, memberCoords, List.append_eq_nil_iff, List.append_eq_nil_iff,
      coords_mapCoords_eq_nil g, coords_mapMembers_eq_nil gs]

end

/-- What is clipped is clipped already. -/
theorem sanitize_of_clipped {g h : Geometry Rat} (clipped : g.sanitize = .clipped h) :
    h = g.intoWorld ∧ h.sanitize = .clipped h := by
  unfold sanitize at clipped
  split at clipped
  · cases clipped
  · next some =>
    split at clipped
    · cases clipped
    · next part =>
      obtain rfl := Sanitized.clipped.inj clipped
      have some : ¬ g.intoWorld.isEmpty = true := by
        rw [isEmpty, List.isEmpty_iff, intoWorld, coords_mapCoords_eq_nil]
        rwa [isEmpty, List.isEmpty_iff] at some
      refine ⟨rfl, ?_⟩
      rw [sanitize, if_neg some, intoWorld_intoWorld, if_neg part]

/-- A geometry that is clipped keeps its type and its structure. Each coordinate is replaced by the one of
the world that is whole turns away and between the poles, itself if it was in the world; and what comes
out is clipped to itself. -/
theorem sanitize_turns (g h : Geometry Rat) (clipped : g.sanitize = .clipped h) :
    (g.Ringed → g.Replaced Coord.Brought h) ∧ h.sanitize = .clipped h := by
  obtain ⟨rfl, again⟩ := sanitize_of_clipped clipped
  exact ⟨replaced_intoWorld g, again⟩

/-- A box across the date line, and an area with a hole. -/
theorem sanitize_turns_of_collection :
    let box : Rect Rat := ⟨⟨170, -95⟩, ⟨190, 10⟩⟩
    let area : Polygon Rat :=
      ⟨[⟨540, 0⟩, ⟨-541, 0⟩, ⟨-541, 91⟩, ⟨540, 0⟩], [[⟨180, 1⟩, ⟨1 / 3, 1⟩, ⟨180, 2⟩, ⟨180, 1⟩]]⟩
    let g : Geometry Rat := .collection [.rect box, .polygon area]
    let h : Geometry Rat := .collection
      [.rect ⟨⟨-170, -90⟩, ⟨170, 10⟩⟩,
       .polygon ⟨[⟨180, 0⟩, ⟨179, 0⟩, ⟨179, 90⟩, ⟨180, 0⟩],
         [[⟨180, 1⟩, ⟨1 / 3, 1⟩, ⟨180, 2⟩, ⟨180, 1⟩]]⟩]
    g.sanitize = .clipped h ∧ g.Ringed ∧ g.Replaced Coord.Brought h ∧ h.sanitize = .clipped h := by
  intro box area g h
  have moved : g.intoWorld = h := by
    have corners : Rect.ofCorners box.low.intoWorld box.high.intoWorld = ⟨⟨-170, -90⟩, ⟨170, 10⟩⟩ := by
      decide +kernel
    have rings : area.mapCoords Coord.intoWorld = ⟨[⟨180, 0⟩, ⟨179, 0⟩, ⟨179, 90⟩, ⟨180, 0⟩],
        [[⟨180, 1⟩, ⟨1 / 3, 1⟩, ⟨180, 2⟩, ⟨180, 1⟩]]⟩ := by
      decide +kernel
    simp only [g, h, intoWorld, mapCoords, mapMembers, corners, rings]
  have clipped : g.sanitize = .clipped h := by
    rw [sanitize, if_neg (by decide), moved, if_neg (by decide +kernel)]
  have ringed : g.Ringed := by
    simp [g, box, area, Ringed, areas, memberAreas, Polygon.rings, Rect.toPolygon, Rect.ring, Closed]
  obtain ⟨replaced, again⟩ := sanitize_turns g h clipped
  exact ⟨clipped, ringed, replaced ringed, again⟩

end Geometry

end GeoSearch
