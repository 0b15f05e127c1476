import GeoSearch.Proofs.Geometry.Box
/-!
The frame of a geometry: its coordinates, holes apart. A geometry's box is the box of its frame, and
whatever is not outside the geometry lies between coordinates of its frame.
-/
namespace GeoSearch

open Binary64 (value)

/-! ### Well-formed geometries -/

def Polygon.Ringed (p : Polygon Float) : Prop :=
  closeRing p.exterior = p.exterior ∧ ∀ hole ∈ p.interiors, closeRing hole = hole

def Rect.Ordered (box : Rect Float) : Prop := box.low.x ≤ box.high.x ∧ box.low.y ≤ box.high.y

def Rect.Finite (box : Rect Float) : Prop := box.low.Finite ∧ box.high.Finite

namespace Rect.Frames

variable {box : Rect Float} {coords : List (Coord Float)} (frames : box.Frames coords)

include frames

theorem finite : box.Finite :=
  ⟨⟨frames.across.low_finite, frames.along.low_finite⟩, frames.across.high_finite,
    frames.along.high_finite⟩

theorem ordered : box.Ordered :=
  ⟨(Binary64.le_iff frames.across.low_finite frames.across.high_finite).mpr frames.across.low_le_high,
    (Binary64.le_iff frames.along.low_finite frames.along.high_finite).mpr frames.along.low_le_high⟩

end Rect.Frames

namespace Geometry

mutual

/-- Rings are closed and boxes are ordered. -/
def WellFormed : Geometry Float → Prop
  | polygon p => p.Ringed
  | multiPolygon ps => ∀ p ∈ ps, p.Ringed
  | collection gs => AllWellFormed gs
  | rect r => r.Ordered
  | _ => True

def AllWellFormed : List (Geometry Float) → Prop
  | [] => True
  | g :: gs => WellFormed g ∧ AllWellFormed gs

end

mutual

/-- The coordinates of a geometry, holes apart. -/
def frame : Geometry Float → List (Coord Float)
  | point c => [c]
  | line a b => [a, b]
  | lineString cs => cs
  | polygon p => p.exterior
  | multiPoint cs => cs
  | multiLineString ls => ls.flatten
  | multiPolygon ps => ps.flatMap Polygon.exterior
  | collection gs => memberFrames gs
  | rect r => r.ring
  | triangle a b c => [a, b, c]

def memberFrames : List (Geometry Float) → List (Coord Float)
  | [] => []
  | g :: gs => frame g ++ memberFrames gs

end

def Finite (g : Geometry Float) : Prop := ∀ c ∈ g.coords, c.Finite

instance (g : Geometry Float) : Decidable g.Finite :=
  inferInstanceAs (Decidable (∀ c ∈ g.coords, c.Finite))

variable {g : Geometry Float} {gs : List (Geometry Float)} {p : Position}

mutual

theorem frame_subset : ∀ g : Geometry Float, g.frame ⊆ g.coords
  | point _ => List.Subset.refl _
  | line _ _ => List.Subset.refl _
  | lineString _ => List.Subset.refl _
  | polygon p => List.subset_append_left _ _
  | multiPoint _ => List.Subset.refl _
  | multiLineString _ => List.Subset.refl _
  | multiPolygon ps => by
    intro c member
    obtain ⟨p, stands, below⟩ := List.mem_flatMap.mp member
    exact List.mem_flatMap.mpr ⟨p, stands, List.mem_append_left _ below⟩
  | collection gs => memberFrames_subset gs
  | rect r => by simp [frame, coords, Rect.ring]
  | triangle _ _ _ => List.Subset.refl _

theorem memberFrames_subset : ∀ gs : List (Geometry Float), memberFrames gs ⊆ memberCoords gs
  | [] => List.Subset.refl _
  | g :: gs => by
    intro c member
    rcases List.mem_append.mp member with here | there
    · exact List.mem_append_left _ (frame_subset g here)
    · exact List.mem_append_right _ (memberFrames_subset gs there)

end

/-! ### Boxes -/

theorem finite_rect {box : Rect Float} (finite : box.Finite) : (rect box).Finite := by
  obtain ⟨⟨lowX, lowY⟩, highX, highY⟩ := finite
  intro c member
  simp only [coords, Rect.ring, List.tail_cons, List.mem_cons, List.not_mem_nil, or_false] at member
  rcases member with rfl | rfl | rfl | rfl
  · exact ⟨highX, highY⟩
  · exact ⟨lowX, highY⟩
  · exact ⟨lowX, lowY⟩
  · exact ⟨highX, lowY⟩

theorem framed_rect {r : Rect Float} (finite : (rect r).Finite) (ordered : r.Ordered) :
    r.Frames r.ring := by
  obtain ⟨lowX, lowY⟩ : r.low.Finite := finite r.low (by simp [coords, Rect.ring])
  obtain ⟨highX, highY⟩ : r.high.Finite := finite r.high (by simp [coords, Rect.ring])
  constructor
  · apply ranges_of_ends lowX highX ((Binary64.le_iff lowX highX).mp ordered.1) <;> simp [Rect.ring]
  · apply ranges_of_ends lowY highY ((Binary64.le_iff lowY highY).mp ordered.2) <;> simp [Rect.ring]

mutual

/-- The box of a geometry is that of its frame. -/
theorem framed_bounds : ∀ g : Geometry Float, g.Finite → g.WellFormed → Framed g.bounds g.frame
  | point c, finite, _ =>
    have known := finite c (List.mem_singleton_self c)
    ⟨ranges_single known.1, ranges_single known.2⟩
  | line _ _, finite, _ => framed_boundsOf finite
  | lineString _, finite, _ => framed_boundsOf finite
  | polygon p, finite, _ => framed_boundsOf fun c member => finite c (frame_subset (polygon p) member)
  | multiPoint _, finite, _ => framed_boundsOf finite
  | multiLineString _, finite, _ => framed_boundsOf finite
  | multiPolygon ps, finite, _ =>
    framed_boundsOf fun c member => finite c (frame_subset (multiPolygon ps) member)
  | collection gs, finite, formed =>
    have start : Framed none [] := rfl
    framed_memberBounds gs finite formed start
  | rect _, finite, formed => framed_rect finite formed
  | triangle _ _ _, finite, _ => framed_boundsOf finite

theorem framed_memberBounds : ∀ (gs : List (Geometry Float)) {found : Option (Rect Float)}
    {coords : List (Coord Float)}, (∀ c ∈ memberCoords gs, c.Finite) → AllWellFormed gs →
      Framed found coords → Framed (memberBounds gs found) (coords ++ memberFrames gs)
  | [], found, coords, _, _, known => by
    rw [memberFrames, List.append_nil]
    exact known
  | g :: gs, found, coords, finite, formed, known => by
    have here := framed_bounds g (fun c member => finite c (List.mem_append_left _ member)) formed.1
    have there := framed_memberBounds gs (fun c member => finite c (List.mem_append_right _ member))
      formed.2 (framed_mergeBounds known here)
    rw [List.append_assoc] at there
    exact there

end

theorem frames_bounds {box : Rect Float} (finite : g.Finite) (formed : g.WellFormed)
    (bounded : g.bounds = some box) : box.Frames g.frame := by
  have framed := framed_bounds g finite formed
  rw [bounded] at framed
  exact framed

end Geometry

/-! ### Shapes -/

namespace Shape

variable {s t : Shape} {q : Position} {parts : List Shape}

theorem mem_frame_append : q ∈ (s.append t).frame ↔ q ∈ s.frame ∨ q ∈ t.frame := by
  simp only [frame, append, List.flatten_append, List.flatMap_append, List.mem_append]
  tauto

theorem mem_frame_join : q ∈ (join parts).frame ↔ ∃ s ∈ parts, q ∈ s.frame := by
  have folded : ∀ start : Shape, q ∈ (parts.foldl append start).frame ↔
      q ∈ start.frame ∨ ∃ s ∈ parts, q ∈ s.frame := by
    induction parts with
    | nil => simp
    | cons s rest ih =>
      intro start
      rw [List.foldl_cons, ih, mem_frame_append]
      simp only [List.mem_cons, exists_eq_or_imp]
      tauto
  rw [join, folded]
  simp [frame, empty]

theorem rimmed_append (first : s.Rimmed) (second : t.Rimmed) : (s.append t).Rimmed := by
  intro area member
  rcases List.mem_append.mp member with here | there
  · exact first area here
  · exact second area there

theorem rimmed_empty : Rimmed empty := nofun

theorem rimmed_join (each : ∀ s ∈ parts, s.Rimmed) : (join parts).Rimmed := by
  have folded : ∀ start : Shape, start.Rimmed → (parts.foldl append start).Rimmed := by
    induction parts with
    | nil => exact fun _ first => first
    | cons s rest ih =>
      intro start first
      exact ih (fun t member => each t (List.mem_cons_of_mem _ member)) _
        (rimmed_append first (each s (List.mem_cons_self ..)))
  exact folded empty rimmed_empty

theorem withoutRepeats_subset : ∀ path : List Position, withoutRepeats path ⊆ path
  | [] => List.Subset.refl _
  | [_] => List.Subset.refl _
  | a :: b :: rest => by
    rw [withoutRepeats]
    split
    · exact List.Subset.trans (withoutRepeats_subset (b :: rest)) (List.subset_cons_self ..)
    · exact List.cons_subset_cons a (withoutRepeats_subset (b :: rest))

theorem frame_ofLine (coords : List (Coord Float)) :
    (ofLine coords).frame = withoutRepeats (coords.map Coord.exact) := by
  unfold ofLine
  split
  · next nothing => rw [nothing]; rfl
  · next only => rw [only]; rfl
  · simp [frame]

theorem rimmed_ofLine (coords : List (Coord Float)) : (ofLine coords).Rimmed := by
  unfold ofLine
  split <;> exact nofun

theorem frame_ofPolygon (p : Polygon Float) :
    (ofPolygon p).frame = p.exterior.map Coord.exact := by
  unfold ofPolygon
  split
  · next none =>
    rw [List.isEmpty_iff.mp none]
    rfl
  · simp [frame]

end Shape

theorem Coord.exact_of_same {a b : Coord Float} (first : a.Finite) (second : b.Finite)
    (same : a.same b = true) : a.exact = b.exact := by
  obtain ⟨across, along⟩ := Bool.and_eq_true_iff.mp same
  exact Coord.mk.injEq .. ▸ ⟨(Binary64.beq_iff first.1 second.1).mp across,
    (Binary64.beq_iff first.2 second.2).mp along⟩

theorem Coord.same_self {c : Coord Float} (finite : c.Finite) : c.same c = true :=
  Bool.and_eq_true_iff.mpr ⟨(Binary64.beq_iff finite.1 finite.1).mpr rfl,
    (Binary64.beq_iff finite.2 finite.2).mpr rfl⟩

theorem trianglePolygon_eq {a : Coord Float} (finite : a.Finite) (b c : Coord Float) :
    trianglePolygon a b c = ⟨[a, b, c, a], []⟩ := by
  have ring : closeRing [a, b, c, a] = [a, b, c, a] := if_pos (Coord.same_self finite)
  rw [trianglePolygon, Polygon.ofRings, ring, List.map_nil]

/-- A ring that is closed, or becomes closed, ends where it starts, if coordinates that count as the same
are read alike. -/
theorem closed_map_closeRing {α : Type} [Scalar α] {ring : List (Coord α)} (read : Coord α → Position)
    (alike : ∀ a ∈ ring, ∀ b ∈ ring, a.same b = true → read a = read b) :
    Closed ((closeRing ring).map read) := by
  cases ring with
  | nil => rfl
  | cons first rest =>
    obtain ⟨last, found⟩ : ∃ last, (first :: rest).getLast? = some last :=
      ⟨_, List.getLast?_eq_some_getLast (List.cons_ne_nil first rest)⟩
    have form : closeRing (first :: rest) =
        if first.same last then first :: rest else first :: rest ++ [first] := by
      unfold closeRing
      rw [found]
    rw [form, Closed]
    split
    · next same =>
      rw [List.getLast?_map, found, List.map_cons, List.head?_cons, Option.map_some,
        alike first (List.mem_cons_self ..) last (List.mem_of_getLast? found) same]
    · rw [List.map_append, List.map_singleton, List.getLast?_concat]
      rfl

theorem closed_closeRing {ring : List (Coord Float)} (finite : ∀ c ∈ ring, c.Finite) :
    Closed ((closeRing ring).map Coord.exact) :=
  closed_map_closeRing Coord.exact fun a first b second =>
    Coord.exact_of_same (finite a first) (finite b second)

theorem mem_of_mem_closeRing {α : Type} [Scalar α] {ring : List (Coord α)} {c : Coord α}
    (member : c ∈ closeRing ring) : c ∈ ring := by
  unfold closeRing at member
  split at member
  · split at member
    · exact member
    · rcases List.mem_append.mp member with inside | first
      · exact inside
      · rw [List.mem_singleton.mp first]
        exact List.mem_cons_self ..
  · exact member

theorem mem_closeRing {ring : List (Coord Float)} {c : Coord Float} : c ∈ closeRing ring ↔ c ∈ ring := by
  refine ⟨mem_of_mem_closeRing, fun member => ?_⟩
  unfold closeRing
  split
  · split
    · exact member
    · exact List.mem_append_left _ member
  · exact member

theorem Shape.rimmed_ofPolygon {p : Polygon Float} (closed : Closed (p.exterior.map Coord.exact)) :
    (ofPolygon p).Rimmed := by
  unfold ofPolygon
  split
  · exact rimmed_empty
  · intro area member
    obtain rfl := List.mem_singleton.mp member
    exact closed

theorem Polygon.closed_exterior {p : Polygon Float} (finite : ∀ c ∈ p.exterior, c.Finite)
    (ringed : p.Ringed) :
    Closed (p.exterior.map Coord.exact) := by
  rw [← ringed.1]
  exact closed_closeRing finite

namespace Geometry

open Shape (ofGeometry ofMembers)

mutual

theorem frame_ofGeometry : ∀ g : Geometry Float, (ofGeometry g).frame ⊆ g.frame.map Coord.exact
  | point c => by simp [ofGeometry, Shape.ofPoints, Shape.frame, frame]
  | line a b => by
    rw [ofGeometry, Shape.frame_ofLine]
    exact Shape.withoutRepeats_subset _
  | lineString cs => by
    rw [ofGeometry, Shape.frame_ofLine]
    exact Shape.withoutRepeats_subset _
  | polygon p => by
    rw [ofGeometry, Shape.frame_ofPolygon]
    exact List.Subset.refl _
  | multiPoint cs => by simp [ofGeometry, Shape.ofPoints, Shape.frame, frame]
  | multiLineString ls => by
    intro q member
    obtain ⟨s, stands, below⟩ := Shape.mem_frame_join.mp member
    obtain ⟨path, among, rfl⟩ := List.mem_map.mp stands
    rw [Shape.frame_ofLine] at below
    exact List.map_subset _ (fun c on => List.mem_flatten_of_mem among on)
      (Shape.withoutRepeats_subset _ below)
  | multiPolygon ps => by
    intro q member
    obtain ⟨s, stands, below⟩ := Shape.mem_frame_join.mp member
    obtain ⟨area, among, rfl⟩ := List.mem_map.mp stands
    rw [Shape.frame_ofPolygon] at below
    exact List.map_subset _ (fun c rim => List.mem_flatMap.mpr ⟨area, among, rim⟩) below
  | collection gs => frame_ofMembers gs
  | rect r => by
    rw [ofGeometry, Shape.frame_ofPolygon]
    exact List.Subset.refl _
  | triangle a b c => by
    rw [ofGeometry, Shape.frame_ofPolygon]
    apply List.map_subset
    intro corner member
    have corners : corner ∈ [a, b, c, a] := mem_of_mem_closeRing member
    simp only [List.mem_cons, List.not_mem_nil, or_false] at corners
    simp only [frame, List.mem_cons, List.not_mem_nil, or_false]
    tauto

theorem frame_ofMembers : ∀ gs : List (Geometry Float),
    (ofMembers gs).frame ⊆ (memberFrames gs).map Coord.exact
  | [] => List.Subset.refl _
  | g :: gs => by
    intro q member
    rw [memberFrames, List.map_append, List.mem_append]
    rcases Shape.mem_frame_append.mp member with here | there
    · exact .inl (frame_ofGeometry g here)
    · exact .inr (frame_ofMembers gs there)

end

mutual

theorem rimmed_ofGeometry : ∀ g : Geometry Float, g.Finite → g.WellFormed → (ofGeometry g).Rimmed
  | point _, _, _ => nofun
  | line a b, _, _ => Shape.rimmed_ofLine [a, b]
  | lineString cs, _, _ => Shape.rimmed_ofLine cs
  | polygon p, finite, formed =>
    Shape.rimmed_ofPolygon
      (Polygon.closed_exterior (fun c member => finite c (frame_subset _ member)) formed)
  | multiPoint _, _, _ => nofun
  | multiLineString ls, _, _ => by
    apply Shape.rimmed_join
    intro s stands
    obtain ⟨path, -, rfl⟩ := List.mem_map.mp stands
    exact Shape.rimmed_ofLine path
  | multiPolygon ps, finite, formed => by
    apply Shape.rimmed_join
    intro s stands
    obtain ⟨area, among, rfl⟩ := List.mem_map.mp stands
    refine Shape.rimmed_ofPolygon (Polygon.closed_exterior ?_ (formed area among))
    exact fun c rim => finite c (frame_subset _ (List.mem_flatMap.mpr ⟨area, among, rim⟩))
  | collection gs, finite, formed => rimmed_ofMembers gs finite formed
  | rect r, _, _ => Shape.rimmed_ofPolygon rfl
  | triangle a b c, finite, _ => by
    apply Shape.rimmed_ofPolygon
    change Closed ((closeRing [a, b, c, a]).map Coord.exact)
    apply closed_closeRing
    intro corner member
    refine finite corner ?_
    simp only [List.mem_cons, List.not_mem_nil, or_false] at member
    simp only [coords, List.mem_cons, List.not_mem_nil, or_false]
    tauto

theorem rimmed_ofMembers : ∀ gs : List (Geometry Float), (∀ c ∈ memberCoords gs, c.Finite) →
    AllWellFormed gs → (ofMembers gs).Rimmed
  | [], _, _ => Shape.rimmed_empty
  | g :: gs, finite, formed =>
    Shape.rimmed_append
      (rimmed_ofGeometry g (fun c member => finite c (List.mem_append_left _ member)) formed.1)
      (rimmed_ofMembers gs (fun c member => finite c (List.mem_append_right _ member)) formed.2)

end

/-- What is not outside a geometry lies between coordinates of its frame. -/
theorem spans_of_locate (finite : g.Finite) (formed : g.WellFormed)
    (here : (ofGeometry g).locate p ≠ .exterior) : Spans (g.frame.map Coord.exact) p :=
  (Shape.spans_of_locate (rimmed_ofGeometry g finite formed) here).mono (frame_ofGeometry g)

/-- What is not outside a box is what the box holds. -/
theorem locate_rect {box : Rect Float} (finite : box.Finite) (ordered : box.Ordered) :
    (ofGeometry (rect box)).locate p ≠ .exterior ↔ box.Holds p := by
  have known := finite_rect finite
  constructor
  · intro here
    exact (framed_rect known ordered).holds_iff.mpr (spans_of_locate known ordered here)
  · rintro ⟨left, right, below, above⟩
    have drawn : ofGeometry (rect box) = ⟨[], [], [⟨Rect.ring ⟨box.low.exact, box.high.exact⟩, []⟩]⟩ :=
      rfl
    have inside : locateInRing (Rect.ring ⟨box.low.exact, box.high.exact⟩) p ≠ .exterior :=
      locateInRing_ring left right below above
    rw [drawn, Shape.locate_ofArea, locateInArea]
    cases found : locateInRing (Rect.ring ⟨box.low.exact, box.high.exact⟩) p with
    | interior => simp [locateInHoles]
    | boundary => simp
    | exterior => exact absurd found inside

end Geometry

end GeoSearch
