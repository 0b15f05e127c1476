import GeoSearch.Geometry.Cover
import GeoSearch.Proofs.Geometry.Nearby
/-!
What a mosaic covers of a box. Its areas sum up to the cells of a grid whose middles are inside one of
them. So they fill the box just if they cover it, and what they leave uncovered lacks from their area.
-/
namespace GeoSearch

variable {box : Rect Rat} {grid : Grid box} {p : Position} {ring : List Position}
  {area : Polygon Rat} {areas : List (Polygon Rat)}

/-! ### Exact areas -/

theorem Scalar.abs_rat (x : Rat) : Scalar.abs x = |x| := by
  have cases : Scalar.abs x = if x < 0 then -x else x := rfl
  rw [cases]
  split
  · next below => exact (abs_of_neg below).symm
  · next above => exact (abs_of_nonneg (not_lt.mp above)).symm

theorem foldl_sub_abs (rings : List (List Position)) (start : Rat) :
    rings.foldl (fun sum ring => sum - |ringArea ring|) start =
      start - (rings.map fun ring => |ringArea ring|).sum := by
  induction rings generalizing start with
  | nil => exact (sub_zero start).symm
  | cons ring rest ih =>
    rw [List.foldl_cons, ih, List.map_cons, List.sum_cons]
    exact sub_sub ..

theorem Polygon.area_eq (area : Polygon Rat) :
    area.area = |(|ringArea area.exterior| - (area.interiors.map fun hole => |ringArea hole|).sum)| := by
  unfold Polygon.area
  simp only [Scalar.abs_rat]
  rw [← foldl_sub_abs]
  split
  · exact abs_neg (α := Rat) _
  · rfl

/-! ### Turns at the middles of cells -/

/-- How often a ring turns around a position, either way. -/
def turnsAround (ring : List Position) (p : Position) : Rat := |(windingNumber ring p : Rat)|

theorem interior_iff (clear : onPath ring p = false) :
    locateInRing ring p = .interior ↔ windingNumber ring p ≠ 0 := by
  unfold locateInRing
  rw [clear]
  by_cases none : windingNumber ring p = 0 <;> simp [none]

theorem not_boundary (clear : onPath ring p = false) : locateInRing ring p ≠ .boundary := by
  unfold locateInRing
  rw [clear]
  by_cases none : windingNumber ring p = 0 <;> simp [none]

theorem TurnsOnce.turns_eq (once : TurnsOnce ring) (clear : onPath ring p = false) :
    turnsAround ring p = if locateInRing ring p = .interior then 1 else 0 := by
  obtain ⟨turn, unit, all⟩ := once
  simp only [interior_iff clear, turnsAround]
  rcases all p clear with none | one
  · simp [none]
  · rcases unit with rfl | rfl <;> simp [one]

/-- The turns either way sum up to the area of a ring without its sign. -/
theorem TurnsOnce.abs_ringArea (once : TurnsOnce ring) (closed : Closed ring)
    (draws : grid.Draws ring) : |ringArea ring| = grid.sum (turnsAround ring) := by
  obtain ⟨turn, unit, all⟩ := once
  have signed : grid.sum (fun p => (windingNumber ring p : Rat)) =
      grid.sum (fun p => turn * turnsAround ring p) := by
    refine Grid.sum_congr fun p sample => ?_
    unfold turnsAround
    rcases all p (draws.clear sample) with none | one
    · simp [none]
    · rcases unit with rfl | rfl <;> simp [one]
  have positive : 0 ≤ grid.sum (turnsAround ring) := Grid.sum_nonneg fun p => abs_nonneg _
  rw [← Grid.sum_windingNumber draws closed, signed, Grid.sum_mul_left, abs_mul, abs_of_nonneg positive]
  rcases unit with rfl | rfl <;> simp

/-- Of items of which at most one has a property, as many have it as there is one. -/
theorem sum_indicators {α : Type} {items : List α} {found : α → Prop} [DecidablePred found]
    (apart : items.Pairwise fun a b => ¬ (found a ∧ found b)) :
    (items.map fun item => if found item then (1 : Rat) else 0).sum =
      if ∃ item ∈ items, found item then 1 else 0 := by
  induction items with
  | nil => simp
  | cons item rest ih =>
    obtain ⟨here, later⟩ := List.pairwise_cons.mp apart
    rw [List.map_cons, List.sum_cons, ih later]
    by_cases this : found item
    · have none : ¬ ∃ other ∈ rest, found other :=
        fun ⟨other, member, that⟩ => here other member ⟨this, that⟩
      rw [if_pos this, if_neg none, if_pos ⟨item, List.mem_cons_self, this⟩, add_zero]
    · simp [this]

/-! ### Areas over a grid -/

def Polygon.DrawnIn (area : Polygon Rat) (box : Rect Rat) : Prop :=
  ∀ ring ∈ area.rings, Closed ring ∧ ∀ c ∈ ring, box.Surrounds c

def Polygon.inside (area : Polygon Rat) (p : Position) : Rat :=
  if locateInArea area p = .interior then 1 else 0

theorem Polygon.Sound.inside_eq (sound : area.Sound)
    (clear : ∀ ring ∈ area.rings, onPath ring p = false) :
    area.inside p = turnsAround area.exterior p - (area.interiors.map (turnsAround · p)).sum := by
  have outer : area.exterior ∈ area.rings := List.mem_cons_self
  have inner {hole : List Position} (member : hole ∈ area.interiors) : hole ∈ area.rings :=
    List.mem_cons_of_mem _ member
  have holes : (area.interiors.map (turnsAround · p)).sum =
      if ∃ hole ∈ area.interiors, locateInRing hole p = .interior then 1 else 0 := by
    rw [← sum_indicators (sound.apart.imp fun apart => apart p)]
    exact congrArg List.sum (List.map_congr_left fun hole member =>
      (sound.turns hole (inner member)).turns_eq (clear hole (inner member)))
  rw [holes, (sound.turns _ outer).turns_eq (clear _ outer), Polygon.inside,
    locateInArea_of_clear (not_boundary (clear _ outer))
      fun hole member => not_boundary (clear hole (inner member))]
  by_cases around : locateInRing area.exterior p = .interior
  · by_cases some : ∃ hole ∈ area.interiors, locateInRing hole p = .interior
    · simp [around, some]
    · simp [around, some]
  · have none : ¬ ∃ hole ∈ area.interiors, locateInRing hole p = .interior := by
      rintro ⟨hole, member, here⟩
      have rim := not_boundary (clear _ outer)
      have inner := sound.within hole member p here
      cases found : locateInRing area.exterior p <;> contradiction
    simp [around, none]

/-- The area of a sound polygon is that of the cells whose middles are inside it. -/
theorem Polygon.Sound.area_eq_sum (sound : area.Sound) (drawn : area.DrawnIn box)
    (draws : ∀ ring ∈ area.rings, grid.Draws ring) : area.area = grid.sum area.inside := by
  have ringed {ring : List Position} (member : ring ∈ area.rings) :
      |ringArea ring| = grid.sum (turnsAround ring) :=
    (sound.turns ring member).abs_ringArea (drawn ring member).1 (draws ring member)
  have holes : (area.interiors.map fun hole => |ringArea hole|).sum =
      grid.sum fun p => (area.interiors.map (turnsAround · p)).sum := by
    rw [Grid.sum_list]
    exact congrArg List.sum (List.map_congr_left fun hole member =>
      ringed (List.mem_cons_of_mem _ member))
  have outer : grid.sum (turnsAround area.exterior) = grid.sum area.inside +
      grid.sum fun p => (area.interiors.map (turnsAround · p)).sum := by
    rw [← Grid.sum_add]
    refine Grid.sum_congr fun p sample => ?_
    rw [sound.inside_eq fun ring member => (draws ring member).clear sample, sub_add_cancel]
  have positive : 0 ≤ grid.sum area.inside := by
    refine Grid.sum_nonneg fun p => ?_
    unfold Polygon.inside
    split <;> decide
  rw [Polygon.area_eq, ringed List.mem_cons_self, holes, outer, add_sub_cancel_right,
    abs_of_nonneg positive]

/-! ### Covered positions -/

theorem outside_holes {holes : List (List Position)} (inside : locateInHoles p holes = .interior) :
    ∀ hole ∈ holes, locateInRing hole p = .exterior := by
  induction holes with
  | nil => exact nofun
  | cons hole rest ih =>
    unfold locateInHoles at inside
    split at inside
    · next outside => exact List.forall_mem_cons.mpr ⟨outside, ih inside⟩
    · cases inside
    · cases inside

theorem covers_of_interior (inside : locateInArea area p = .interior) : area.Covers p := by
  unfold locateInArea at inside
  split at inside
  · next around =>
    refine ⟨by rw [around]; decide, fun hole member => ?_⟩
    rw [outside_holes inside hole member]
    decide
  · next other => exact absurd inside other

/-- What an area covers and has on none of its rings is inside it. -/
theorem Polygon.Covers.interior (covers : area.Covers p)
    (clear : ∀ ring ∈ area.rings, onPath ring p = false) : locateInArea area p = .interior := by
  have rim := not_boundary (clear area.exterior List.mem_cons_self)
  have around : locateInRing area.exterior p = .interior := by
    cases found : locateInRing area.exterior p with
    | interior => rfl
    | boundary => exact absurd found rim
    | exterior => exact absurd found covers.1
  rw [locateInArea_of_clear rim fun hole member =>
    not_boundary (clear hole (List.mem_cons_of_mem _ member))]
  exact if_pos ⟨around, List.all_eq_true.mpr fun hole member => decide_eq_true (covers.2 hole member)⟩

/-- Near a position that an area does not cover it covers none. -/
theorem nearby_uncovered (drawn : area.DrawnIn box) (outside : ¬ area.Covers p) :
    Nearby p fun q => ¬ area.Covers q := by
  unfold Polygon.Covers at outside
  rw [not_and_or] at outside
  rcases outside with beyond | holed
  · rw [not_not] at beyond
    have closed := (drawn area.exterior List.mem_cons_self).1
    refine (nearby_locateInRing closed (by rw [beyond]; decide)).mono fun q same covers => ?_
    exact covers.1 (same.trans beyond)
  · push Not at holed
    obtain ⟨hole, member, inside⟩ := holed
    have closed := (drawn hole (List.mem_cons_of_mem _ member)).1
    refine (nearby_locateInRing closed (by rw [inside]; decide)).mono fun q same covers => ?_
    exact covers.2 hole member (same.trans inside)

/-! ### Boxes -/

theorem Rect.surrounds_corner {box : Rect Rat} (across : box.low.x ≤ box.high.x)
    (along : box.low.y ≤ box.high.y) : ∀ c ∈ box.ring, box.Surrounds c := by
  have east : box.Surrounds ⟨box.high.x, box.low.y⟩ := ⟨across, le_rfl, le_rfl, along⟩
  exact List.forall_mem_cons.mpr ⟨east, List.forall_mem_cons.mpr ⟨⟨across, le_rfl, along, le_rfl⟩,
    List.forall_mem_cons.mpr ⟨⟨le_rfl, across, along, le_rfl⟩,
      List.forall_mem_cons.mpr ⟨⟨le_rfl, across, le_rfl, along⟩, List.forall_mem_singleton.mpr east⟩⟩⟩⟩

theorem Rect.closed_ring (box : Rect Rat) : Closed box.ring := rfl

theorem Rect.surrounds_of_ring {box : Rect Rat} (across : box.low.x ≤ box.high.x)
    (along : box.low.y ≤ box.high.y) (here : locateInRing box.ring p ≠ .exterior) :
    box.Surrounds p := by
  have corners := surrounds_corner across along
  have spans := spans_of_locateInRing box.closed_ring here
  constructor
  · obtain ⟨a, member, left⟩ := spans.left
    exact (corners a member).left.trans left
  · obtain ⟨a, member, right⟩ := spans.right
    exact right.trans (corners a member).right
  · obtain ⟨a, member, below⟩ := spans.below
    exact (corners a member).below.trans below
  · obtain ⟨a, member, above⟩ := spans.above
    exact above.trans (corners a member).above

theorem Rect.turnsOnce_ring {box : Rect Rat} (across : box.low.x ≤ box.high.x)
    (along : box.low.y ≤ box.high.y) : TurnsOnce box.ring := by
  refine ⟨1, .inl rfl, fun p clear => ?_⟩
  by_cases none : windingNumber box.ring p = 0
  · exact .inl none
  · have here : locateInRing box.ring p ≠ .exterior := by
      rw [(interior_iff clear).mpr none]
      decide
    obtain ⟨left, right, below, above⟩ := surrounds_of_ring across along here
    exact .inr (windingNumber_of_offRing left right below above clear)

/-- What is inside a box is between its sides. -/
theorem Rect.across_of_interior {box : Rect Rat} (across : box.low.x ≤ box.high.x)
    (along : box.low.y ≤ box.high.y) (inside : locateInArea box.toPolygon p = .interior) :
    box.low.x < p.x ∧ p.x < box.high.x := by
  have around : locateInRing box.ring p = .interior := by
    cases found : locateInRing box.ring p <;>
      simp [locateInArea, Rect.toPolygon, found] at inside ⊢
  have clear : onPath box.ring p = false := by
    refine Bool.eq_false_of_not_eq_true fun on => ?_
    rw [locateInRing, if_pos on] at around
    cases around
  obtain ⟨left, right, below, above⟩ := surrounds_of_ring across along (p := p) (by simp [around])
  exact (within_of_offRing left right below above clear).1

theorem Rect.sound_toPolygon {box : Rect Rat} (across : box.low.x ≤ box.high.x)
    (along : box.low.y ≤ box.high.y) : box.toPolygon.Sound where
  turns ring member := by
    rw [List.mem_singleton.mp member]
    exact turnsOnce_ring across along
  within := nofun
  apart := .nil

theorem Rect.area_toPolygon {box : Rect Rat} (across : box.low.x ≤ box.high.x)
    (along : box.low.y ≤ box.high.y) :
    box.toPolygon.area = (box.high.x - box.low.x) * (box.high.y - box.low.y) := by
  have ring : ringArea box.ring = (box.high.x - box.low.x) * (box.high.y - box.low.y) := by
    rw [ringArea_eq box.closed_ring box.low.x]
    simp only [segments, Rect.ring, areaBeside, List.tail_cons, List.zip_cons_cons, List.zip_nil_right,
      List.map_cons, List.map_nil, List.sum_cons, List.sum_nil]
    ring
  have positive := mul_nonneg (sub_nonneg.mpr across) (sub_nonneg.mpr along)
  rw [Polygon.area_eq]
  change |(|ringArea box.ring| - 0)| = _
  rw [sub_zero, abs_abs, ring, abs_of_nonneg positive]

/-! ### Mosaics -/

namespace Mosaic

/-- Two boxes of which one is on the west of the other. -/
theorem pair {west east : Rect Rat} (across : west.low.x ≤ west.high.x)
    (along : west.low.y ≤ west.high.y) (across' : east.low.x ≤ east.high.x)
    (along' : east.low.y ≤ east.high.y) (order : west.high.x ≤ east.low.x) :
    Mosaic [west.toPolygon, east.toPolygon] := by
  constructor
  · exact List.forall_mem_cons.mpr ⟨Rect.sound_toPolygon across along,
      List.forall_mem_singleton.mpr (Rect.sound_toPolygon across' along')⟩
  · refine List.pairwise_pair.mpr fun p both => ?_
    have left := (Rect.across_of_interior across along both.1).2
    have right := (Rect.across_of_interior across' along' both.2).1
    linarith

theorem area_eq_sum (mosaic : Mosaic areas) (drawn : ∀ area ∈ areas, area.DrawnIn box)
    (draws : ∀ area ∈ areas, ∀ ring ∈ area.rings, grid.Draws ring) :
    (areas.map Polygon.area).sum =
      grid.sum fun p => if ∃ area ∈ areas, locateInArea area p = .interior then 1 else 0 := by
  have each : areas.map Polygon.area = areas.map fun area => grid.sum area.inside :=
    List.map_congr_left fun area member =>
      (mosaic.sound area member).area_eq_sum (drawn area member) (draws area member)
  rw [each, ← Grid.sum_list]
  refine Grid.sum_congr fun p _ => ?_
  rw [← sum_indicators (mosaic.apart.imp fun apart => apart p)]
  rfl

theorem exists_grid (across : box.low.x ≤ box.high.x) (along : box.low.y ≤ box.high.y)
    (drawn : ∀ area ∈ areas, area.DrawnIn box) :
    ∃ grid : Grid box, ∀ area ∈ areas, ∀ ring ∈ area.rings, grid.Draws ring :=
  ⟨.drawing across along (areas.flatMap Polygon.rings), fun area stands ring member =>
    Grid.draws_drawing across along (List.mem_flatMap.mpr ⟨area, stands, member⟩)
      (drawn area stands ring member).2⟩

variable (across : box.low.x < box.high.x) (along : box.low.y < box.high.y)

include across along

/-- A mosaic in a box is not larger than the box. -/
theorem area_le (mosaic : Mosaic areas) (drawn : ∀ area ∈ areas, area.DrawnIn box) :
    (areas.map Polygon.area).sum ≤ (box.high.x - box.low.x) * (box.high.y - box.low.y) := by
  obtain ⟨grid, draws⟩ := exists_grid across.le along.le drawn
  rw [mosaic.area_eq_sum drawn draws, ← mul_one ((box.high.x - box.low.x) * _), ← grid.sum_const 1]
  refine Grid.sum_le_sum fun p _ => ?_
  split <;> decide

/-- A mosaic that covers a box is as large as the box. -/
theorem area_of_covers (mosaic : Mosaic areas) (drawn : ∀ area ∈ areas, area.DrawnIn box)
    (covers : ∀ p, box.Surrounds p → ∃ area ∈ areas, area.Covers p) :
    (areas.map Polygon.area).sum = (box.high.x - box.low.x) * (box.high.y - box.low.y) := by
  obtain ⟨grid, draws⟩ := exists_grid across.le along.le drawn
  rw [mosaic.area_eq_sum drawn draws, ← mul_one ((box.high.x - box.low.x) * _), ← grid.sum_const 1]
  refine Grid.sum_congr fun p sample => if_pos ?_
  obtain ⟨area, member, covered⟩ := covers p sample.surrounds
  exact ⟨area, member, covered.interior fun ring stands => (draws area member ring stands).clear sample⟩

/-- What a mosaic does not cover of a box lacks from its area. -/
theorem area_add_le (mosaic : Mosaic areas) (drawn : ∀ area ∈ areas, area.DrawnIn box)
    {small : Rect Rat} (wide : small.low.x < small.high.x) (tall : small.low.y < small.high.y)
    (apart : ∀ p, small.Surrounds p → box.Surrounds p ∧ ¬ ∃ area ∈ areas, area.Covers p) :
    (areas.map Polygon.area).sum + (small.high.x - small.low.x) * (small.high.y - small.low.y) ≤
      (box.high.x - box.low.x) * (box.high.y - box.low.y) := by
  have more : Mosaic (small.toPolygon :: areas) := by
    refine ⟨List.forall_mem_cons.mpr ⟨Rect.sound_toPolygon wide.le tall.le, mosaic.sound⟩,
      List.pairwise_cons.mpr ⟨fun area member p both => ?_, mosaic.apart⟩⟩
    have around := (covers_of_interior both.1).1
    exact (apart p (Rect.surrounds_of_ring wide.le tall.le around)).2
      ⟨area, member, covers_of_interior both.2⟩
  have drawn' : ∀ area ∈ small.toPolygon :: areas, area.DrawnIn box := by
    refine List.forall_mem_cons.mpr ⟨fun ring member => ?_, drawn⟩
    rw [List.mem_singleton.mp member]
    exact ⟨rfl, fun c corner => (apart c (Rect.surrounds_corner wide.le tall.le c corner)).1⟩
  have bound := area_le across along more drawn'
  rwa [List.map_cons, List.sum_cons, Rect.area_toPolygon wide.le tall.le, add_comm] at bound

/-- A mosaic covers a box just if it is as large as the box. -/
theorem covers_iff (mosaic : Mosaic areas) (drawn : ∀ area ∈ areas, area.DrawnIn box) :
    (∀ p, box.Surrounds p → ∃ area ∈ areas, area.Covers p) ↔
      (areas.map Polygon.area).sum = (box.high.x - box.low.x) * (box.high.y - box.low.y) := by
  refine ⟨mosaic.area_of_covers across along drawn, fun full p inside => ?_⟩
  by_contra uncovered
  push Not at uncovered
  have near := Nearby.forall_mem fun area member =>
    nearby_uncovered (drawn area member) (uncovered area member)
  obtain ⟨small, wide, tall, all⟩ := near.exists_box inside across along
  have less := mosaic.area_add_le across along drawn wide tall fun q within =>
    ⟨(all q within).1, fun ⟨area, member, covers⟩ => (all q within).2 area member covers⟩
  have positive := mul_pos (sub_pos.mpr wide) (sub_pos.mpr tall)
  linarith

end Mosaic

end GeoSearch
