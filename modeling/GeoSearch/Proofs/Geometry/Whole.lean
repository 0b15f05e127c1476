import GeoSearch.Proofs.Geometry.Area
/-!
Literals that are taken for the world. Their area is that of the world, but for a tolerance and what its
sum is rounded by. A mosaic of such an area leaves no larger gap, and none if its corners are in whole
degrees; of areas that overlap nothing follows.
-/
namespace GeoSearch

open Binary64 (value)

/-! ### Rings in the world -/

theorem world_rat : (world : Rect Rat) = ⟨⟨-180, -90⟩, ⟨180, 90⟩⟩ := by
  simp [world, Scalar.ofInt]

theorem Coord.InWorld.surrounds {c : Coord Float} (inside : c.InWorld) :
    (world : Rect Rat).Surrounds c.exact := by
  obtain ⟨⟨west, east⟩, south, north⟩ := inside.degrees
  rw [world_rat]
  exact ⟨west, east, south, north⟩

structure Polygon.DrawnWith (p : Polygon Float) (coords : List (Coord Float)) : Prop where
  closed : ∀ ring ∈ p.exact.rings, Closed ring
  corners : ∀ c ∈ p.coords, c ∈ coords

namespace Polygon.DrawnWith

variable {p : Polygon Float} {coords more : List (Coord Float)}

theorem mono (drawn : p.DrawnWith coords) (subset : coords ⊆ more) : p.DrawnWith more :=
  ⟨drawn.closed, fun c member => subset (drawn.corners c member)⟩

theorem exists_corner (drawn : p.DrawnWith coords) {ring : List Position}
    (member : ring ∈ p.exact.rings) {c : Position} (corner : c ∈ ring) :
    ∃ d ∈ coords, d.exact = c := by
  rcases List.mem_cons.mp member with rfl | hole
  · obtain ⟨d, stands, rfl⟩ := List.mem_map.mp corner
    exact ⟨d, drawn.corners d (List.mem_append_left _ stands), rfl⟩
  · obtain ⟨written, among, rfl⟩ := List.mem_map.mp hole
    obtain ⟨d, stands, rfl⟩ := List.mem_map.mp corner
    exact ⟨d, drawn.corners d (List.mem_append_right _ (List.mem_flatten_of_mem among stands)), rfl⟩

theorem drawnIn_world (drawn : p.DrawnWith coords) (inside : ∀ c ∈ coords, c.InWorld) :
    p.exact.DrawnIn world := by
  refine fun ring member => ⟨drawn.closed ring member, fun c corner => ?_⟩
  obtain ⟨d, stands, rfl⟩ := drawn.exists_corner member corner
  exact (inside d stands).surrounds

theorem ofRings {exterior : List (Coord Float)} {interiors : List (List (Coord Float))}
    (finite : ∀ c ∈ exterior ++ interiors.flatten, c.Finite) :
    (Polygon.ofRings exterior interiors).DrawnWith (exterior ++ interiors.flatten) := by
  refine ⟨List.forall_mem_cons.mpr ⟨?_, ?_⟩, fun c member => mem_ofRings.mp member⟩
  · exact closed_closeRing fun c member => finite c (List.mem_append_left _ member)
  · intro ring member
    obtain ⟨closed, among, rfl⟩ := List.mem_map.mp member
    obtain ⟨hole, stands, rfl⟩ := List.mem_map.mp among
    exact closed_closeRing fun c corner =>
      finite c (List.mem_append_right _ (List.mem_flatten_of_mem stands corner))

theorem mapCoords_intoWorld (finite : ∀ c ∈ p.coords, c.Finite) :
    (p.mapCoords Coord.intoWorld).DrawnWith (p.coords.map Coord.intoWorld) := by
  have coords : p.coords.map Coord.intoWorld = p.exterior.map Coord.intoWorld ++
      (p.interiors.map (List.map Coord.intoWorld)).flatten := by
    rw [Polygon.coords, List.map_append, List.map_flatten]
  rw [coords]
  refine ofRings fun c member => ?_
  rw [← coords] at member
  exact (inWorld_map_intoWorld finite c member).finite

/-- The corners of a box from turned corners are turned corners. -/
theorem rect_intoWorld (r : Rect Float) :
    (Rect.ofCorners r.low.intoWorld r.high.intoWorld).toPolygon.DrawnWith
      (r.ring.tail.map Coord.intoWorld) := by
  refine ⟨fun ring member => ?_, fun c member => ?_⟩
  · rw [List.mem_singleton.mp member]
    rfl
  · by_cases across : Scalar.lt r.low.intoWorld.x r.high.intoWorld.x = true <;>
      by_cases along : Scalar.lt r.low.intoWorld.y r.high.intoWorld.y = true <;>
      simp [Polygon.coords, Rect.toPolygon, Rect.ofCorners, Rect.ring, across, along] at member <;>
      simp [Rect.ring] <;> tauto

end Polygon.DrawnWith

namespace Geometry

mutual

theorem drawnWith_intoWorld : ∀ g : Geometry Float, g.Finite → ∀ p ∈ g.intoWorld.areas,
    p.DrawnWith (g.coords.map Coord.intoWorld)
  | polygon p, finite, _, member => by
    rw [List.mem_singleton.mp member]
    exact .mapCoords_intoWorld finite
  | multiPolygon ps, finite, _, member => by
    obtain ⟨p, stands, rfl⟩ := List.mem_map.mp member
    have subset : p.coords ⊆ (multiPolygon ps).coords := fun c corner =>
      List.mem_flatMap.mpr ⟨p, stands, corner⟩
    exact (Polygon.DrawnWith.mapCoords_intoWorld fun c corner => finite c (subset corner)).mono
      (List.map_subset _ subset)
  | collection gs, finite, p, member => drawnWith_members gs finite p member
  | rect r, _, _, member => by
    rw [List.mem_singleton.mp member]
    exact .rect_intoWorld r
  | triangle a b c, finite, _, member => by
    rw [List.mem_singleton.mp member]
    have corners := @inWorld_map_intoWorld [a, b, c] finite
    refine (Polygon.DrawnWith.ofRings fun d corner => (corners d ?_).finite).mono fun d corner => ?_ <;>
      simp [coords] at corner ⊢ <;> tauto
  | point _, _, _, member | line _ _, _, _, member | lineString _, _, _, member
  | multiPoint _, _, _, member | multiLineString _, _, _, member => nomatch member

theorem drawnWith_members : ∀ gs : List (Geometry Float), (∀ c ∈ memberCoords gs, c.Finite) →
    ∀ p ∈ memberAreas (mapMembers Coord.intoWorld gs),
      p.DrawnWith ((memberCoords gs).map Coord.intoWorld)
  | [], _, _, member => nomatch member
  | g :: gs, finite, p, member => by
    rcases List.mem_append.mp member with here | there
    · refine (drawnWith_intoWorld g (fun c stands => finite c ?_) p here).mono (List.map_subset _ ?_)
      · exact List.mem_append_left _ stands
      · exact List.subset_append_left _ _
    · refine (drawnWith_members gs (fun c stands => finite c ?_) p there).mono (List.map_subset _ ?_)
      · exact List.mem_append_right _ stands
      · exact List.subset_append_right _ _

end

theorem drawnIn_world {g : Geometry Float} (finite : g.Finite) :
    ∀ area ∈ g.intoWorld.exactAreas, area.DrawnIn world := by
  intro area member
  obtain ⟨p, stands, rfl⟩ := List.mem_map.mp member
  exact (drawnWith_intoWorld g finite p stands).drawnIn_world (inWorld_map_intoWorld finite)

end Geometry

/-! ### Whole degrees -/

def Coord.Integral (p : Position) : Prop := ∃ m n : Int, p = ⟨m, n⟩

theorem Coord.integral_iff {p : Position} : p.x.den = 1 ∧ p.y.den = 1 ↔ p.Integral := by
  constructor
  · intro ⟨across, along⟩
    exact ⟨p.x.num, p.y.num,
      congrArg₂ Coord.mk ((Rat.den_eq_one_iff _).mp across).symm ((Rat.den_eq_one_iff _).mp along).symm⟩
  · rintro ⟨m, n, rfl⟩
    exact ⟨Rat.den_intCast m, Rat.den_intCast n⟩

instance (p : Position) : Decidable p.Integral := decidable_of_iff _ Coord.integral_iff

theorem Coord.Integral.intoWorld {p : Position} (integral : p.Integral) : p.intoWorld.Integral := by
  obtain ⟨m, n, rfl⟩ := integral
  obtain ⟨k, turned⟩ := (turned_wrapLongitude m).turns
  refine ⟨m - 360 * k, max (-90) (min n 90), congrArg₂ Coord.mk ?_ ?_⟩
  · rw [turned]
    push_cast
    rfl
  · rw [clampLatitude_eq]
    push_cast
    rfl

def halves : AddSubgroup Rat := .zmultiples (1 / 2)

theorem mem_halves {q : Rat} : q ∈ halves ↔ ∃ k : Int, q = k / 2 := by
  simp only [halves, AddSubgroup.mem_zmultiples_iff, zsmul_eq_mul, mul_one_div, eq_comm]

/-- A ring that turns in whole degrees has a whole double area. -/
theorem ringArea_mem_halves {ring : List Position} (closed : Closed ring)
    (integral : ∀ c ∈ ring, c.Integral) : ringArea ring ∈ halves := by
  rw [ringArea_eq closed 0]
  refine list_sum_mem fun t member => ?_
  obtain ⟨s, side, rfl⟩ := List.mem_map.mp member
  obtain ⟨first, second⟩ := List.of_mem_zip side
  obtain ⟨a, b, start⟩ := integral _ first
  obtain ⟨c, d, stop⟩ := integral _ (List.mem_of_mem_tail second)
  refine mem_halves.mpr ⟨(d - b) * (a + c), ?_⟩
  rw [areaBeside, start, stop]
  push_cast
  ring

theorem Polygon.area_mem_halves {area : Polygon Rat}
    (integral : ∀ ring ∈ area.rings, Closed ring ∧ ∀ c ∈ ring, c.Integral) : area.area ∈ halves := by
  have each {ring : List Position} (member : ring ∈ area.rings) : |ringArea ring| ∈ halves :=
    abs_mem_iff.mpr (ringArea_mem_halves (integral ring member).1 (integral ring member).2)
  rw [area_eq, abs_mem_iff]
  refine sub_mem (each List.mem_cons_self) (list_sum_mem fun t member => ?_)
  obtain ⟨hole, stands, rfl⟩ := List.mem_map.mp member
  exact each (List.mem_cons_of_mem _ stands)

/-- Multiples of one half that are closer than that are equal. -/
theorem eq_of_near {q r : Rat} (first : q ∈ halves) (second : r ∈ halves) (near : |q - r| < 1 / 2) :
    q = r := by
  obtain ⟨k, apart⟩ := mem_halves.mp (sub_mem first second)
  rw [apart, abs_div, abs_two, div_lt_div_iff_of_pos_right two_pos, ← Int.cast_abs] at near
  have none : k = 0 := Int.abs_lt_one_iff.mp (by exact_mod_cast near)
  rw [none, Int.cast_zero, zero_div] at apart
  exact sub_eq_zero.mp apart

namespace Geometry

variable {g : Geometry Float} (finite : g.Finite)

include finite

theorem exactArea_mem_halves (integral : ∀ c ∈ g.coords, c.exact.Integral) :
    g.intoWorld.exactArea ∈ halves := by
  refine list_sum_mem fun t member => ?_
  obtain ⟨area, among, rfl⟩ := List.mem_map.mp member
  obtain ⟨p, stands, rfl⟩ := List.mem_map.mp among
  have drawn := drawnWith_intoWorld g finite p stands
  refine Polygon.area_mem_halves fun ring member => ⟨drawn.closed ring member, fun c corner => ?_⟩
  obtain ⟨d, turned, rfl⟩ := drawn.exists_corner member corner
  obtain ⟨b, written, rfl⟩ := List.mem_map.mp turned
  rw [Coord.exact_intoWorld (finite b written)]
  exact (integral b written).intoWorld

/-! ### Areas within the tolerance -/

omit finite

/-- The tolerance, and what the terms of an area are rounded by. -/
def slack (g : Geometry Float) : Rat := value (areaTolerance : Float) + g.terms ^ 2 / 2 ^ 31

theorem areaTolerance_lt : value (areaTolerance : Float) < 2 / 10 ^ 9 := by decide +kernel

/-- Less than a tolerance apart by a rounded difference is less than it apart. -/
theorem near_of_isWorld {n : Nat} {q : Rat} (whole : g.isWorld = true) (known : Measured g.area q n)
    (few : n ≤ mostTerms) : |value g.area - 64800| < value (areaTolerance : Float) := by
  have worldArea : ((world : Rect Float).width * (world : Rect Float).height).isFinite = true ∧
      value ((world : Rect Float).width * (world : Rect Float).height) = 64800 := by decide +kernel
  have tolerance : (areaTolerance : Float).isFinite = true := by decide
  obtain ⟨_, finite, size, -⟩ := known
  unfold isWorld at whole
  split at whole
  · have close := (Bool.and_eq_true_iff.mp whole).2
    have rounds := Binary64.rounds_sub finite worldArea.1
    rw [worldArea.2] at rounds
    generalize g.area - (world : Rect Float).width * (world : Rect Float).height = apart at close rounds
    have short : |value g.area - 64800| ≤ (n * 2 ^ 17 + 64800 : Nat) := by
      refine (abs_sub _ _).trans ?_
      rw [abs_of_pos (by norm_num : (0 : Rat) < 64800)]
      push_cast at size ⊢
      linarith
    have fits : n * 2 ^ 17 + 64800 < 2 ^ 53 := by
      unfold mostTerms at few
      omega
    have bounded := (rounds.abs_value_le fits short).1
    have bare : Scalar.abs apart = Binary64.withSign .positive apart := Binary64.abs_eq bounded
    rw [bare, Scalar.lt_iff (Binary64.finite_withSign _ bounded) tolerance,
      Binary64.value_withSign _ bounded, ← Binary64.abs_value, abs_lt] at close
    -- what is at least the tolerance is not rounded below it
    have opposite := Binary64.finite_neg tolerance
    rw [← Binary64.value_neg tolerance] at close
    rw [abs_lt, ← Binary64.value_neg tolerance]
    exact ⟨lt_of_not_ge fun beyond => close.1.not_ge (rounds.value_le opposite beyond),
      lt_of_not_ge fun beyond => close.2.not_ge (rounds.le_value tolerance beyond)⟩
  · cases whole

theorem isWorld_of_sanitize (whole : g.sanitize = .world) : g.intoWorld.isWorld = true := by
  unfold sanitize at whole
  split at whole
  · cases whole
  · split at whole
    · next filled => exact filled
    · cases whole

/-- A literal that is taken for the world is as large as the world, but for the slack. -/
theorem exactArea_near (finite : g.Finite) (few : g.intoWorld.terms ≤ mostTerms)
    (whole : g.sanitize = .world) : |g.intoWorld.exactArea - 64800| < g.intoWorld.slack := by
  have known := measured_intoWorld g finite few
  have close := near_of_isWorld (isWorld_of_sanitize whole) known few
  have rounded := known.2.near
  have through := abs_sub_le g.intoWorld.exactArea (value g.intoWorld.area) 64800
  rw [abs_sub_comm] at rounded
  unfold slack
  linarith

theorem slack_lt (few : g.terms < 2 ^ 14) : g.slack < 1 / 2 := by
  have some : (g.terms : Rat) ≤ 2 ^ 14 := by exact_mod_cast few.le
  have square : (g.terms : Rat) ^ 2 ≤ (2 ^ 14) ^ 2 := pow_le_pow_left₀ (Nat.cast_nonneg _) some 2
  have tolerance := areaTolerance_lt
  unfold slack
  linarith

/-! ### Coverage of the world -/

def CoversWorld (g : Geometry Float) : Prop := ∀ p, (world : Rect Rat).Surrounds p → g.Covers p

structure Gap (g : Geometry Float) (gap : Rect Rat) : Prop where
  wide : gap.low.x < gap.high.x
  tall : gap.low.y < gap.high.y
  uncovered : ∀ p, gap.Surrounds p → (world : Rect Rat).Surrounds p ∧ ¬ g.Covers p

section

variable (finite : g.Finite) (mosaic : Mosaic g.intoWorld.exactAreas)

include finite mosaic

theorem coversWorld_iff : g.intoWorld.CoversWorld ↔ g.intoWorld.exactArea = 64800 := by
  have drawn := drawnIn_world finite
  rw [world_rat] at drawn
  have covered := mosaic.covers_iff (by norm_num) (by norm_num) drawn
  unfold CoversWorld
  rw [world_rat]
  refine covered.trans ?_
  norm_num [exactArea]

theorem gap_le {gap : Rect Rat} (left : g.intoWorld.Gap gap) :
    (gap.high.x - gap.low.x) * (gap.high.y - gap.low.y) ≤ 64800 - g.intoWorld.exactArea := by
  have drawn := drawnIn_world finite
  have uncovered := left.uncovered
  rw [world_rat] at drawn uncovered
  have sum := mosaic.area_add_le (by norm_num) (by norm_num) drawn left.wide left.tall uncovered
  norm_num at sum
  unfold exactArea
  linarith

end

/-- A literal is taken for the world by the sum of its areas. It has the area of the world but for the
slack, and if its areas are a mosaic, it leaves no larger gap. A mosaic in whole degrees leaves none. -/
theorem sanitize_world (g : Geometry Float) (finite : g.Finite) (few : g.intoWorld.terms ≤ mostTerms)
    (whole : g.sanitize = .world) :
    |g.intoWorld.exactArea - 64800| < g.intoWorld.slack ∧
      (Mosaic g.intoWorld.exactAreas →
        (g.intoWorld.CoversWorld ↔ g.intoWorld.exactArea = 64800) ∧
        (∀ gap, g.intoWorld.Gap gap →
          (gap.high.x - gap.low.x) * (gap.high.y - gap.low.y) < g.intoWorld.slack) ∧
        ((∀ c ∈ g.coords, c.exact.Integral) → g.intoWorld.terms < 2 ^ 14 → g.intoWorld.CoversWorld)) := by
  have near := exactArea_near finite few whole
  refine ⟨near, fun mosaic => ⟨coversWorld_iff finite mosaic, fun gap left => ?_, fun integral short => ?_⟩⟩
  · rw [abs_sub_comm] at near
    exact (gap_le finite mosaic left).trans_lt ((le_abs_self _).trans_lt near)
  · have full : (64800 : Rat) ∈ halves := mem_halves.mpr ⟨129600, by norm_num⟩
    refine (coversWorld_iff finite mosaic).mpr (eq_of_near ?_ full (near.trans (slack_lt short)))
    exact exactArea_mem_halves finite integral

def hemispheres : Geometry Float :=
  .collection [.rect ⟨world.low, ⟨0, 90⟩⟩, .rect ⟨⟨0, -90⟩, world.high⟩]

theorem exactAreas_hemispheres : hemispheres.intoWorld.exactAreas =
    [(⟨⟨-180, -90⟩, ⟨0, 90⟩⟩ : Rect Rat).toPolygon, (⟨⟨0, -90⟩, ⟨180, 90⟩⟩ : Rect Rat).toPolygon] := by
  decide +kernel

theorem mosaic_hemispheres : Mosaic hemispheres.intoWorld.exactAreas := by
  rw [exactAreas_hemispheres]
  apply Mosaic.pair <;> norm_num

theorem sanitize_world_of_hemispheres : hemispheres.Finite ∧ hemispheres.intoWorld.terms ≤ mostTerms ∧
    hemispheres.sanitize = .world ∧ hemispheres.intoWorld.CoversWorld := by
  have finite : hemispheres.Finite := by decide
  have few : hemispheres.intoWorld.terms < 2 ^ 14 := by decide
  have whole : hemispheres.sanitize = .world := by
    have filled : hemispheres.intoWorld.isWorld = true := by decide +kernel
    rw [sanitize, filled]
    rfl
  have short : hemispheres.intoWorld.terms ≤ mostTerms := by decide
  have integral : ∀ c ∈ hemispheres.coords, c.exact.Integral := by decide +kernel
  obtain ⟨-, covered⟩ := sanitize_world hemispheres finite short whole
  exact ⟨finite, short, whole, (covered mosaic_hemispheres).2.2 integral few⟩

def belowDiagonal : Polygon Float :=
  ⟨[⟨-180, -90⟩, ⟨180, -90⟩, ⟨180, 90⟩, ⟨-180, -90⟩], []⟩

/-- Half the world, twice, is taken for the world. -/
theorem half_of_the_world_counts_twice :
    ¬ ∀ g : Geometry Float, g.Finite → g.sanitize = .world → g.intoWorld.CoversWorld := by
  intro claimed
  have finite : (multiPolygon [belowDiagonal, belowDiagonal]).Finite := by decide
  have whole : (multiPolygon [belowDiagonal, belowDiagonal]).sanitize = .world := by
    have filled : (multiPolygon [belowDiagonal, belowDiagonal]).intoWorld.isWorld = true := by
      decide +kernel
    rw [sanitize, filled]
    rfl
  have inside : (world : Rect Rat).Surrounds ⟨-170, 80⟩ := by
    rw [world_rat]
    constructor <;> norm_num
  have areas : (multiPolygon [belowDiagonal, belowDiagonal]).intoWorld.exactAreas =
      [belowDiagonal.exact, belowDiagonal.exact] := by decide +kernel
  obtain ⟨area, member, around, -⟩ := claimed _ finite whole _ inside
  rw [areas] at member
  have only : area = belowDiagonal.exact := by simpa using member
  rw [only] at around
  exact around (by decide +kernel)

end Geometry

end GeoSearch
