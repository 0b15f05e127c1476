import GeoSearch.Proofs.Binary64.Difference
import GeoSearch.Proofs.Geometry.World
/-!
Geometries brought into the world. Turning a longitude and clamping a latitude are exact, so that both
can be read at the rationals. The box of what comes out is that of the frame, each coordinate brought
into the world by itself.
-/
namespace GeoSearch

open Binary64 (value magnitude)

variable {x y : Float} {t u : Rat} {c : Coord Float}

/-! ### Remainders -/

namespace Scalar

theorem truncate_of_nonneg (nonneg : 0 ≤ t) : truncate t = t.floor := if_neg (not_lt.mpr nonneg)

theorem truncate_neg (t : Rat) : truncate (-t) = -truncate t := by
  rcases lt_trichotomy t 0 with less | rfl | greater
  · rw [truncate_of_nonneg (neg_pos.mpr less).le, truncate, if_pos less, neg_neg]
  · rfl
  · rw [truncate_of_nonneg greater.le, truncate, if_pos (neg_neg_of_pos greater), neg_neg]

/-- The remainder of a division is the rational one. -/
theorem value_remainder (left : x.isFinite = true) (right : y.isFinite = true)
    (divisor : 0 < value y) : (remainder x y).isFinite = true ∧
      value (remainder x y) = remainder (value x) (value y) := by
  have same : value y = magnitude y := Binary64.value_of_pos divisor
  rw [same] at divisor ⊢
  obtain ⟨finite, exact⟩ := Binary64.value_remainder left right divisor
  refine ⟨finite, exact.trans ?_⟩
  have quotient : truncate (magnitude x / magnitude y) = (magnitude x / magnitude y).floor :=
    truncate_of_nonneg (div_nonneg (Binary64.magnitude_nonneg x) divisor.le)
  have model (r : Rat) :
      remainder r (magnitude y) = r - magnitude y * truncate (r / magnitude y) := rfl
  rw [model, value]
  split
  · rw [neg_div, truncate_neg, quotient, Binary64.rest]
    push_cast
    ring
  · rw [quotient, Binary64.rest]

end Scalar

/-! ### Turned longitudes -/

theorem floor_turns (t : Rat) :
    360 * ((t / 360).floor : Rat) ≤ t ∧ t < 360 * (t / 360).floor + 360 := by
  have low := Rat.floor_le (t / 360)
  have high := Rat.lt_floor_add_one (t / 360)
  rw [le_div_iff₀ (by norm_num)] at low
  rw [div_lt_iff₀ (by norm_num), Int.cast_add, Int.cast_one] at high
  constructor <;> linarith

/-- Whole turns of a longitude towards zero. -/
theorem truncated_turns (t : Rat) :
    let k := Scalar.truncate (t / 360)
    0 ≤ t ∧ 0 ≤ k ∧ 360 * (k : Rat) ≤ t ∧ t < 360 * k + 360 ∨
      t < 0 ∧ k ≤ 0 ∧ 360 * (k : Rat) - 360 < t ∧ t ≤ 360 * k := by
  have quotient (t : Rat) (nonneg : 0 ≤ t) : 0 ≤ t / 360 := div_nonneg nonneg (by norm_num)
  intro k
  rcases le_or_gt 0 t with nonneg | negative
  · have whole : k = (t / 360).floor := Scalar.truncate_of_nonneg (quotient t nonneg)
    rw [whole]
    exact .inl ⟨nonneg, Rat.le_floor_iff.mpr (quotient t nonneg), floor_turns t⟩
  · have positive := (neg_pos.mpr negative).le
    have whole : k = -(-t / 360).floor := by
      rw [← Scalar.truncate_of_nonneg (quotient _ positive), ← Scalar.truncate_neg, neg_div, neg_neg]
    have some : 0 ≤ (-t / 360).floor := Rat.le_floor_iff.mpr (quotient _ positive)
    obtain ⟨low, high⟩ := floor_turns (-t)
    rw [whole]
    push_cast
    exact .inr ⟨negative, by omega, by linarith, by linarith⟩

/-- A longitude and the same one in the world: whole turns apart, and at an end of the world only
from there or from beyond. -/
structure Turned (t u : Rat) : Prop where
  turns : ∃ k : Int, u = t - 360 * k
  west : -180 ≤ u
  east : u ≤ 180
  beyond_west : u = -180 → t ≤ -180
  beyond_east : u = 180 → 180 ≤ t

theorem remainder_turn (t : Rat) :
    Scalar.remainder t (360 : Rat) = t - 360 * Scalar.truncate (t / 360) := rfl

theorem wrapLongitude_rat (t : Rat) : wrapLongitude t =
    if 180 < Scalar.remainder t (360 : Rat) then Scalar.remainder t (360 : Rat) - 360
    else if Scalar.remainder t (360 : Rat) < -180 then Scalar.remainder t (360 : Rat) + 360
    else Scalar.remainder t (360 : Rat) := by
  simp [wrapLongitude, Scalar.lt, Scalar.ofInt]

theorem turned_wrapLongitude (t : Rat) : Turned t (wrapLongitude t) := by
  have turns := truncated_turns t
  rw [wrapLongitude_rat, remainder_turn]
  generalize Scalar.truncate (t / 360) = k at turns ⊢
  have side : 0 ≤ (k : Rat) ∧ 0 ≤ t - 360 * k ∧ t - 360 * k < 360 ∨
      (k : Rat) ≤ 0 ∧ -360 < t - 360 * k ∧ t - 360 * k ≤ 0 := by
    rcases turns with ⟨-, sign, low, high⟩ | ⟨-, sign, low, high⟩
    · exact .inl ⟨by exact_mod_cast sign, by linarith, by linarith⟩
    · exact .inr ⟨by exact_mod_cast sign, by linarith, by linarith⟩
  split
  · next east =>
    refine ⟨⟨k + 1, by push_cast; ring⟩, ?_, ?_, fun same => ?_, fun same => ?_⟩ <;>
      rcases side with ⟨_, _, _⟩ | ⟨_, _, _⟩ <;> linarith
  · next inner =>
    split
    · next west =>
      refine ⟨⟨k - 1, by push_cast; ring⟩, ?_, ?_, fun same => ?_, fun same => ?_⟩ <;>
        rcases side with ⟨_, _, _⟩ | ⟨_, _, _⟩ <;> linarith
    · next inner' =>
      refine ⟨⟨k, rfl⟩, not_lt.mp inner', not_lt.mp inner, fun same => ?_, fun same => ?_⟩ <;>
        rcases side with ⟨_, _, _⟩ | ⟨_, _, _⟩ <;> linarith

/-- There is one longitude in the world, its ends apart, that is whole turns away. -/
theorem turn_eq {j k : Int} (west : -180 ≤ t - 360 * j) (east : t - 360 * j ≤ 180)
    (west' : -180 < t - 360 * k) (east' : t - 360 * k < 180) : j = k := by
  have near : |((j - k : Int) : Rat)| < 1 := by
    rw [abs_lt]
    push_cast
    constructor <;> linarith
  have none : |j - k| < 1 := by exact_mod_cast near
  rw [Int.abs_lt_one_iff] at none
  omega

theorem Turned.eq (turned : Turned t u) {k : Int} (west : -180 < t - 360 * k)
    (east : t - 360 * k < 180) : u = t - 360 * k := by
  obtain ⟨j, same⟩ := turned.turns
  have equal : j = k := turn_eq (same ▸ turned.west) (same ▸ turned.east) west east
  rw [same, equal]

theorem scale_of_large (large : 128 ≤ |value x|) : -45 ≤ Binary64.scale x := by
  by_contra fine
  have short : (Binary64.significand x : Rat) < 2 ^ 53 := by exact_mod_cast Binary64.significand_lt x
  have unit : (0 : Rat) < 2 ^ Binary64.scale x := zpow_pos (by norm_num) _
  have step : (2 : Rat) ^ Binary64.scale x ≤ 2 ^ (-46 : Int) :=
    zpow_le_zpow_right₀ (by norm_num) (by omega)
  rw [Binary64.abs_value, Binary64.magnitude_eq] at large
  have small : (Binary64.significand x : Rat) * 2 ^ Binary64.scale x < 2 ^ 53 * 2 ^ (-46 : Int) :=
    mul_lt_mul short step unit (by positivity)
  norm_num at small
  linarith

theorem nonzero_of_large (large : 180 < |value x|) : value x ≠ 0 := by
  intro zero
  rw [zero, abs_zero] at large
  linarith

/-- A longitude beyond the world is no finer than this, and neither is a turn. -/
theorem unit_of_large (large : 180 < |value x|) : (256 : Rat) ≤
    2 ^ 53 * 2 ^ min (Binary64.scale x) (Binary64.scale (Scalar.ofInt 360 : Float)) := by
  have scale : Binary64.scale (Scalar.ofInt 360 : Float) = -44 := by decide
  have coarse : -45 ≤ Binary64.scale x := scale_of_large (by linarith)
  have step : (2 : Rat) ^ (-45 : Int) ≤
      2 ^ min (Binary64.scale x) (Binary64.scale (Scalar.ofInt 360 : Float)) :=
    zpow_le_zpow_right₀ (by norm_num) (by omega)
  have unit : (2 : Rat) ^ 53 * 2 ^ (-45 : Int) = 256 := by norm_num
  linarith

theorem value_sub_turn (finite : x.isFinite = true) (east : 180 < value x) (near : value x < 360) :
    (x - Scalar.ofInt 360).isFinite = true ∧ value (x - Scalar.ofInt 360) = value x - 360 := by
  obtain ⟨turn, -⟩ := finite_degrees
  obtain ⟨full, -⟩ := value_degrees
  have large : 180 < |value x| := east.trans_le (le_abs_self _)
  have unit := unit_of_large large
  have exact := Binary64.value_sub finite turn (nonzero_of_large large) (full ▸ by norm_num)
  rw [full] at exact
  apply exact
  rw [abs_lt]
  constructor <;> linarith

theorem value_add_turn (finite : x.isFinite = true) (west : value x < -180) (near : -360 < value x) :
    (x + Scalar.ofInt 360).isFinite = true ∧ value (x + Scalar.ofInt 360) = value x + 360 := by
  obtain ⟨turn, -⟩ := finite_degrees
  obtain ⟨full, -⟩ := value_degrees
  have large : 180 < |value x| := by
    rw [lt_abs]
    exact .inr (by linarith)
  have unit := unit_of_large large
  have exact := Binary64.value_add finite turn (nonzero_of_large large) (full ▸ by norm_num)
  rw [full] at exact
  apply exact
  rw [abs_lt]
  constructor <;> linarith

/-- Turning a longitude is exact. -/
theorem value_wrapLongitude (finite : x.isFinite = true) :
    (wrapLongitude x).isFinite = true ∧ value (wrapLongitude x) = wrapLongitude (value x) := by
  obtain ⟨turn, half, half', -⟩ := finite_degrees
  obtain ⟨full, value_half, value_half', -⟩ := value_degrees
  obtain ⟨known, exact⟩ := Scalar.value_remainder finite turn (full ▸ by norm_num)
  rw [full] at exact
  have near : -360 < Scalar.remainder (value x) (360 : Rat) ∧
      Scalar.remainder (value x) (360 : Rat) < 360 := by
    rw [remainder_turn]
    rcases truncated_turns (value x) with ⟨-, -, low, high⟩ | ⟨-, -, low, high⟩ <;>
      constructor <;> linarith
  rw [wrapLongitude_rat, ← exact, wrapLongitude]
  rw [← exact] at near
  generalize Scalar.remainder x (Scalar.ofInt 360) = r at known near
  simp only [Scalar.lt_iff half known, Scalar.lt_iff known half', value_half, value_half']
  split
  · next east => exact value_sub_turn known east near.2
  · split
    · next west => exact value_add_turn known west near.1
    · exact ⟨known, rfl⟩

/-! ### Clamped latitudes -/

theorem clampLatitude_rat (t : Rat) :
    clampLatitude t = if t < -90 then -90 else if 90 < t then 90 else t := by
  simp [clampLatitude, Scalar.clamp, Scalar.lt, Scalar.ofInt]

theorem clampLatitude_eq (t : Rat) : clampLatitude t = max (-90) (min t 90) := by
  rw [clampLatitude_rat]
  split
  · next south => rw [min_eq_left (by linarith), max_eq_left south.le]
  · next inner =>
    split
    · next north => rw [min_eq_right north.le, max_eq_right (by norm_num)]
    · next inner' => rw [min_eq_left (not_lt.mp inner'), max_eq_right (not_lt.mp inner)]

theorem clampLatitude_mono (order : t ≤ u) : clampLatitude t ≤ clampLatitude u := by
  rw [clampLatitude_eq, clampLatitude_eq]
  exact max_le_max_left _ (min_le_min_right _ order)

theorem clampLatitude_self (south : -90 ≤ t) (north : t ≤ 90) : clampLatitude t = t := by
  rw [clampLatitude_eq, min_eq_left north, max_eq_right south]

theorem value_clampLatitude (finite : x.isFinite = true) :
    (clampLatitude x).isFinite = true ∧ value (clampLatitude x) = clampLatitude (value x) := by
  obtain ⟨-, -, -, pole, pole'⟩ := finite_degrees
  obtain ⟨-, -, -, value_pole, value_pole'⟩ := value_degrees
  rw [clampLatitude_rat, clampLatitude, Scalar.clamp]
  simp only [Scalar.lt_iff finite pole', Scalar.lt_iff pole finite, value_pole, value_pole']
  split
  · exact ⟨pole', value_pole'⟩
  · split
    · exact ⟨pole, value_pole⟩
    · exact ⟨finite, rfl⟩

/-! ### Coordinates -/

namespace Coord

variable (finite : c.Finite)

include finite

theorem finite_intoWorld : c.intoWorld.Finite :=
  ⟨(value_wrapLongitude finite.1).1, (value_clampLatitude finite.2).1⟩

/-- Bringing a coordinate into the world is exact. -/
theorem exact_intoWorld : c.intoWorld.exact = c.exact.intoWorld := by
  rw [intoWorld, exact, (value_wrapLongitude finite.1).2, (value_clampLatitude finite.2).2]
  rfl

theorem inWorld_intoWorld : c.intoWorld.InWorld := by
  have turned := turned_wrapLongitude (value c.x)
  obtain ⟨longitude, latitude⟩ := Coord.mk.inj (exact_intoWorld finite)
  have clamped : c.exact.intoWorld.y = max (-90) (min (value c.y) 90) := clampLatitude_eq _
  rw [inWorld_iff (finite_intoWorld finite), longitude, latitude]
  refine ⟨⟨turned.west, turned.east⟩, ?_, ?_⟩
  · exact (le_max_left _ _).trans_eq clamped.symm
  · exact clamped.trans_le (max_le (by norm_num) (min_le_right _ _))

end Coord

/-! ### Bounds in the world -/

variable {coords written : List (Coord Float)} {box : Rect Float}

theorem framed_map_intoWorld (finite : ∀ c ∈ coords, c.Finite)
    (same : ∀ c, c ∈ written ↔ c ∈ coords.map Coord.intoWorld) :
    Framed (boundsOf written) (coords.map Coord.intoWorld) := by
  have known : ∀ c ∈ written, c.Finite := by
    intro c member
    obtain ⟨b, among, rfl⟩ := List.mem_map.mp ((same c).mp member)
    exact Coord.finite_intoWorld (finite b among)
  exact (framed_boundsOf known).of_mem_iff fun c => (same c).symm

/-- A box is rebuilt from its corners, which may then have changed sides. -/
theorem framed_rect_intoWorld {r : Rect Float} (finite : (Geometry.rect r).Finite) :
    (Rect.ofCorners r.low.intoWorld r.high.intoWorld).Frames (r.ring.map Coord.intoWorld) := by
  have low := Coord.finite_intoWorld (finite r.low (by simp [Geometry.coords, Rect.ring]))
  have high := Coord.finite_intoWorld (finite r.high (by simp [Geometry.coords, Rect.ring]))
  constructor
  · refine (ranges_pair low.1 high.1).of_mem_iff ?_
    simp [Rect.ring, Coord.intoWorld, or_comm]
  · refine (ranges_pair low.2 high.2).of_mem_iff ?_
    simp [Rect.ring, Coord.intoWorld]
    tauto

namespace Geometry

mutual

/-- The box of a geometry in the world is that of its frame, turned coordinate by coordinate. -/
theorem framed_intoWorld : ∀ g : Geometry Float, g.Finite →
    Framed g.intoWorld.bounds (g.frame.map Coord.intoWorld)
  | point c, finite =>
    have known := Coord.finite_intoWorld (finite c (List.mem_singleton_self c))
    ⟨ranges_single known.1, ranges_single known.2⟩
  | line _ _, finite => framed_map_intoWorld finite fun _ => Iff.rfl
  | lineString _, finite => framed_map_intoWorld finite fun _ => Iff.rfl
  | polygon p, finite =>
    framed_map_intoWorld (fun c member => finite c (frame_subset (polygon p) member))
      fun _ => mem_closeRing
  | multiPoint _, finite => framed_map_intoWorld finite fun _ => Iff.rfl
  | multiLineString ls, finite =>
    framed_map_intoWorld finite fun _ => by rw [frame, List.map_flatten]
  | multiPolygon ps, finite => by
    refine framed_map_intoWorld (fun c member => finite c (frame_subset (multiPolygon ps) member))
      fun c => ?_
    simp only [frame, Polygon.mapCoords, Polygon.ofRings, mem_closeRing, List.mem_flatMap, List.mem_map,
      exists_exists_and_eq_and]
    constructor
    · rintro ⟨p, stands, b, rim, rfl⟩
      exact ⟨b, ⟨p, stands, rim⟩, rfl⟩
    · rintro ⟨b, ⟨p, stands, rim⟩, rfl⟩
      exact ⟨p, stands, b, rim, rfl⟩
  | collection gs, finite =>
    have start : Framed none ([].map Coord.intoWorld) := rfl
    framed_members_intoWorld gs finite start
  | rect _, finite => framed_rect_intoWorld finite
  | triangle _ _ _, finite => framed_map_intoWorld finite fun _ => Iff.rfl

theorem framed_members_intoWorld : ∀ (gs : List (Geometry Float)) {found : Option (Rect Float)}
    {coords : List (Coord Float)}, (∀ c ∈ memberCoords gs, c.Finite) → Framed found coords →
      Framed (memberBounds (mapMembers Coord.intoWorld gs) found)
        (coords ++ (memberFrames gs).map Coord.intoWorld)
  | [], found, coords, _, known => by
    rw [memberFrames, List.map_nil, List.append_nil]
    exact known
  | g :: gs, found, coords, finite, known => by
    have here := framed_intoWorld g fun c member => finite c (List.mem_append_left _ member)
    have there := framed_members_intoWorld gs (fun c member => finite c (List.mem_append_right _ member))
      (framed_mergeBounds known here)
    rw [memberFrames, List.map_append, ← List.append_assoc]
    exact there

end

end Geometry

namespace Rect.Frames

variable (frames : box.Frames coords) (inside : ∀ c ∈ coords, c.InWorld)

include frames inside

/-- The corners of a box around coordinates of the world are in the world. -/
theorem inWorld : box.low.InWorld ∧ box.high.InWorld := by
  obtain ⟨west, east⟩ := frames.across.within (List.forall_mem_map.mpr fun c member =>
    (inside c member).degrees.1)
  obtain ⟨south, north⟩ := frames.along.within (List.forall_mem_map.mpr fun c member =>
    (inside c member).degrees.2)
  have order := frames.across.low_le_high
  have order' := frames.along.low_le_high
  obtain ⟨low, high⟩ := frames.finite
  rw [Coord.inWorld_iff low, Coord.inWorld_iff high]
  exact ⟨⟨⟨west, order.trans east⟩, south, order'.trans north⟩, ⟨west.trans order, east⟩,
    south.trans order', north⟩

end Rect.Frames

namespace Geometry

variable {g h : Geometry Float}

/-- The bounds of a literal in the world. -/
theorem bounds_intoWorld (finite : g.Finite) (bounded : g.intoWorld.bounds = some box) :
    box.Frames (g.frame.map Coord.intoWorld) ∧ box.low.InWorld ∧ box.high.InWorld := by
  have framed := framed_intoWorld g finite
  rw [bounded] at framed
  have frames : box.Frames (g.frame.map Coord.intoWorld) := framed
  refine ⟨frames, frames.inWorld (List.forall_mem_map.mpr fun c member => ?_)⟩
  exact Coord.inWorld_intoWorld (finite c (frame_subset g member))

/-- A literal with coordinates that count for its bounds has bounds in the world. -/
theorem exists_bounds_intoWorld (finite : g.Finite) (member : c ∈ g.frame) :
    ∃ box, g.intoWorld.bounds = some box := by
  have framed := framed_intoWorld g finite
  cases bounded : g.intoWorld.bounds with
  | some box => exact ⟨box, rfl⟩
  | none =>
    rw [bounded] at framed
    have nothing : g.frame.map Coord.intoWorld = [] := framed
    exact absurd (List.mem_map_of_mem member) (nothing ▸ List.not_mem_nil)

/-- Bounds of the whole world reach across it. -/
theorem ends_of_isWorld (whole : h.isWorld = true) (bounded : h.bounds = some box)
    (finite : box.Finite) : value box.low.x ≤ -180 ∧ 180 ≤ value box.high.x := by
  have same : box.same world = true := by
    rw [isWorld, bounded] at whole
    exact (Bool.and_eq_true_iff.mp whole).1
  obtain ⟨least, most⟩ := Bool.and_eq_true_iff.mp same
  have low := (Coord.exact_of_same finite.1 finite_world.1 least).trans exact_world.1
  have high := (Coord.exact_of_same finite.2 finite_world.2 most).trans exact_world.2
  exact ⟨(Coord.mk.inj low).1.le, (Coord.mk.inj high).1.ge⟩

theorem isEmpty_eq_false (member : c ∈ g.frame) : g.isEmpty = false := by
  have written : g.coords ≠ [] := List.ne_nil_of_mem (frame_subset g member)
  exact Bool.eq_false_iff.mpr (mt List.isEmpty_iff.mp written)

/-- A literal without coordinates has no bounds in the world either. -/
theorem bounds_of_isEmpty (finite : g.Finite) (empty : g.isEmpty = true) :
    g.intoWorld.bounds = none := by
  cases bounded : g.intoWorld.bounds with
  | none => rfl
  | some box =>
    obtain ⟨c, member⟩ := (bounds_intoWorld finite bounded).1.exists_mem
    obtain ⟨b, written, -⟩ := List.mem_map.mp member
    rw [isEmpty_eq_false written] at empty
    cases empty

theorem bounds_of_isWorld (whole : h.isWorld = true) : h.bounds.isSome = true := by
  unfold isWorld at whole
  split at whole
  · next bounded => rw [bounded, Option.isSome_some]
  · cases whole

end Geometry

/-! ### Areas in the world -/

/-- Rings closed again have the coordinates that they had. -/
theorem Polygon.mem_ofRings {exterior : List (Coord Float)} {interiors : List (List (Coord Float))} :
    c ∈ (Polygon.ofRings exterior interiors).coords ↔ c ∈ exterior ++ interiors.flatten := by
  simp [ofRings, coords, mem_closeRing]

theorem Polygon.inWorld_intoWorld {p : Polygon Float} (finite : ∀ c ∈ p.coords, c.Finite) :
    ∀ c ∈ (p.mapCoords Coord.intoWorld).coords, c.InWorld := by
  intro c member
  rw [mapCoords, mem_ofRings, ← List.map_flatten, ← List.map_append] at member
  obtain ⟨d, stands, rfl⟩ := List.mem_map.mp member
  exact Coord.inWorld_intoWorld (finite d stands)

theorem inWorld_map_intoWorld (finite : ∀ c ∈ coords, c.Finite) :
    ∀ c ∈ coords.map Coord.intoWorld, c.InWorld :=
  List.forall_mem_map.mpr fun c member => Coord.inWorld_intoWorld (finite c member)

theorem Rect.inWorld_intoWorld {r : Rect Float} (finite : (Geometry.rect r).Finite) :
    let box := Rect.ofCorners r.low.intoWorld r.high.intoWorld
    box.low.InWorld ∧ box.high.InWorld := by
  have ring : ∀ c ∈ r.ring, c.Finite := fun c member =>
    finite c (Geometry.frame_subset (.rect r) member)
  exact (framed_rect_intoWorld finite).inWorld (inWorld_map_intoWorld ring)

theorem Rect.inWorld_ring (low : box.low.InWorld) (high : box.high.InWorld) :
    ∀ c ∈ box.ring, c.InWorld := by
  intro c member
  simp only [ring, List.mem_cons, List.not_mem_nil, or_false] at member
  rcases member with rfl | rfl | rfl | rfl | rfl
  · exact ⟨high.1, low.2⟩
  · exact high
  · exact ⟨low.1, high.2⟩
  · exact low
  · exact ⟨high.1, low.2⟩

end GeoSearch
