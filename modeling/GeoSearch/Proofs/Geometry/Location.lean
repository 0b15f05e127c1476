import GeoSearch.Geometry.Location
import Mathlib.Algebra.BigOperators.Group.List.Basic
import Mathlib.Data.Rat.Defs
import Mathlib.Algebra.Order.Field.Rat
import Mathlib.Tactic.Linarith
import Mathlib.Tactic.Ring
/-!
What a position lies between. A position that is not outside a geometry lies, in both coordinates,
between two of the positions that the geometry is drawn with. For areas this rests on the winding
number: seen from beyond all positions of a closed ring, what goes up comes down again.
-/
namespace GeoSearch

structure Spans (positions : List Position) (p : Position) : Prop where
  left : ∃ a ∈ positions, a.x ≤ p.x
  right : ∃ a ∈ positions, p.x ≤ a.x
  below : ∃ a ∈ positions, a.y ≤ p.y
  above : ∃ a ∈ positions, p.y ≤ a.y

variable {positions wider : List Position} {p : Position}

theorem Spans.mono (spans : Spans positions p) (part : positions ⊆ wider) : Spans wider p where
  left := spans.left.imp fun _ found => ⟨part found.1, found.2⟩
  right := spans.right.imp fun _ found => ⟨part found.1, found.2⟩
  below := spans.below.imp fun _ found => ⟨part found.1, found.2⟩
  above := spans.above.imp fun _ found => ⟨part found.1, found.2⟩

theorem spans_of_mem (member : p ∈ positions) : Spans positions p :=
  ⟨⟨p, member, le_rfl⟩, ⟨p, member, le_rfl⟩, ⟨p, member, le_rfl⟩, ⟨p, member, le_rfl⟩⟩

/-! ### Paths -/

theorem mem_of_mem_segments {path : List Position} {s : Position × Position}
    (member : s ∈ segments path) : s.1 ∈ path ∧ s.2 ∈ path :=
  ⟨(List.of_mem_zip member).1, List.mem_of_mem_tail (List.of_mem_zip member).2⟩

theorem between_iff {a b x : Rat} : between a b x = true ↔ a ≤ x ∧ x ≤ b ∨ b ≤ x ∧ x ≤ a := by
  simp [between]

theorem spans_of_onSegment {s : Position × Position} (first : s.1 ∈ positions)
    (second : s.2 ∈ positions) (on : onSegment s p = true) : Spans positions p := by
  simp only [onSegment, Bool.and_eq_true, between_iff] at on
  obtain ⟨⟨-, across⟩, along⟩ := on
  constructor
  · rcases across with ⟨low, -⟩ | ⟨low, -⟩
    · exact ⟨s.1, first, low⟩
    · exact ⟨s.2, second, low⟩
  · rcases across with ⟨-, high⟩ | ⟨-, high⟩
    · exact ⟨s.2, second, high⟩
    · exact ⟨s.1, first, high⟩
  · rcases along with ⟨low, -⟩ | ⟨low, -⟩
    · exact ⟨s.1, first, low⟩
    · exact ⟨s.2, second, low⟩
  · rcases along with ⟨-, high⟩ | ⟨-, high⟩
    · exact ⟨s.2, second, high⟩
    · exact ⟨s.1, first, high⟩

theorem spans_of_onPath {path : List Position} (on : onPath path p = true) : Spans path p := by
  unfold onPath at on
  split at on
  · next q =>
    obtain rfl : q = p := by simpa using on
    exact spans_of_mem (List.mem_singleton_self q)
  · obtain ⟨s, member, on⟩ := List.any_eq_true.mp on
    obtain ⟨first, second⟩ := mem_of_mem_segments member
    exact spans_of_onSegment first second on

/-! ### Rings -/

def Closed (path : List Position) : Prop := path.head? = path.getLast?

theorem windingNumber_eq_sum (ring : List Position) (p : Position) :
    windingNumber ring p = ((segments ring).map (crossing p)).sum := by
  rw [windingNumber, List.sum_eq_foldl, List.foldl_map]

/-- What is gained from each item to the next one is in all the difference of the ends. -/
theorem sum_steps {α β : Type} [AddCommGroup β] (gain : α → β) (first : α) (rest : List α) :
    (((first :: rest).zip rest).map fun s => gain s.2 - gain s.1).sum =
      gain ((first :: rest).getLast (List.cons_ne_nil first rest)) - gain first := by
  induction rest generalizing first with
  | nil => simp
  | cons second rest ih =>
    rw [List.zip_cons_cons, List.map_cons, List.sum_cons, ih second, List.getLast_cons_cons]
    exact sub_add_sub_cancel' ..

/-- A closed path gains nothing. -/
theorem sum_segments {β : Type} [AddCommGroup β] (gain : Position → β) {path : List Position}
    (closed : Closed path) : ((segments path).map fun s => gain s.2 - gain s.1).sum = 0 := by
  cases path with
  | nil => rfl
  | cons first rest =>
    have ends : (first :: rest).getLast (List.cons_ne_nil first rest) = first := by
      unfold Closed at closed
      rw [List.head?_cons, List.getLast?_eq_some_getLast (List.cons_ne_nil first rest)] at closed
      exact (Option.some.inj closed).symm
    rw [segments, List.tail_cons, sum_steps, ends, sub_self]

theorem orientation_eq (a b p : Position) :
    orientation a b p = (b.x - p.x) * (p.y - a.y) + (a.x - p.x) * (b.y - p.y) := by
  unfold orientation
  ring

theorem heights_of_crossing {s : Position × Position} (crosses : crossing p s ≠ 0) :
    s.1.y ≤ p.y ∧ p.y < s.2.y ∨ s.2.y ≤ p.y ∧ p.y < s.1.y := by
  unfold crossing at crosses
  split at crosses
  · next low =>
    split at crosses
    · next up => exact .inl ⟨low, up.1⟩
    · exact absurd rfl crosses
  · next high =>
    split at crosses
    · next down => exact .inr ⟨down.1, not_le.mp high⟩
    · exact absurd rfl crosses

/-- A segment to the left of a position does not cross the ray to the right. -/
theorem crossing_of_left {s : Position × Position} (first : s.1.x < p.x) (second : s.2.x < p.x) :
    crossing p s = 0 := by
  have west := sub_neg_of_lt first
  have west' := sub_neg_of_lt second
  unfold crossing
  rw [orientation_eq]
  split
  · next low =>
    apply if_neg
    rintro ⟨up, turn⟩
    have start := mul_nonpos_of_nonpos_of_nonneg west'.le (sub_nonneg.mpr low)
    have stop := mul_neg_of_neg_of_pos west (sub_pos.mpr up)
    exact absurd turn (not_lt.mpr (add_neg_of_nonpos_of_neg start stop).le)
  · next high =>
    apply if_neg
    rintro ⟨down, turn⟩
    have start := mul_pos_of_neg_of_neg west' (sub_neg_of_lt (not_le.mp high))
    have stop := mul_nonneg_of_nonpos_of_nonpos west.le (sub_nonpos.mpr down)
    exact absurd turn (not_lt.mpr (add_pos_of_pos_of_nonneg start stop).le)

def overhead (p a : Position) : Int := if p.y < a.y then 1 else 0

/-- A segment to the right of a position crosses the ray as its ends are above the position or not. -/
theorem crossing_of_right {s : Position × Position} (first : p.x < s.1.x) (second : p.x < s.2.x) :
    crossing p s = overhead p s.2 - overhead p s.1 := by
  have east := sub_pos.mpr first
  have east' := sub_pos.mpr second
  unfold crossing overhead
  rw [orientation_eq]
  split
  · next low =>
    rw [if_neg (not_lt.mpr low), sub_zero]
    by_cases up : p.y < s.2.y
    · have start := mul_nonneg east'.le (sub_nonneg.mpr low)
      have stop := mul_pos east (sub_pos.mpr up)
      rw [if_pos ⟨up, add_pos_of_nonneg_of_pos start stop⟩, if_pos up]
    · rw [if_neg fun crosses => up crosses.1, if_neg up]
  · next high =>
    rw [if_pos (not_le.mp high)]
    by_cases down : s.2.y ≤ p.y
    · have start := mul_neg_of_pos_of_neg east' (sub_neg_of_lt (not_le.mp high))
      have stop := mul_nonpos_of_nonneg_of_nonpos east.le (sub_nonpos.mpr down)
      rw [if_pos ⟨down, add_neg_of_neg_of_nonpos start stop⟩, if_neg (not_lt.mpr down)]
      rfl
    · rw [if_neg fun crosses => down crosses.1, if_pos (not_le.mp down)]
      rfl

/-- A closed ring to the right of a position does not turn around it. -/
theorem windingNumber_of_right {ring : List Position} (closed : Closed ring)
    (right : ∀ a ∈ ring, p.x < a.x) : windingNumber ring p = 0 := by
  have gains : ∀ s ∈ segments ring, crossing p s = overhead p s.2 - overhead p s.1 := by
    intro s member
    obtain ⟨first, second⟩ := mem_of_mem_segments member
    exact crossing_of_right (right _ first) (right _ second)
  -- the gains telescope to the difference of the ends, and a closed ring has but one end
  rw [windingNumber_eq_sum, List.map_congr_left gains, sum_segments _ closed]

theorem spans_of_windingNumber {ring : List Position} (closed : Closed ring)
    (turns : windingNumber ring p ≠ 0) : Spans ring p := by
  obtain ⟨s, member, crosses⟩ : ∃ s ∈ segments ring, crossing p s ≠ 0 := by
    by_contra none
    push Not at none
    rw [windingNumber_eq_sum, List.map_congr_left none] at turns
    simp at turns
  obtain ⟨first, second⟩ := mem_of_mem_segments member
  have heights := heights_of_crossing crosses
  constructor
  -- to the left a single segment says nothing: what a ring to the right crosses cancels out
  · by_contra none
    push Not at none
    exact turns (windingNumber_of_right closed none)
  · by_contra none
    push Not at none
    exact crosses (crossing_of_left (none _ first) (none _ second))
  · rcases heights with ⟨low, -⟩ | ⟨low, -⟩
    · exact ⟨s.1, first, low⟩
    · exact ⟨s.2, second, low⟩
  · rcases heights with ⟨-, high⟩ | ⟨-, high⟩
    · exact ⟨s.2, second, high.le⟩
    · exact ⟨s.1, first, high.le⟩

theorem spans_of_locateInRing {ring : List Position} (closed : Closed ring)
    (here : locateInRing ring p ≠ .exterior) : Spans ring p := by
  unfold locateInRing at here
  split at here
  · next on => exact spans_of_onPath on
  · split at here
    · exact absurd rfl here
    · next turns => exact spans_of_windingNumber closed turns

/-! ### Rings of boxes -/

theorem onPath_of_mem_segments {path : List Position} {s : Position × Position}
    (member : s ∈ segments path) (on : onSegment s p = true) : onPath path p = true := by
  unfold onPath
  split
  · cases member
  · exact List.any_eq_true.mpr ⟨s, member, on⟩

theorem onSegment_of_x {s : Position × Position} (first : s.1.x = p.x) (second : s.2.x = p.x)
    (along : between s.1.y s.2.y p.y = true) : onSegment s p = true := by
  have here : between p.x p.x p.x = true := between_iff.mpr (.inl ⟨le_rfl, le_rfl⟩)
  simp [onSegment, orientation, first, second, along, here]

theorem onSegment_of_y {s : Position × Position} (first : s.1.y = p.y) (second : s.2.y = p.y)
    (across : between s.1.x s.2.x p.x = true) : onSegment s p = true := by
  have here : between p.y p.y p.y = true := between_iff.mpr (.inl ⟨le_rfl, le_rfl⟩)
  simp [onSegment, orientation, first, second, across, here]

theorem crossing_of_level {s : Position × Position} (level : s.1.y = s.2.y) : crossing p s = 0 := by
  by_contra crosses
  rcases heights_of_crossing crosses with ⟨low, high⟩ | ⟨low, high⟩ <;> linarith

/-- The ring of a box turns once around what is strictly inside. -/
theorem windingNumber_ring {box : Rect Rat} (left : box.low.x < p.x) (right : p.x < box.high.x)
    (below : box.low.y < p.y) (above : p.y < box.high.y) : windingNumber box.ring p = 1 := by
  have rising : crossing p (⟨box.high.x, box.low.y⟩, ⟨box.high.x, box.high.y⟩) = 1 := by
    rw [crossing_of_right right right, overhead, overhead, if_pos above, if_neg (not_lt.mpr below.le)]
    rfl
  have falling : crossing p (⟨box.low.x, box.high.y⟩, ⟨box.low.x, box.low.y⟩) = 0 :=
    crossing_of_left left left
  have level (y : Rat) (x x' : Rat) : crossing p (⟨x, y⟩, ⟨x', y⟩) = 0 := crossing_of_level rfl
  simp [windingNumber_eq_sum, segments, Rect.ring, rising, falling, level]

section

variable {box : Rect Rat} (left : box.low.x ≤ p.x) (right : p.x ≤ box.high.x)
  (below : box.low.y ≤ p.y) (above : p.y ≤ box.high.y) (clear : onPath box.ring p = false)

include left right below above clear

/-- What is between the corners of a box and not on its ring is strictly inside. -/
theorem within_of_offRing :
    (box.low.x < p.x ∧ p.x < box.high.x) ∧ box.low.y < p.y ∧ p.y < box.high.y := by
  have across : between box.low.x box.high.x p.x = true := between_iff.mpr (.inl ⟨left, right⟩)
  have across' : between box.high.x box.low.x p.x = true := between_iff.mpr (.inr ⟨left, right⟩)
  have along : between box.low.y box.high.y p.y = true := between_iff.mpr (.inl ⟨below, above⟩)
  have along' : between box.high.y box.low.y p.y = true := between_iff.mpr (.inr ⟨below, above⟩)
  have off : ∀ s ∈ segments box.ring, ¬ onSegment s p = true :=
    fun s member crosses => Bool.eq_false_iff.mp clear (onPath_of_mem_segments member crosses)
  have east : p.x ≠ box.high.x := fun same =>
    off (⟨box.high.x, box.low.y⟩, ⟨box.high.x, box.high.y⟩) (by simp [segments, Rect.ring])
      (onSegment_of_x same.symm same.symm along)
  have north : p.y ≠ box.high.y := fun same =>
    off (⟨box.high.x, box.high.y⟩, ⟨box.low.x, box.high.y⟩) (by simp [segments, Rect.ring])
      (onSegment_of_y same.symm same.symm across')
  have west : box.low.x ≠ p.x := fun same =>
    off (⟨box.low.x, box.high.y⟩, ⟨box.low.x, box.low.y⟩) (by simp [segments, Rect.ring])
      (onSegment_of_x same same along')
  have south : box.low.y ≠ p.y := fun same =>
    off (⟨box.low.x, box.low.y⟩, ⟨box.high.x, box.low.y⟩) (by simp [segments, Rect.ring])
      (onSegment_of_y same same across)
  exact ⟨⟨left.lt_of_ne west, right.lt_of_ne east⟩, below.lt_of_ne south, above.lt_of_ne north⟩

/-- The ring of a box turns once around what is between its corners and not on it. -/
theorem windingNumber_of_offRing : windingNumber box.ring p = 1 := by
  obtain ⟨⟨west, east⟩, south, north⟩ := within_of_offRing left right below above clear
  exact windingNumber_ring west east south north

end

/-- A position that is between the corners of a box is not outside its ring. -/
theorem locateInRing_ring {box : Rect Rat} (left : box.low.x ≤ p.x) (right : p.x ≤ box.high.x)
    (below : box.low.y ≤ p.y) (above : p.y ≤ box.high.y) : locateInRing box.ring p ≠ .exterior := by
  by_cases on : onPath box.ring p = true
  · rw [locateInRing, if_pos on]
    decide
  · rw [locateInRing, if_neg on,
      windingNumber_of_offRing left right below above (Bool.eq_false_of_not_eq_true on)]
    decide

/-! ### Areas -/

/-- Holes do not matter: what is not outside an area is not outside its exterior. -/
theorem spans_of_locateInArea {area : Polygon Rat} (closed : Closed area.exterior)
    (here : locateInArea area p ≠ .exterior) : Spans area.exterior p := by
  apply spans_of_locateInRing closed
  intro outside
  rw [locateInArea, outside] at here
  exact here rfl

/-- A position on no hole is in an area's holes if one of them has it inside. -/
theorem locateInHoles_of_clear {holes : List (List Position)}
    (clear : ∀ hole ∈ holes, locateInRing hole p ≠ .boundary) :
    locateInHoles p holes =
      if holes.any (fun hole => locateInRing hole p = .interior) then .exterior else .interior := by
  induction holes with
  | nil => rfl
  | cons hole rest ih =>
    have later := ih fun other member => clear other (List.mem_cons_of_mem _ member)
    cases found : locateInRing hole p with
    | interior => simp [locateInHoles, found]
    | boundary => exact absurd found (clear hole (List.mem_cons_self ..))
    | exterior => simp [locateInHoles, found, later]

/-- A position on no ring of an area is inside it or outside. -/
theorem locateInArea_of_clear {area : Polygon Rat}
    (rim : locateInRing area.exterior p ≠ .boundary)
    (holes : ∀ hole ∈ area.interiors, locateInRing hole p ≠ .boundary) :
    locateInArea area p =
      if locateInRing area.exterior p = .interior ∧
          area.interiors.all (fun hole => locateInRing hole p ≠ .interior) then .interior
      else .exterior := by
  unfold locateInArea
  cases found : locateInRing area.exterior p with
  | interior =>
    simp only [locateInHoles_of_clear holes, List.any_eq_not_all_not]
    split <;> simp_all
  | boundary => exact absurd found rim
  | exterior => simp

/-! ### Shapes -/

namespace Shape

variable {s : Shape}

/-- A single area and its shape have the same parts. -/
theorem locate_ofArea (area : Polygon Rat) : locate ⟨[], [], [area]⟩ p = locateInArea area p := by
  unfold locate onBoundary covers
  cases found : locateInArea area p <;> simp [found]

def frame (s : Shape) : List Position :=
  s.points ++ s.lines.flatten ++ s.areas.flatMap (·.exterior)

def Rimmed (s : Shape) : Prop := ∀ area ∈ s.areas, Closed area.exterior

theorem spans_of_points (member : p ∈ s.points) : Spans s.frame p :=
  spans_of_mem (List.mem_append_left _ (List.mem_append_left _ member))

theorem spans_of_lines {line : List Position} (member : line ∈ s.lines) (spans : Spans line p) :
    Spans s.frame p :=
  spans.mono fun _ below =>
    List.mem_append_left _ (List.mem_append_right _ (List.mem_flatten_of_mem member below))

theorem spans_of_areas {area : Polygon Rat} (closed : s.Rimmed) (member : area ∈ s.areas)
    (here : locateInArea area p ≠ .exterior) : Spans s.frame p :=
  (spans_of_locateInArea (closed area member) here).mono fun _ below =>
    List.mem_append_right _ (List.mem_flatMap.mpr ⟨area, member, below⟩)

theorem mem_of_mem_lineEnds {line : List Position} (member : p ∈ lineEnds line) : p ∈ line := by
  unfold lineEnds at member
  split at member
  · next first rest last found =>
    split at member
    · cases member
    · rcases List.mem_pair.mp member with rfl | rfl
      · exact List.mem_cons_self ..
      · exact List.mem_of_getLast? found
  · cases member

/-- What is not outside a shape lies between positions that the shape is drawn with. -/
theorem spans_of_locate (closed : s.Rimmed) (here : s.locate p ≠ .exterior) : Spans s.frame p := by
  have inAreas {found : Polygon Rat → Bool} (any : s.areas.any found = true)
      (inside : ∀ area, found area = true → locateInArea area p ≠ .exterior) : Spans s.frame p := by
    obtain ⟨area, member, here⟩ := List.any_eq_true.mp any
    exact spans_of_areas closed member (inside area here)
  unfold locate at here
  split at here
  · next inside =>
    refine inAreas inside ?_
    intro area interior
    rw [of_decide_eq_true interior]
    decide
  split at here
  · next rim =>
    rcases Bool.or_eq_true_iff.mp rim with ends | rims
    · have some : 0 < (s.lines.flatMap lineEnds).countP (· = p) := by
        have odd := of_decide_eq_true ends
        omega
      obtain ⟨q, member, same⟩ := List.countP_pos_iff.mp some
      obtain rfl : q = p := of_decide_eq_true same
      obtain ⟨line, stands, below⟩ := List.mem_flatMap.mp member
      exact spans_of_lines stands (spans_of_mem (mem_of_mem_lineEnds below))
    · refine inAreas rims ?_
      intro area boundary
      rw [of_decide_eq_true boundary]
      decide
  split at here
  · next covered =>
    simp only [covers, Bool.or_eq_true] at covered
    rcases covered with (points | lines) | areas
    · exact spans_of_points (List.contains_iff_mem.mp points)
    · obtain ⟨line, member, on⟩ := List.any_eq_true.mp lines
      exact spans_of_lines member (spans_of_onPath on)
    · exact inAreas areas fun _ => of_decide_eq_true
  · exact absurd rfl here

end Shape

end GeoSearch
