import GeoSearch.Geometry.Measure
import GeoSearch.Proofs.Geometry.Ruler
import Mathlib.Algebra.BigOperators.Ring.Finset
import Mathlib.Algebra.Order.Field.Basic
import Mathlib.Tactic.FieldSimp
/-!
The area of a ring as a sum of turns: over the cells of a grid that marks its corners and its crossings,
the turns around the middles of the cells sum up to the area that is measured along the ring.
-/
namespace GeoSearch

structure Rect.Surrounds (box : Rect Rat) (p : Position) : Prop where
  left : box.low.x ≤ p.x
  right : p.x ≤ box.high.x
  below : box.low.y ≤ p.y
  above : p.y ≤ box.high.y

/-- Rows of a box, and the columns of each height. -/
structure Grid (box : Rect Rat) where
  rows : Ruler box.low.y box.high.y
  columns : Rat → Ruler box.low.x box.high.x

namespace Grid

variable {box : Rect Rat} {grid : Grid box} {f g : Position → Rat} {p : Position}

def sum (grid : Grid box) (f : Position → Rat) : Rat :=
  grid.rows.sum fun y => (grid.columns y).sum fun x => f ⟨x, y⟩

def Samples (grid : Grid box) (p : Position) : Prop :=
  ∃ row ∈ grid.rows.cells, ∃ column ∈ (grid.columns row.middle).cells, p = ⟨column.middle, row.middle⟩

/-! ### Sums over a grid -/

theorem sum_congr (same : ∀ p, grid.Samples p → f p = g p) : grid.sum f = grid.sum g :=
  Ruler.sum_congr fun row stands => Ruler.sum_congr fun column member =>
    same _ ⟨row, stands, column, member, rfl⟩

theorem sum_le_sum (order : ∀ p, grid.Samples p → f p ≤ g p) : grid.sum f ≤ grid.sum g :=
  Ruler.sum_le_sum fun row stands => Ruler.sum_le_sum fun column member =>
    order _ ⟨row, stands, column, member, rfl⟩

theorem sum_const (grid : Grid box) (t : Rat) :
    grid.sum (fun _ => t) = (box.high.x - box.low.x) * (box.high.y - box.low.y) * t := by
  simp only [sum, Ruler.sum_const]
  ring

theorem sum_nonneg (positive : ∀ p, 0 ≤ f p) : 0 ≤ grid.sum f := by
  rw [← mul_zero ((box.high.x - box.low.x) * (box.high.y - box.low.y)), ← grid.sum_const 0]
  exact sum_le_sum fun p _ => positive p

theorem sum_list {α : Type} (grid : Grid box) (items : List α) (f : α → Position → Rat) :
    grid.sum (fun p => (items.map (f · p)).sum) = (items.map fun item => grid.sum (f item)).sum := by
  simp only [sum]
  rw [← Ruler.sum_list]
  exact Ruler.sum_congr fun row _ => Ruler.sum_list _ items fun item x => f item ⟨x, row.middle⟩

theorem sum_add (grid : Grid box) (f g : Position → Rat) :
    grid.sum (fun p => f p + g p) = grid.sum f + grid.sum g := by
  simp only [sum, Ruler.sum_add]

theorem sum_mul_left (grid : Grid box) (t : Rat) (f : Position → Rat) :
    grid.sum (fun p => t * f p) = t * grid.sum f := by
  simp only [sum, Ruler.sum_mul_left]

end Grid

/-! ### Segments at a height -/

/-- Where the line through a segment is at a height. -/
def abscissa (s : Position × Position) (y : Rat) : Rat :=
  s.1.x + (s.2.x - s.1.x) * ((y - s.1.y) / (s.2.y - s.1.y))

/-- What a segment gains at a height: 1 upwards, -1 downwards. -/
def climb (s : Position × Position) (p : Position) : Int := overhead p s.2 - overhead p s.1

variable {s : Position × Position} {p : Position} {ring : List Position}

theorem climb_of_rising {p : Position} (rising : s.1.y < s.2.y) :
    climb s p = if s.1.y ≤ p.y ∧ p.y < s.2.y then 1 else 0 := by
  unfold climb overhead
  by_cases low : p.y < s.1.y
  · rw [if_pos (low.trans rising), if_pos low, if_neg fun inside => absurd low (not_lt.mpr inside.1)]
    rfl
  · by_cases high : p.y < s.2.y
    · rw [if_pos high, if_neg low, if_pos ⟨not_lt.mp low, high⟩]
      rfl
    · rw [if_neg high, if_neg low, if_neg fun inside => high inside.2]
      rfl

theorem climb_of_level (level : s.1.y = s.2.y) (p : Position) : climb s p = 0 := by
  rw [climb, overhead, overhead, level, sub_self]

theorem climb_swap (s : Position × Position) (p : Position) : climb s.swap p = -climb s p :=
  (neg_sub _ _).symm

theorem heights_of_climb (climbs : climb s p ≠ 0) :
    s.1.y ≤ p.y ∧ p.y < s.2.y ∨ s.2.y ≤ p.y ∧ p.y < s.1.y := by
  unfold climb overhead at climbs
  by_cases first : p.y < s.1.y <;> by_cases second : p.y < s.2.y
  · simp [first, second] at climbs
  · exact .inr ⟨not_lt.mp second, first⟩
  · exact .inl ⟨not_lt.mp first, second⟩
  · simp [first, second] at climbs

/-- A segment climbs at each height strictly between its ends. -/
theorem climb_of_between (along : between s.1.y s.2.y p.y = true) (first : s.1.y ≠ p.y)
    (second : s.2.y ≠ p.y) : climb s p ≠ 0 := by
  unfold climb overhead
  rcases between_iff.mp along with ⟨above, below⟩ | ⟨above, below⟩
  · rw [if_pos (below.lt_of_ne second.symm), if_neg (not_lt.mpr above)]
    decide
  · rw [if_neg (not_lt.mpr above), if_pos (below.lt_of_ne first.symm)]
    decide

theorem abscissa_swap (sloped : s.1.y ≠ s.2.y) (y : Rat) : abscissa s.swap y = abscissa s y := by
  have rise : s.2.y - s.1.y ≠ 0 := sub_ne_zero.mpr sloped.symm
  have fall : s.1.y - s.2.y ≠ 0 := sub_ne_zero.mpr sloped
  unfold abscissa
  rw [Prod.fst_swap, Prod.snd_swap]
  field_simp
  ring

theorem orientation_of_abscissa (sloped : s.1.y ≠ s.2.y) :
    orientation s.1 s.2 p = (s.2.y - s.1.y) * (abscissa s p.y - p.x) := by
  have rise : s.2.y - s.1.y ≠ 0 := sub_ne_zero.mpr sloped.symm
  unfold orientation abscissa
  field_simp
  ring

theorem crossing_swap (p : Position) (s : Position × Position) : crossing p s.swap = -crossing p s := by
  have turned : orientation s.2 s.1 p = -orientation s.1 s.2 p := by
    unfold orientation
    ring
  have first : p.y < s.1.y ↔ ¬ s.1.y ≤ p.y := not_le.symm
  have second : p.y < s.2.y ↔ ¬ s.2.y ≤ p.y := not_le.symm
  simp only [crossing, Prod.fst_swap, Prod.snd_swap, turned, neg_pos, neg_neg_iff_pos, first, second]
  by_cases low : s.1.y ≤ p.y
  · by_cases low' : s.2.y ≤ p.y
    · simp [low, low']
    · simp only [low, low', if_true, if_false, true_and, not_false_eq_true]
      split <;> rfl
  · by_cases low' : s.2.y ≤ p.y
    · simp only [low, low', if_true, if_false, true_and, not_false_eq_true]
      split <;> rfl
    · simp [low, low']

theorem crossing_of_rising (rising : s.1.y < s.2.y) :
    crossing p s = if p.x < abscissa s p.y then climb s p else 0 := by
  have turns : 0 < orientation s.1 s.2 p ↔ p.x < abscissa s p.y := by
    rw [orientation_of_abscissa rising.ne, mul_pos_iff_of_pos_left (sub_pos.mpr rising), sub_pos]
  rw [climb_of_rising rising]
  unfold crossing
  by_cases low : s.1.y ≤ p.y
  · by_cases right : p.x < abscissa s p.y <;> simp [low, turns, right]
  · have below := (not_le.mp low).trans rising
    simp [low, not_le.mpr below]

/-- The ray to the right of a position crosses what is to the right at its height. -/
theorem crossing_eq (p : Position) (s : Position × Position) :
    crossing p s = if p.x < abscissa s p.y then climb s p else 0 := by
  rcases lt_trichotomy s.1.y s.2.y with rising | level | falling
  · exact crossing_of_rising rising
  · rw [crossing_of_level level, climb_of_level level, ite_self]
  · have swapped := crossing_of_rising (p := p) (s := s.swap) falling
    rw [crossing_swap, climb_swap, abscissa_swap falling.ne'] at swapped
    rw [← neg_neg (crossing p s), swapped]
    split <;> simp

theorem abscissa_of_rising {low high : Rat} (rising : s.1.y < s.2.y) {y : Rat}
    (first : low ≤ s.1.x ∧ s.1.x ≤ high) (second : low ≤ s.2.x ∧ s.2.x ≤ high) (above : s.1.y ≤ y)
    (below : y ≤ s.2.y) : low ≤ abscissa s y ∧ abscissa s y ≤ high := by
  have rise := sub_pos.mpr rising
  have start : 0 ≤ (y - s.1.y) / (s.2.y - s.1.y) := div_nonneg (sub_nonneg.mpr above) rise.le
  have stop : (y - s.1.y) / (s.2.y - s.1.y) ≤ 1 := (div_le_one rise).mpr (sub_le_sub_right below _)
  unfold abscissa
  generalize (y - s.1.y) / (s.2.y - s.1.y) = t at start stop
  constructor <;> nlinarith

/-- Between the ends of a segment the line is between them. -/
theorem abscissa_between {low high : Rat} (first : low ≤ s.1.x ∧ s.1.x ≤ high)
    (second : low ≤ s.2.x ∧ s.2.x ≤ high) (climbs : climb s p ≠ 0) :
    low ≤ abscissa s p.y ∧ abscissa s p.y ≤ high := by
  rcases heights_of_climb climbs with ⟨above, below⟩ | ⟨above, below⟩
  · exact abscissa_of_rising (above.trans_lt below) first second above below.le
  · have falling := above.trans_lt below
    rw [← abscissa_swap falling.ne']
    exact abscissa_of_rising (s := s.swap) falling second first above below.le

/-! ### Rings -/

def areaBeside (west : Rat) (s : Position × Position) : Rat :=
  (s.2.y - s.1.y) * ((s.1.x + s.2.x) / 2 - west)

theorem areaBeside_swap (west : Rat) (s : Position × Position) :
    areaBeside west s.swap = -areaBeside west s := by
  unfold areaBeside
  rw [Prod.fst_swap, Prod.snd_swap]
  ring

theorem determinant_rat (a b : Position) : determinant a b = a.x * b.y - a.y * b.x := rfl

theorem shift_rat (c origin : Position) : c.shift origin = ⟨c.x - origin.x, c.y - origin.y⟩ := rfl

/-- The sum along a closed ring, short ones included, whose sum is zero. -/
theorem twiceRingArea_eq {first : Position} {rest : List Position} (closed : Closed (first :: rest)) :
    twiceRingArea (first :: rest) = ((segments (first :: rest)).map fun s =>
      determinant (s.1.shift first) (s.2.shift first)).sum := by
  match rest, closed with
  | [], _ => exact Int.cast_zero
  | [second], closed =>
    obtain rfl : first = second := Option.some.inj closed
    have short : twiceRingArea [first, first] = (0 : Int) := rfl
    rw [short]
    simp [segments, determinant_rat, shift_rat]
  | second :: third :: rest, closed =>
    have last : (first :: second :: third :: rest).getLast? = some first := closed.symm
    have same : first.same first = true := by simp [Coord.same, Scalar.eq]
    have long : twiceRingArea (first :: second :: third :: rest) =
        (segments (first :: second :: third :: rest)).foldl
          (fun sum s => sum + determinant (s.1.shift first) (s.2.shift first)) ((0 : Int) : Rat) := by
      unfold twiceRingArea
      rw [last]
      exact if_pos same
    rw [long, List.sum_eq_foldl, List.foldl_map, Int.cast_zero]

/-- Measured from a meridian or from a corner, the area of a ring is the same. -/
theorem ringArea_eq (closed : Closed ring) (west : Rat) :
    ringArea ring = ((segments ring).map (areaBeside west)).sum := by
  cases ring with
  | nil => exact zero_div _
  | cons first rest =>
    let gain (p : Position) : Rat :=
      (p.x - first.x) * (p.y - first.y) / 2 + (first.x - west) * (p.y - first.y)
    have beside (s : Position × Position) : areaBeside west s =
        determinant (s.1.shift first) (s.2.shift first) * (1 / 2) + (gain s.2 - gain s.1) := by
      rw [determinant_rat, shift_rat, shift_rat]
      unfold areaBeside gain
      ring
    have half : ringArea (first :: rest) = twiceRingArea (first :: rest) / (2 : Int) := rfl
    rw [half, twiceRingArea_eq closed, List.map_congr_left fun s _ => beside s, List.sum_map_add,
      List.sum_map_mul_right, sum_segments gain closed, add_zero, Int.cast_ofNat, div_eq_mul_one_div]

namespace Grid

variable {box : Rect Rat} {grid : Grid box}

structure Draws (grid : Grid box) (ring : List Position) : Prop where
  corners : ∀ c ∈ ring, c.y ∈ grid.rows.marks
  crossings : ∀ s ∈ segments ring, ∀ p, climb s p ≠ 0 → abscissa s p.y ∈ (grid.columns p.y).marks

theorem Samples.surrounds (sample : grid.Samples p) : box.Surrounds p := by
  obtain ⟨row, stands, column, member, rfl⟩ := sample
  obtain ⟨left, right⟩ := Ruler.middle_within member
  obtain ⟨below, above⟩ := Ruler.middle_within stands
  exact ⟨left.le, right.le, below.le, above.le⟩

theorem Samples.row (sample : grid.Samples p) : p.y ∉ grid.rows.marks := by
  obtain ⟨row, stands, column, -, rfl⟩ := sample
  exact Ruler.middle_not_mark stands

theorem Samples.column (sample : grid.Samples p) : p.x ∉ (grid.columns p.y).marks := by
  obtain ⟨row, -, column, member, rfl⟩ := sample
  exact Ruler.middle_not_mark member

theorem Draws.corner_ne (draws : grid.Draws ring) (sample : grid.Samples p) {c : Position}
    (corner : c ∈ ring) : c.y ≠ p.y :=
  fun same => sample.row (same ▸ draws.corners c corner)

/-- The middle of a cell is on no ring. -/
theorem Draws.clear (draws : grid.Draws ring) (sample : grid.Samples p) : onPath ring p = false := by
  refine Bool.eq_false_of_not_eq_true fun on => ?_
  unfold onPath at on
  split at on
  · next q =>
    exact draws.corner_ne sample (List.mem_singleton_self q) (congrArg Coord.y (of_decide_eq_true on))
  · obtain ⟨s, member, on⟩ := List.any_eq_true.mp on
    obtain ⟨first, second⟩ := mem_of_mem_segments member
    have start := draws.corner_ne sample first
    have stop := draws.corner_ne sample second
    simp only [onSegment, Bool.and_eq_true, decide_eq_true_eq] at on
    obtain ⟨⟨straight, -⟩, along⟩ := on
    have climbs := climb_of_between along start stop
    have sloped : s.1.y ≠ s.2.y := fun level => climbs (climb_of_level level p)
    rw [orientation_of_abscissa sloped, mul_eq_zero, or_iff_right (sub_ne_zero.mpr sloped.symm),
      sub_eq_zero] at straight
    exact sample.column (straight ▸ draws.crossings s member p climbs)

theorem sum_climb_of_rising (rising : s.1.y < s.2.y) (first : s.1.y ∈ grid.rows.marks)
    (second : s.2.y ∈ grid.rows.marks) (west : Rat) :
    grid.rows.sum (fun y => climb s ⟨0, y⟩ * (abscissa s y - west)) = areaBeside west s := by
  have rise : s.2.y - s.1.y ≠ 0 := sub_ne_zero.mpr rising.ne'
  let slope : Rat := (s.2.x - s.1.x) / (s.2.y - s.1.y)
  have line (y : Rat) : (climb s ⟨0, y⟩ : Rat) * (abscissa s y - west) =
      if s.1.y ≤ y ∧ y < s.2.y then slope * y + (s.1.x - slope * s.1.y - west) else 0 := by
    rw [climb_of_rising rising]
    split
    · unfold abscissa slope
      push_cast
      field_simp
      ring
    · simp
  simp only [line]
  rw [Ruler.sum_window first second rising.le]
  unfold areaBeside slope
  field_simp
  ring

/-- The area beside a segment, row by row. -/
theorem sum_climb (first : s.1.y ∈ grid.rows.marks) (second : s.2.y ∈ grid.rows.marks) (west : Rat) :
    grid.rows.sum (fun y => climb s ⟨0, y⟩ * (abscissa s y - west)) = areaBeside west s := by
  rcases lt_trichotomy s.1.y s.2.y with rising | level | falling
  · exact sum_climb_of_rising rising first second west
  · simp only [climb_of_level level, Int.cast_zero, zero_mul]
    rw [Ruler.sum_const, areaBeside, level, sub_self, mul_zero, zero_mul]
  · have swapped := sum_climb_of_rising (s := s.swap) falling second first west
    rw [areaBeside_swap] at swapped
    rw [← neg_neg (areaBeside west s), ← swapped, ← neg_one_mul, ← Ruler.sum_mul_left]
    refine Ruler.sum_congr fun row _ => ?_
    rw [climb_swap, abscissa_swap falling.ne']
    push_cast
    ring

/-- What is to the left of a segment at a height. -/
theorem sum_crossing_row (draws : grid.Draws ring) (member : s ∈ segments ring) (y : Rat) :
    (grid.columns y).sum (fun x => (crossing ⟨x, y⟩ s : Rat)) =
      climb s ⟨0, y⟩ * (abscissa s y - box.low.x) := by
  have crosses (x : Rat) : (crossing ⟨x, y⟩ s : Rat) =
      climb s ⟨0, y⟩ * if x < abscissa s y then 1 else 0 := by
    rw [crossing_eq]
    split
    · exact (mul_one _).symm
    · simp
  simp only [crosses]
  rw [Ruler.sum_mul_left]
  by_cases climbs : climb s ⟨0, y⟩ = 0
  · rw [climbs, Int.cast_zero, zero_mul, zero_mul]
  · rw [Ruler.sum_before (draws.crossings s member ⟨0, y⟩ climbs)]

theorem sum_crossing (draws : grid.Draws ring) (member : s ∈ segments ring) :
    grid.sum (fun p => (crossing p s : Rat)) = areaBeside box.low.x s := by
  obtain ⟨first, second⟩ := mem_of_mem_segments member
  rw [← sum_climb (draws.corners _ first) (draws.corners _ second)]
  exact Ruler.sum_congr fun row _ => sum_crossing_row draws member row.middle

/-- The turns of a ring sum up to its area. -/
theorem sum_windingNumber (draws : grid.Draws ring) (closed : Closed ring) :
    grid.sum (fun p => (windingNumber ring p : Rat)) = ringArea ring := by
  have turns (p : Position) : (windingNumber ring p : Rat) =
      ((segments ring).map fun s => (crossing p s : Rat)).sum := by
    rw [windingNumber_eq_sum, Int.cast_list_sum, List.map_map]
    rfl
  simp only [turns]
  rw [sum_list, ringArea_eq closed box.low.x]
  exact congrArg List.sum (List.map_congr_left fun s member => sum_crossing draws member)

/-! ### Grids of given rings -/

def drawing (across : box.low.x ≤ box.high.x) (along : box.low.y ≤ box.high.y)
    (rings : List (List Position)) : Grid box where
  rows := .through along (rings.flatten.map (·.y))
  columns y := .through across ((rings.flatMap segments).map (abscissa · y))

theorem draws_drawing (across : box.low.x ≤ box.high.x) (along : box.low.y ≤ box.high.y)
    {rings : List (List Position)} (stands : ring ∈ rings) (inside : ∀ c ∈ ring, box.Surrounds c) :
    (drawing across along rings).Draws ring := by
  constructor
  · intro c member
    exact Ruler.mem_through along (List.mem_map.mpr ⟨c, List.mem_flatten_of_mem stands member, rfl⟩)
      (inside c member).below (inside c member).above
  · intro s member p climbs
    obtain ⟨first, second⟩ := mem_of_mem_segments member
    obtain ⟨left, right⟩ := abscissa_between ⟨(inside _ first).left, (inside _ first).right⟩
      ⟨(inside _ second).left, (inside _ second).right⟩ climbs
    exact Ruler.mem_through across
      (List.mem_map.mpr ⟨s, List.mem_flatMap.mpr ⟨ring, stands, member⟩, rfl⟩) left right

end Grid

end GeoSearch
