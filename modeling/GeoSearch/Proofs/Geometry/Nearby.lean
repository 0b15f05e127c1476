import GeoSearch.Proofs.Geometry.Grid
import Mathlib.Tactic.Positivity
/-!
What holds near a position. Near a position that is on no segment of a closed ring, the ring is not
either, and it turns as often: what a single segment gains where its end is on the ray of the position,
the next segment loses.
-/
namespace GeoSearch

/-- What holds of all positions that are close enough to one. -/
def Nearby (p : Position) (holds : Position → Prop) : Prop :=
  ∃ reach > 0, ∀ q : Position, |q.x - p.x| < reach → |q.y - p.y| < reach → holds q

variable {p q : Position} {holds also : Position → Prop} {s : Position × Position}
  {ring : List Position}

namespace Nearby

theorem mono (near : Nearby p holds) (implies : ∀ q, holds q → also q) : Nearby p also := by
  obtain ⟨reach, positive, all⟩ := near
  exact ⟨reach, positive, fun q across along => implies q (all q across along)⟩

theorem and (near : Nearby p holds) (near' : Nearby p also) : Nearby p fun q => holds q ∧ also q := by
  obtain ⟨reach, positive, all⟩ := near
  obtain ⟨reach', positive', all'⟩ := near'
  refine ⟨min reach reach', lt_min positive positive', fun q across along => ⟨?_, ?_⟩⟩
  · exact all q (across.trans_le (min_le_left _ _)) (along.trans_le (min_le_left _ _))
  · exact all' q (across.trans_le (min_le_right _ _)) (along.trans_le (min_le_right _ _))

theorem of_forall (all : ∀ q, holds q) : Nearby p holds := ⟨1, one_pos, fun q _ _ => all q⟩

/-- What holds near a position of each of several things holds of all of them. -/
theorem forall_mem {α : Type} {items : List α} {each : α → Position → Prop}
    (near : ∀ item ∈ items, Nearby p (each item)) : Nearby p fun q => ∀ item ∈ items, each item q := by
  induction items with
  | nil => exact of_forall fun _ _ member => nomatch member
  | cons item rest ih =>
    have first := near item List.mem_cons_self
    have others := ih fun other member => near other (List.mem_cons_of_mem _ member)
    exact (first.and others).mono fun q both => List.forall_mem_cons.mpr both

/-- A linear expression that is positive stays so. -/
theorem positive {a b c : Rat} (positive : 0 < a * p.x + b * p.y + c) :
    Nearby p fun q => 0 < a * q.x + b * q.y + c := by
  have slopes : 0 < |a| + |b| + 1 := by positivity
  refine ⟨(a * p.x + b * p.y + c) / (|a| + |b| + 1), div_pos positive slopes, ?_⟩
  intro q across along
  generalize reached : (a * p.x + b * p.y + c) / (|a| + |b| + 1) = reach at across along
  have total : a * p.x + b * p.y + c = |a| * reach + |b| * reach + reach := by
    rw [← reached]
    field_simp
  have sideways : |a * (q.x - p.x)| ≤ |a| * reach := by
    rw [abs_mul]
    exact mul_le_mul_of_nonneg_left across.le (abs_nonneg a)
  have upwards : |b * (q.y - p.y)| ≤ |b| * reach := by
    rw [abs_mul]
    exact mul_le_mul_of_nonneg_left along.le (abs_nonneg b)
  have some : 0 < reach := (abs_nonneg _).trans_lt across
  have least := (abs_le.mp sideways).1
  have least' := (abs_le.mp upwards).1
  linarith

theorem x_lt {t : Rat} (left : p.x < t) : Nearby p (·.x < t) :=
  (positive (a := -1) (b := 0) (c := t) (by linarith)).mono fun q stays => by linarith

theorem lt_x {t : Rat} (right : t < p.x) : Nearby p (t < ·.x) :=
  (positive (a := 1) (b := 0) (c := -t) (by linarith)).mono fun q stays => by linarith

theorem y_lt {t : Rat} (below : p.y < t) : Nearby p (·.y < t) :=
  (positive (a := 0) (b := -1) (c := t) (by linarith)).mono fun q stays => by linarith

theorem lt_y {t : Rat} (above : t < p.y) : Nearby p (t < ·.y) :=
  (positive (a := 0) (b := 1) (c := -t) (by linarith)).mono fun q stays => by linarith

theorem orientation_pos {a b : Position} (left : 0 < orientation a b p) :
    Nearby p fun q => 0 < orientation a b q := by
  have linear (q : Position) : orientation a b q =
      -(b.y - a.y) * q.x + (b.x - a.x) * q.y + ((b.y - a.y) * a.x - (b.x - a.x) * a.y) := by
    unfold orientation
    ring
  rw [linear] at left
  exact (positive left).mono fun q stays => stays.trans_eq (linear q).symm

theorem orientation_neg {a b : Position} (right : orientation a b p < 0) :
    Nearby p fun q => orientation a b q < 0 := by
  have turned (q : Position) : orientation b a q = -orientation a b q := by
    unfold orientation
    ring
  refine (orientation_pos (a := b) (b := a) ?_).mono fun q stays => ?_
  · rw [turned]
    exact neg_pos.mpr right
  · rw [turned] at stays
    exact neg_pos.mp stays

end Nearby

/-! ### Segments -/

theorem not_between_iff {a b x : Rat} :
    between a b x = false ↔ x < a ∧ x < b ∨ a < x ∧ b < x := by
  rw [← Bool.not_eq_true, between_iff]
  constructor
  · intro outside
    push Not at outside
    rcases lt_or_ge x a with left | right
    · rcases lt_or_ge x b with both | beyond
      · exact .inl ⟨left, both⟩
      · exact absurd (outside.2 beyond) (not_lt.mpr left.le)
    · exact .inr ⟨outside.2 (outside.1 right).le, outside.1 right⟩
  · rintro (⟨first, second⟩ | ⟨first, second⟩) inside
    · rcases inside with ⟨low, -⟩ | ⟨low, -⟩ <;> linarith
    · rcases inside with ⟨-, high⟩ | ⟨-, high⟩ <;> linarith

theorem not_onSegment_iff : onSegment s p = false ↔ orientation s.1 s.2 p ≠ 0 ∨
    between s.1.x s.2.x p.x = false ∨ between s.1.y s.2.y p.y = false := by
  simp only [onSegment, Bool.and_eq_false_iff, decide_eq_false_iff_not, or_assoc, ne_eq]

theorem onSegment_swap (s : Position × Position) (p : Position) : onSegment s.swap p = onSegment s p := by
  have turned : orientation s.2 s.1 p = 0 ↔ orientation s.1 s.2 p = 0 := by
    have opposite : orientation s.2 s.1 p = -orientation s.1 s.2 p := by
      unfold orientation
      ring
    rw [opposite, neg_eq_zero]
  unfold onSegment between
  simp only [Prod.fst_swap, Prod.snd_swap, turned, Bool.or_comm]

theorem nearby_off (off : onSegment s p = false) : Nearby p fun q => onSegment s q = false := by
  simp only [not_onSegment_iff] at off ⊢
  rcases off with aside | across | along
  · rcases lt_or_gt_of_ne aside with right | left
    · exact (Nearby.orientation_neg right).mono fun q stays => .inl stays.ne
    · exact (Nearby.orientation_pos left).mono fun q stays => .inl stays.ne'
  · rcases not_between_iff.mp across with ⟨first, second⟩ | ⟨first, second⟩
    · exact ((Nearby.x_lt first).and (Nearby.x_lt second)).mono fun q both =>
        .inr (.inl (not_between_iff.mpr (.inl both)))
    · exact ((Nearby.lt_x first).and (Nearby.lt_x second)).mono fun q both =>
        .inr (.inl (not_between_iff.mpr (.inr both)))
  · rcases not_between_iff.mp along with ⟨first, second⟩ | ⟨first, second⟩
    · exact ((Nearby.y_lt first).and (Nearby.y_lt second)).mono fun q both =>
        .inr (.inr (not_between_iff.mpr (.inl both)))
    · exact ((Nearby.lt_y first).and (Nearby.lt_y second)).mono fun q both =>
        .inr (.inr (not_between_iff.mpr (.inr both)))

/-! ### Rings -/

/-- What an end of a segment gains between two positions, if it is to the right of the first. -/
def gained (p q a : Position) : Int := if p.x < a.x then overhead q a - overhead p a else 0

theorem nearby_overhead {a : Position} (apart : a.y ≠ p.y) :
    Nearby p fun q => overhead q a = overhead p a := by
  rcases lt_or_gt_of_ne apart with below | above
  · refine (Nearby.lt_y below).mono fun q stays => ?_
    rw [overhead, overhead, if_neg (not_lt.mpr stays.le), if_neg (not_lt.mpr below.le)]
  · refine (Nearby.y_lt above).mono fun q stays => ?_
    rw [overhead, overhead, if_pos stays, if_pos above]

theorem nearby_gained_right {a : Position} (right : a.y = p.y → p.x < a.x) :
    Nearby p fun q => gained p q a = overhead q a - overhead p a := by
  by_cases level : a.y = p.y
  · exact .of_forall fun q => if_pos (right level)
  · refine (nearby_overhead level).mono fun q same => ?_
    rw [gained, same, sub_self, ite_self]

theorem nearby_gained_left {a : Position} (left : a.y = p.y → a.x ≤ p.x) :
    Nearby p fun q => gained p q a = 0 := by
  by_cases level : a.y = p.y
  · exact .of_forall fun q => if_neg (not_lt.mpr (left level))
  · refine (nearby_overhead level).mono fun q same => ?_
    rw [gained, same, sub_self, ite_self]

theorem nearby_crossing_of_level (level : s.1.y = s.2.y) (off : onSegment s p = false) :
    Nearby p fun q => crossing q s = crossing p s + (gained p q s.2 - gained p q s.1) := by
  have same : Nearby p fun q => gained p q s.2 = gained p q s.1 := by
    by_cases here : s.1.y = p.y
    · have apart : between s.1.x s.2.x p.x = false := by
        refine Bool.eq_false_of_not_eq_true fun across => ?_
        rw [onSegment_of_y here (level.symm.trans here) across] at off
        exact Bool.noConfusion off
      have sides : p.x < s.2.x ↔ p.x < s.1.x := by
        rcases not_between_iff.mp apart with ⟨first, second⟩ | ⟨first, second⟩
        · exact ⟨fun _ => first, fun _ => second⟩
        · exact ⟨fun right => absurd right (not_lt.mpr second.le),
            fun right => absurd right (not_lt.mpr first.le)⟩
      refine .of_forall fun q => ?_
      simp only [gained, sides, overhead, level]
    · have left := nearby_overhead here
      have right := nearby_overhead (a := s.2) (level ▸ here)
      refine (left.and right).mono fun q both => ?_
      rw [gained, gained, both.1, both.2, sub_self, sub_self, ite_self, ite_self]
  refine same.mono fun q equal => ?_
  rw [crossing_of_level level, crossing_of_level level, equal, sub_self, add_zero]

theorem abscissa_of_first (level : s.1.y = p.y) : abscissa s p.y = s.1.x := by
  rw [abscissa, level, sub_self, zero_div, mul_zero, add_zero]

theorem abscissa_of_second (sloped : s.1.y ≠ s.2.y) (level : s.2.y = p.y) :
    abscissa s p.y = s.2.x := by
  rw [abscissa, ← level, div_self (sub_ne_zero.mpr sloped.symm), mul_one, add_sub_cancel]

theorem abscissa_ne (rising : s.1.y < s.2.y) (above : s.1.y ≤ p.y) (below : p.y ≤ s.2.y)
    (off : onSegment s p = false) : abscissa s p.y ≠ p.x := by
  intro same
  rcases not_onSegment_iff.mp off with aside | across | along
  · rw [orientation_of_abscissa rising.ne, same, sub_self, mul_zero] at aside
    exact aside rfl
  · rw [← same, ← Bool.not_eq_true, between_iff] at across
    rcases le_total s.1.x s.2.x with order | order
    · exact across (.inl (abscissa_of_rising rising ⟨le_rfl, order⟩ ⟨order, le_rfl⟩ above below))
    · exact across (.inr (abscissa_of_rising rising ⟨order, le_rfl⟩ ⟨le_rfl, order⟩ above below))
  · rw [between_iff.mpr (.inl ⟨above, below⟩)] at along
    exact Bool.noConfusion along

theorem nearby_crossing_of_rising (rising : s.1.y < s.2.y) (off : onSegment s p = false) :
    Nearby p fun q => crossing q s = crossing p s + (gained p q s.2 - gained p q s.1) := by
  by_cases within : s.1.y ≤ p.y ∧ p.y ≤ s.2.y
  · have slope := sub_pos.mpr rising
    rcases lt_or_gt_of_ne (abscissa_ne rising within.1 within.2 off) with left | right
    -- to the right of the segment nothing is crossed, and no end on the ray is to the right
    · have turn : orientation s.1 s.2 p < 0 := by
        rw [orientation_of_abscissa rising.ne]
        exact mul_neg_of_pos_of_neg slope (sub_neg_of_lt left)
      have first := nearby_gained_left (p := p) (a := s.1) fun level =>
        (abscissa_of_first level ▸ left).le
      have second := nearby_gained_left (p := p) (a := s.2) fun level =>
        (abscissa_of_second rising.ne level ▸ left).le
      refine ((Nearby.orientation_neg turn).and (first.and second)).mono fun q near => ?_
      have turn' := near.1.trans_eq (mul_zero (s.2.y - s.1.y)).symm
      rw [orientation_of_abscissa rising.ne, mul_lt_mul_iff_right₀ slope, sub_neg] at turn'
      rw [crossing_eq, crossing_eq, if_neg (not_lt.mpr turn'.le), if_neg (not_lt.mpr left.le),
        near.2.1, near.2.2, sub_self, add_zero]
    -- to the left of it all that it climbs is crossed
    · have turn : 0 < orientation s.1 s.2 p := by
        rw [orientation_of_abscissa rising.ne]
        exact mul_pos slope (sub_pos.mpr right)
      have first := nearby_gained_right (p := p) (a := s.1) fun level =>
        abscissa_of_first level ▸ right
      have second := nearby_gained_right (p := p) (a := s.2) fun level =>
        abscissa_of_second rising.ne level ▸ right
      refine ((Nearby.orientation_pos turn).and (first.and second)).mono fun q near => ?_
      have turn' := near.1
      rw [orientation_of_abscissa rising.ne, mul_pos_iff_of_pos_left slope, sub_pos] at turn'
      rw [crossing_eq, crossing_eq, if_pos turn', if_pos right, near.2.1, near.2.2, climb, climb]
      ring
  -- beyond the heights of the segment nothing is climbed
  · have beyond : p.y < s.1.y ∨ s.2.y < p.y := by
      rw [not_and_or, not_le, not_le] at within
      exact within
    have apart : s.1.y ≠ p.y ∧ s.2.y ≠ p.y := by
      rcases beyond with below | above
      · exact ⟨below.ne', (below.trans rising).ne'⟩
      · exact ⟨(rising.trans above).ne, above.ne⟩
    have none : climb s p = 0 := by
      rw [climb_of_rising rising]
      refine if_neg fun inside => within ⟨inside.1, inside.2.le⟩
    refine ((nearby_overhead apart.1).and (nearby_overhead apart.2)).mono fun q same => ?_
    have none' : climb s q = 0 := by
      rw [climb, same.1, same.2]
      exact none
    rw [crossing_eq, crossing_eq, none, none', gained, gained, same.1, same.2]
    simp

/-- Near a position that is not on it, a segment crosses more often by what its ends gain. -/
theorem nearby_crossing (off : onSegment s p = false) :
    Nearby p fun q => crossing q s = crossing p s + (gained p q s.2 - gained p q s.1) := by
  rcases lt_trichotomy s.1.y s.2.y with rising | level | falling
  · exact nearby_crossing_of_rising rising off
  · exact nearby_crossing_of_level level off
  · have swapped := nearby_crossing_of_rising (s := s.swap) falling ((onSegment_swap s p).trans off)
    refine swapped.mono fun q same => ?_
    rw [crossing_swap, crossing_swap, Prod.fst_swap, Prod.snd_swap] at same
    linarith

theorem nearby_windingNumber (closed : Closed ring) (off : onPath ring p = false) :
    Nearby p fun q => windingNumber ring q = windingNumber ring p := by
  have each : ∀ s ∈ segments ring, Nearby p fun q =>
      crossing q s = crossing p s + (gained p q s.2 - gained p q s.1) :=
    fun s member => nearby_crossing
      (Bool.eq_false_of_not_eq_true fun on => by simp [onPath_of_mem_segments member on] at off)
  refine (Nearby.forall_mem each).mono fun q all => ?_
  rw [windingNumber_eq_sum, windingNumber_eq_sum, List.map_congr_left all, List.sum_map_add,
    sum_segments _ closed, add_zero]

theorem Nearby.ne {a : Position} (other : a ≠ p) : Nearby p (a ≠ ·) := by
  by_cases across : a.x = p.x
  · have along : a.y ≠ p.y := fun same => other (congrArg₂ Coord.mk across same)
    rcases lt_or_gt_of_ne along with below | above
    · exact (lt_y below).mono fun q stays same => stays.ne (congrArg Coord.y same)
    · exact (y_lt above).mono fun q stays same => stays.ne' (congrArg Coord.y same)
  · rcases lt_or_gt_of_ne across with left | right
    · exact (lt_x left).mono fun q stays same => stays.ne (congrArg Coord.x same)
    · exact (x_lt right).mono fun q stays same => stays.ne' (congrArg Coord.x same)

theorem nearby_offPath (off : onPath ring p = false) : Nearby p fun q => onPath ring q = false := by
  unfold onPath at off
  split at off
  · next a => exact (Nearby.ne (of_decide_eq_false off)).mono fun q other => decide_eq_false other
  · next longer =>
    have path (q : Position) : onPath ring q = (segments ring).any (onSegment · q) := by
      unfold onPath
      split
      · next a => exact absurd rfl (longer a)
      · rfl
    have each : ∀ s ∈ segments ring, Nearby p fun q => onSegment s q = false := fun s member =>
      nearby_off (Bool.eq_false_of_not_eq_true (List.any_eq_false.mp off s member))
    refine (Nearby.forall_mem each).mono fun q all => ?_
    rw [path]
    exact List.any_eq_false.mpr fun s member => Bool.not_eq_true _ ▸ all s member

/-- Near a position that is on no side of a closed ring, all positions are located alike. -/
theorem nearby_locateInRing (closed : Closed ring) (off : locateInRing ring p ≠ .boundary) :
    Nearby p fun q => locateInRing ring q = locateInRing ring p := by
  have clear : onPath ring p = false := by
    refine Bool.eq_false_of_not_eq_true fun on => off ?_
    rw [locateInRing, if_pos on]
  refine ((nearby_offPath clear).and (nearby_windingNumber closed clear)).mono fun q both => ?_
  rw [locateInRing, locateInRing, clear, both.1, both.2]

/-- Around a number between two others, and between them, there is a range as short as it may be. -/
theorem exists_range {low high t reach : Rat} (left : low ≤ t) (right : t ≤ high) (order : low < high)
    (positive : 0 < reach) :
    ∃ a b, low ≤ a ∧ a < b ∧ b ≤ high ∧ ∀ u, a ≤ u → u ≤ b → |u - t| < reach := by
  rcases right.lt_or_eq with inner | rfl
  · refine ⟨t, min high (t + reach / 2), left, lt_min inner (by linarith), min_le_left _ _, ?_⟩
    intro u above below
    have most := below.trans (min_le_right _ _)
    rw [abs_lt]
    constructor <;> linarith
  · refine ⟨max low (t - reach / 2), t, le_max_left _ _, max_lt order (by linarith), le_rfl, ?_⟩
    intro u above below
    have least := (le_max_right _ _).trans above
    rw [abs_lt]
    constructor <;> linarith

/-- Near a position of a box, and in the box, there is a smaller box. -/
theorem Nearby.exists_box {box : Rect Rat} (near : Nearby p holds) (inside : box.Surrounds p)
    (across : box.low.x < box.high.x) (along : box.low.y < box.high.y) :
    ∃ small : Rect Rat, small.low.x < small.high.x ∧ small.low.y < small.high.y ∧
      ∀ q, small.Surrounds q → box.Surrounds q ∧ holds q := by
  obtain ⟨reach, positive, all⟩ := near
  obtain ⟨west, east, left, wide, right, near⟩ := exists_range inside.left inside.right across positive
  obtain ⟨south, north, below, tall, above, near'⟩ :=
    exists_range inside.below inside.above along positive
  refine ⟨⟨⟨west, south⟩, ⟨east, north⟩⟩, wide, tall, fun q within => ⟨?_, ?_⟩⟩
  · exact ⟨left.trans within.left, within.right.trans right, below.trans within.below,
      within.above.trans above⟩
  · exact all q (near q.x within.left within.right) (near' q.y within.below within.above)

end GeoSearch
