import GeoSearch.Geometry.Measure
import GeoSearch.Proofs.Binary64.Order
import GeoSearch.Proofs.Geometry.Location
/-!
Boxes around coordinates. A box holds exactly the positions that its coordinates span.
-/
namespace GeoSearch

open Binary64 (value)

section

variable {low high low' high' x y : Float} {numbers others : List Float}

/-! ### The lesser and the larger number -/

theorem Scalar.lt_iff (left : x.isFinite = true) (right : y.isFinite = true) :
    Scalar.lt x y = true ↔ value x < value y := by
  have model : Scalar.lt x y = decide (x < y) := rfl
  rw [model, decide_eq_true_iff, Binary64.lt_iff left right]

theorem finite_lesser (left : x.isFinite = true) (right : y.isFinite = true) :
    (lesser x y).isFinite = true := by
  unfold lesser
  split
  · exact left
  · exact right

theorem finite_larger (left : x.isFinite = true) (right : y.isFinite = true) :
    (larger x y).isFinite = true := by
  unfold larger
  split
  · exact left
  · exact right

theorem value_lesser (left : x.isFinite = true) (right : y.isFinite = true) :
    value (lesser x y) = min (value x) (value y) := by
  unfold lesser
  split
  · next less => exact (min_eq_left ((Scalar.lt_iff left right).mp less).le).symm
  · next other => exact (min_eq_right (not_lt.mp (mt (Scalar.lt_iff left right).mpr other))).symm

theorem value_larger (left : x.isFinite = true) (right : y.isFinite = true) :
    value (larger x y) = max (value x) (value y) := by
  unfold larger
  split
  · next less => exact (max_eq_left ((Scalar.lt_iff right left).mp less).le).symm
  · next other => exact (max_eq_right (not_lt.mp (mt (Scalar.lt_iff right left).mpr other))).symm

/-! ### Ranges -/

structure Ranges (low high : Float) (numbers : List Float) : Prop where
  low_finite : low.isFinite = true
  high_finite : high.isFinite = true
  low_le_iff : ∀ t, value low ≤ t ↔ ∃ x ∈ numbers, value x ≤ t
  le_high_iff : ∀ t, t ≤ value high ↔ ∃ x ∈ numbers, t ≤ value x

theorem ranges_single (finite : x.isFinite = true) : Ranges x x [x] :=
  ⟨finite, finite, by simp, by simp⟩

theorem ranges_of_ends (low_finite : low.isFinite = true) (high_finite : high.isFinite = true)
    (order : value low ≤ value high) (first : low ∈ numbers) (last : high ∈ numbers)
    (ends : ∀ x ∈ numbers, x = low ∨ x = high) : Ranges low high numbers := by
  refine ⟨low_finite, high_finite, ?_, ?_⟩
  · intro t
    refine ⟨fun below => ⟨low, first, below⟩, ?_⟩
    rintro ⟨x, member, below⟩
    rcases ends x member with rfl | rfl
    · exact below
    · exact order.trans below
  · intro t
    refine ⟨fun above => ⟨high, last, above⟩, ?_⟩
    rintro ⟨x, member, above⟩
    rcases ends x member with rfl | rfl
    · exact above.trans order
    · exact above

/-- The range of two numbers in whichever order. -/
theorem ranges_pair (left : x.isFinite = true) (right : y.isFinite = true) :
    Ranges (if Scalar.lt x y then (x, y) else (y, x)).1 (if Scalar.lt x y then (x, y) else (y, x)).2
      [x, y] := by
  split
  · next less =>
    have order := ((Scalar.lt_iff left right).mp less).le
    exact ranges_of_ends left right order (by simp) (by simp) (by simp)
  · next other =>
    have order := not_lt.mp (mt (Scalar.lt_iff left right).mpr other)
    exact ranges_of_ends right left order (by simp) (by simp) (by simp [or_comm])

namespace Ranges

theorem low_le (ranges : Ranges low high numbers) (member : x ∈ numbers) : value low ≤ value x :=
  (ranges.low_le_iff _).mpr ⟨x, member, le_rfl⟩

theorem le_high (ranges : Ranges low high numbers) (member : x ∈ numbers) : value x ≤ value high :=
  (ranges.le_high_iff _).mpr ⟨x, member, le_rfl⟩

theorem low_le_high (ranges : Ranges low high numbers) : value low ≤ value high := by
  obtain ⟨x, member, -⟩ := (ranges.low_le_iff _).mp le_rfl
  exact (ranges.low_le member).trans (ranges.le_high member)

theorem ends_eq (ranges : Ranges low high numbers) (others : Ranges low' high' numbers) :
    value low' = value low ∧ value high' = value high := by
  constructor
  · exact le_antisymm ((others.low_le_iff _).mpr ((ranges.low_le_iff _).mp le_rfl))
      ((ranges.low_le_iff _).mpr ((others.low_le_iff _).mp le_rfl))
  · exact le_antisymm ((ranges.le_high_iff _).mpr ((others.le_high_iff _).mp le_rfl))
      ((others.le_high_iff _).mpr ((ranges.le_high_iff _).mp le_rfl))

/-- A range with the same ends in value. -/
theorem congr (ranges : Ranges low high numbers) (low_finite : low'.isFinite = true)
    (high_finite : high'.isFinite = true) (low_eq : value low' = value low)
    (high_eq : value high' = value high) : Ranges low' high' numbers where
  low_finite := low_finite
  high_finite := high_finite
  low_le_iff := low_eq ▸ ranges.low_le_iff
  le_high_iff := high_eq ▸ ranges.le_high_iff

theorem of_mem_iff (ranges : Ranges low high numbers) (same : ∀ x, x ∈ others ↔ x ∈ numbers) :
    Ranges low high others where
  low_finite := ranges.low_finite
  high_finite := ranges.high_finite
  low_le_iff t := by simp only [ranges.low_le_iff, same]
  le_high_iff t := by simp only [ranges.le_high_iff, same]

theorem within {least most : Rat} (ranges : Ranges low high numbers)
    (each : ∀ x ∈ numbers, least ≤ value x ∧ value x ≤ most) :
    least ≤ value low ∧ value high ≤ most := by
  obtain ⟨x, first, below⟩ := (ranges.low_le_iff _).mp le_rfl
  obtain ⟨y, last, above⟩ := (ranges.le_high_iff _).mp le_rfl
  exact ⟨(each x first).1.trans below, above.trans (each y last).2⟩

/-- Where numbers are moved and stay in order, what was in their range is moved into the new one. -/
theorem image {α : Type} {items : List α} {before after : α → Float} {move : Rat → Rat} {t : Rat}
    (ranges : Ranges low high (items.map before)) (others : Ranges low' high' (items.map after))
    (mono : ∀ {s t}, s ≤ t → move s ≤ move t)
    (moved : ∀ a ∈ items, value (after a) = move (value (before a)))
    (least : value low ≤ t) (most : t ≤ value high) : value low' ≤ move t ∧ move t ≤ value high' := by
  rw [ranges.low_le_iff] at least
  rw [ranges.le_high_iff] at most
  rw [others.low_le_iff, others.le_high_iff]
  constructor
  · obtain ⟨_, listed, below⟩ := least
    obtain ⟨a, member, rfl⟩ := List.mem_map.mp listed
    exact ⟨after a, List.mem_map_of_mem member, (moved a member).trans_le (mono below)⟩
  · obtain ⟨_, listed, above⟩ := most
    obtain ⟨a, member, rfl⟩ := List.mem_map.mp listed
    exact ⟨after a, List.mem_map_of_mem member, (mono above).trans_eq (moved a member).symm⟩

theorem merge (first : Ranges low high numbers) (second : Ranges low' high' others) :
    Ranges (lesser low low') (larger high high') (numbers ++ others) where
  low_finite := finite_lesser first.low_finite second.low_finite
  high_finite := finite_larger first.high_finite second.high_finite
  low_le_iff t := by
    simp only [value_lesser first.low_finite second.low_finite, min_le_iff, first.low_le_iff,
      second.low_le_iff, List.mem_append, or_and_right, exists_or]
  le_high_iff t := by
    simp only [value_larger first.high_finite second.high_finite, le_max_iff, first.le_high_iff,
      second.le_high_iff, List.mem_append, or_and_right, exists_or]

/-- Widening a range is merging it with a single number. -/
theorem widen {range : Float × Float} (ranges : Ranges range.1 range.2 numbers)
    (finite : x.isFinite = true) : Ranges (widen range x).1 (widen range x).2 (numbers ++ [x]) := by
  have merged := ranges.merge (ranges_single finite)
  have least := value_lesser ranges.low_finite finite
  have greatest := value_larger ranges.high_finite finite
  have order := ranges.low_le_high
  have above := Scalar.lt_iff ranges.high_finite finite
  have below := Scalar.lt_iff finite ranges.low_finite
  -- only one end is widened; the other one is the lesser or larger of the two as it stands
  unfold GeoSearch.widen
  split
  · next higher =>
    have higher := above.mp higher
    rw [min_eq_left (order.trans higher.le)] at least
    rw [max_eq_right higher.le] at greatest
    exact merged.congr ranges.low_finite finite least.symm greatest.symm
  · next inner =>
    have inner := not_lt.mp (mt above.mpr inner)
    rw [max_eq_left inner] at greatest
    split
    · next lower =>
      rw [min_eq_right (below.mp lower).le] at least
      exact merged.congr finite ranges.high_finite least.symm greatest.symm
    · next within =>
      rw [min_eq_left (not_lt.mp (mt below.mpr within))] at least
      exact merged.congr ranges.low_finite ranges.high_finite least.symm greatest.symm

/-- Exchanging ends that are not in order keeps a range: they are equal. -/
theorem ordered (ranges : Ranges low high numbers) :
    Ranges (if Scalar.lt low high then (low, high) else (high, low)).1
      (if Scalar.lt low high then (low, high) else (high, low)).2 numbers := by
  split
  · exact ranges
  · next other =>
    have less := mt (Scalar.lt_iff ranges.low_finite ranges.high_finite).mpr other
    have same := le_antisymm (not_lt.mp less) ranges.low_le_high
    exact ranges.congr ranges.high_finite ranges.low_finite same same.symm

theorem foldl {range : Float × Float} {further : List Float} (ranges : Ranges range.1 range.2 numbers)
    (finite : ∀ x ∈ further, x.isFinite = true) :
    Ranges (further.foldl GeoSearch.widen range).1 (further.foldl GeoSearch.widen range).2
      (numbers ++ further) := by
  induction further generalizing range numbers with
  | nil =>
    rw [List.append_nil]
    exact ranges
  | cons x rest ih =>
    rw [List.foldl_cons, List.append_cons]
    exact ih (ranges.widen (finite x (List.mem_cons_self ..)))
      fun y member => finite y (List.mem_cons_of_mem _ member)

end Ranges

end

/-! ### Boxes -/

namespace Rect

variable {box other : Rect Float} {coords others : List (Coord Float)} {p : Position}

structure Holds (box : Rect Float) (p : Position) : Prop where
  left : value box.low.x ≤ p.x
  right : p.x ≤ value box.high.x
  below : value box.low.y ≤ p.y
  above : p.y ≤ value box.high.y

structure Frames (box : Rect Float) (coords : List (Coord Float)) : Prop where
  across : Ranges box.low.x box.high.x (coords.map (·.x))
  along : Ranges box.low.y box.high.y (coords.map (·.y))

namespace Frames

theorem holds_iff (frames : box.Frames coords) : box.Holds p ↔ Spans (coords.map Coord.exact) p := by
  have positions (holds : Position → Prop) :
      (∃ a ∈ coords.map Coord.exact, holds a) ↔ ∃ c ∈ coords, holds c.exact := by simp
  have numbers (coordinate : Coord Float → Float) (holds : Float → Prop) :
      (∃ x ∈ coords.map coordinate, holds x) ↔ ∃ c ∈ coords, holds (coordinate c) := by simp
  constructor
  · rintro ⟨left, right, below, above⟩
    rw [frames.across.low_le_iff, numbers] at left
    rw [frames.across.le_high_iff, numbers] at right
    rw [frames.along.low_le_iff, numbers] at below
    rw [frames.along.le_high_iff, numbers] at above
    exact ⟨(positions _).mpr left, (positions _).mpr right, (positions _).mpr below,
      (positions _).mpr above⟩
  · rintro ⟨left, right, below, above⟩
    constructor
    · rw [frames.across.low_le_iff, numbers]
      exact (positions _).mp left
    · rw [frames.across.le_high_iff, numbers]
      exact (positions _).mp right
    · rw [frames.along.low_le_iff, numbers]
      exact (positions _).mp below
    · rw [frames.along.le_high_iff, numbers]
      exact (positions _).mp above

theorem exists_mem (frames : box.Frames coords) : ∃ c, c ∈ coords := by
  obtain ⟨_, listed, -⟩ := (frames.across.low_le_iff _).mp le_rfl
  obtain ⟨c, member, -⟩ := List.mem_map.mp listed
  exact ⟨c, member⟩

end Frames

theorem frames_ofCorners {a b : Coord Float} (across : Ranges a.x b.x (coords.map (·.x)))
    (along : Ranges a.y b.y (coords.map (·.y))) : (ofCorners a b).Frames coords :=
  ⟨across.ordered, along.ordered⟩

theorem Frames.merge (first : box.Frames coords) (second : other.Frames others) :
    (box.merge other).Frames (coords ++ others) := by
  apply frames_ofCorners
  · rw [List.map_append]
    exact first.across.merge second.across
  · rw [List.map_append]
    exact first.along.merge second.along

end Rect

def Framed (found : Option (Rect Float)) (coords : List (Coord Float)) : Prop :=
  match found with
  | some box => box.Frames coords
  | none => coords = []

theorem Framed.of_mem_iff {found : Option (Rect Float)} {coords written : List (Coord Float)}
    (framed : Framed found coords) (same : ∀ c, c ∈ written ↔ c ∈ coords) :
    Framed found written := by
  cases found with
  | none =>
    obtain rfl : coords = [] := framed
    exact List.eq_nil_iff_forall_not_mem.mpr fun c member => List.not_mem_nil ((same c).mp member)
  | some box =>
    have frames : box.Frames coords := framed
    constructor
    · exact frames.across.of_mem_iff (by simp [same])
    · exact frames.along.of_mem_iff (by simp [same])

def Coord.Finite (c : Coord Float) : Prop := c.x.isFinite = true ∧ c.y.isFinite = true

instance (c : Coord Float) : Decidable c.Finite := inferInstanceAs (Decidable (_ ∧ _))

theorem framed_boundsOf {coords : List (Coord Float)} (finite : ∀ c ∈ coords, c.Finite) :
    Framed (boundsOf coords) coords := by
  cases coords with
  | nil => rfl
  | cons first rest =>
    have widened (coordinate : Coord Float → Float)
        (finite : ∀ c ∈ first :: rest, (coordinate c).isFinite = true) :
        let range := rest.foldl (fun range c => widen range (coordinate c))
          (coordinate first, coordinate first)
        Ranges range.1 range.2 ((first :: rest).map coordinate) := by
      have single : Ranges (coordinate first, coordinate first).1 (coordinate first, coordinate first).2
          [coordinate first] := ranges_single (finite first (List.mem_cons_self ..))
      have known : ∀ x ∈ rest.map coordinate, x.isFinite = true := by
        intro x member
        obtain ⟨c, below, rfl⟩ := List.mem_map.mp member
        exact finite c (List.mem_cons_of_mem _ below)
      have ranges := single.foldl known
      rw [List.foldl_map] at ranges
      exact ranges
    exact Rect.frames_ofCorners (widened _ fun c member => (finite c member).1)
      (widened _ fun c member => (finite c member).2)

theorem framed_mergeBounds {found other : Option (Rect Float)} {coords others : List (Coord Float)}
    (first : Framed found coords) (second : Framed other others) :
    Framed (mergeBounds found other) (coords ++ others) := by
  cases found with
  | none =>
    obtain rfl : coords = [] := first
    exact second
  | some box =>
    cases other with
    | none =>
      obtain rfl : others = [] := second
      rw [List.append_nil]
      exact first
    | some other => exact first.merge second

end GeoSearch
