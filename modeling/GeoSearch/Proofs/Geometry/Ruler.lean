import GeoSearch.Proofs.Geometry.Location
import Mathlib.Algebra.BigOperators.Ring.List
import Mathlib.Algebra.Order.BigOperators.Group.List
import Mathlib.Data.Finset.Sort
import Mathlib.Tactic.Linarith
import Mathlib.Tactic.Ring
/-!
Rulers, and sums along them. A function that is read at the middle of each cell, and weighed with the
cell's width, sums up to what it measures, as long as it is straight on each cell.
-/
namespace GeoSearch

/-- Marks in increasing order from `low` to `high`. -/
structure Ruler (low high : Rat) where
  marks : List Rat
  increasing : marks.Pairwise (· < ·)
  first : marks.head? = some low
  last : marks.getLast? = some high

abbrev Cell := Rat × Rat

def Cell.middle (cell : Cell) : Rat := (cell.1 + cell.2) / 2

namespace Ruler

variable {low high : Rat}

def cells (r : Ruler low high) : List Cell := r.marks.zip r.marks.tail

def sum (r : Ruler low high) (f : Rat → Rat) : Rat :=
  (r.cells.map fun cell => (cell.2 - cell.1) * f cell.middle).sum

/-! ### Rulers with given marks -/

theorem head?_of_least {marks : List Rat} (increasing : marks.Pairwise (· < ·)) (member : low ∈ marks)
    (least : ∀ t ∈ marks, low ≤ t) : marks.head? = some low := by
  cases marks with
  | nil => cases member
  | cons first rest =>
    rcases List.mem_cons.mp member with rfl | later
    · rfl
    · have less := List.rel_of_pairwise_cons increasing later
      exact absurd (least first List.mem_cons_self) (not_le.mpr less)

theorem getLast?_of_greatest {marks : List Rat} (increasing : marks.Pairwise (· < ·))
    (member : high ∈ marks) (greatest : ∀ t ∈ marks, t ≤ high) : marks.getLast? = some high := by
  have some : marks ≠ [] := List.ne_nil_of_mem member
  rw [List.getLast?_eq_some_getLast some]
  have ends := List.dropLast_append_getLast some
  rw [← ends] at member increasing
  rcases List.mem_append.mp member with earlier | last
  · have less := (List.pairwise_append.mp increasing).2.2 high earlier _ (List.mem_singleton_self _)
    exact absurd (greatest _ (List.getLast_mem some)) (not_le.mpr less)
  · rw [List.mem_singleton.mp last]

def through (order : low ≤ high) (marks : List Rat) : Ruler low high :=
  let kept := (low :: high :: marks.filter fun t => low ≤ t ∧ t ≤ high).toFinset
  have between : ∀ t ∈ kept.sort, low ≤ t ∧ t ≤ high := by
    intro t member
    rw [Finset.mem_sort, List.mem_toFinset] at member
    rcases List.mem_cons.mp member with rfl | member
    · exact ⟨le_rfl, order⟩
    · rcases List.mem_cons.mp member with rfl | member
      · exact ⟨order, le_rfl⟩
      · exact of_decide_eq_true (List.mem_filter.mp member).2
  have increasing : kept.sort.Pairwise (· < ·) := kept.sortedLT_sort.pairwise
  { marks := kept.sort
    increasing
    first := head?_of_least increasing ((Finset.mem_sort _).mpr (by simp [kept]))
      fun t member => (between t member).1
    last := getLast?_of_greatest increasing ((Finset.mem_sort _).mpr (by simp [kept]))
      fun t member => (between t member).2 }

theorem mem_through (order : low ≤ high) {marks : List Rat} {t : Rat} (member : t ∈ marks)
    (left : low ≤ t) (right : t ≤ high) : t ∈ (through order marks).marks := by
  refine (Finset.mem_sort _).mpr (List.mem_toFinset.mpr ?_)
  exact List.mem_cons_of_mem _ (List.mem_cons_of_mem _
    (List.mem_filter.mpr ⟨member, decide_eq_true ⟨left, right⟩⟩))

/-! ### Cells -/

variable {r : Ruler low high} {cell : Cell} {f g : Rat → Rat} {t : Rat}

theorem lt_of_zip {marks : List Rat} (increasing : marks.Pairwise (· < ·))
    (member : cell ∈ marks.zip marks.tail) : cell.1 < cell.2 := by
  induction marks with
  | nil => cases member
  | cons a rest ih =>
    cases rest with
    | nil => cases member
    | cons b rest =>
      rcases List.mem_cons.mp member with rfl | later
      · exact List.rel_of_pairwise_cons increasing List.mem_cons_self
      · exact ih (List.Pairwise.of_cons increasing) later

theorem beside_of_zip {marks : List Rat} (increasing : marks.Pairwise (· < ·)) (mark : t ∈ marks)
    (member : cell ∈ marks.zip marks.tail) : t ≤ cell.1 ∨ cell.2 ≤ t := by
  induction marks with
  | nil => cases member
  | cons a rest ih =>
    cases rest with
    | nil => cases member
    | cons b rest =>
      have ordered := List.Pairwise.of_cons increasing
      rcases List.mem_cons.mp member with rfl | later
      · rcases List.mem_cons.mp mark with rfl | mark
        · exact .inl le_rfl
        · rcases List.mem_cons.mp mark with rfl | mark
          · exact .inr le_rfl
          · exact .inr (List.rel_of_pairwise_cons ordered mark).le
      · rcases List.mem_cons.mp mark with rfl | mark
        · exact .inl (List.rel_of_pairwise_cons increasing (List.of_mem_zip later).1).le
        · exact ih ordered mark later

theorem lt_of_mem (member : cell ∈ r.cells) : cell.1 < cell.2 := lt_of_zip r.increasing member

/-- A mark is not inside a cell. -/
theorem beside (mark : t ∈ r.marks) (member : cell ∈ r.cells) : t ≤ cell.1 ∨ cell.2 ≤ t :=
  beside_of_zip r.increasing mark member

theorem lt_middle (member : cell ∈ r.cells) : cell.1 < cell.middle ∧ cell.middle < cell.2 := by
  have order := lt_of_mem member
  unfold Cell.middle
  constructor <;> linarith

/-- The middle of a cell is no mark. -/
theorem middle_not_mark (member : cell ∈ r.cells) : cell.middle ∉ r.marks := by
  intro mark
  obtain ⟨left, right⟩ := lt_middle member
  rcases beside mark member with below | above
  · exact absurd left (not_lt.mpr below)
  · exact absurd right (not_lt.mpr above)

theorem low_mem : low ∈ r.marks := List.mem_of_head? r.first

theorem low_le (mark : t ∈ r.marks) : low ≤ t := by
  have first := r.first
  have increasing := r.increasing
  cases found : r.marks with
  | nil => simp [found] at mark
  | cons a rest =>
    rw [found] at first mark increasing
    cases first
    rcases List.mem_cons.mp mark with rfl | later
    · exact le_rfl
    · exact (List.rel_of_pairwise_cons increasing later).le

theorem le_high (mark : t ∈ r.marks) : t ≤ high := by
  have some : r.marks ≠ [] := List.ne_nil_of_mem mark
  have last := r.last
  have increasing := r.increasing
  rw [List.getLast?_eq_some_getLast some] at last
  rw [← List.dropLast_append_getLast some, Option.some.inj last] at mark increasing
  rcases List.mem_append.mp mark with earlier | same
  · exact ((List.pairwise_append.mp increasing).2.2 t earlier high (List.mem_singleton_self _)).le
  · exact (List.mem_singleton.mp same).le

theorem marks_of_mem (member : cell ∈ r.cells) : cell.1 ∈ r.marks ∧ cell.2 ∈ r.marks :=
  ⟨(List.of_mem_zip member).1, List.mem_of_mem_tail (List.of_mem_zip member).2⟩

/-- The middle of a cell is between the ends. -/
theorem middle_within (member : cell ∈ r.cells) : low < cell.middle ∧ cell.middle < high := by
  obtain ⟨first, second⟩ := marks_of_mem member
  obtain ⟨left, right⟩ := lt_middle member
  exact ⟨(low_le first).trans_lt left, right.trans_le (le_high second)⟩

/-! ### Sums -/

/-- A function sums up to what another one gains, if it does so on each cell. -/
theorem sum_of_gains (F : Rat → Rat)
    (gains : ∀ cell ∈ r.cells, (cell.2 - cell.1) * f cell.middle = F cell.2 - F cell.1) :
    r.sum f = F high - F low := by
  rw [sum, List.map_congr_left gains]
  have first := r.first
  have last := r.last
  unfold cells
  cases found : r.marks with
  | nil => simp [found] at first
  | cons a rest =>
    rw [found] at first last
    cases first
    rw [List.getLast?_eq_some_getLast (List.cons_ne_nil _ _)] at last
    rw [List.tail_cons, sum_steps, Option.some.inj last]

theorem sum_const (r : Ruler low high) (t : Rat) : r.sum (fun _ => t) = (high - low) * t := by
  rw [sum_of_gains (fun x => x * t) fun _ _ => sub_mul .., ← sub_mul]

theorem sum_add (r : Ruler low high) (f g : Rat → Rat) :
    r.sum (fun x => f x + g x) = r.sum f + r.sum g := by
  simp only [sum, mul_add]
  exact List.sum_map_add

theorem sum_mul_left (r : Ruler low high) (t : Rat) (f : Rat → Rat) :
    r.sum (fun x => t * f x) = t * r.sum f := by
  simp only [sum, mul_left_comm _ t]
  exact List.sum_map_mul_left ..

theorem sum_list {α : Type} (r : Ruler low high) (items : List α) (f : α → Rat → Rat) :
    r.sum (fun x => (items.map (f · x)).sum) = (items.map fun item => r.sum (f item)).sum := by
  induction items with
  | nil => exact (r.sum_const 0).trans (mul_zero _)
  | cons item rest ih =>
    simp only [List.map_cons, List.sum_cons]
    rw [sum_add, ih]

theorem sum_congr (same : ∀ cell ∈ r.cells, f cell.middle = g cell.middle) : r.sum f = r.sum g := by
  unfold sum
  rw [List.map_congr_left fun cell member => congrArg _ (same cell member)]

theorem sum_le_sum (order : ∀ cell ∈ r.cells, f cell.middle ≤ g cell.middle) :
    r.sum f ≤ r.sum g :=
  List.sum_le_sum fun cell member =>
    mul_le_mul_of_nonneg_left (order cell member) (sub_nonneg.mpr (lt_of_mem member).le)

/-- Of a straight line the part between two marks. -/
theorem sum_window {a b : Rat} (first : a ∈ r.marks) (second : b ∈ r.marks) (order : a ≤ b)
    (slope offset : Rat) :
    r.sum (fun x => if a ≤ x ∧ x < b then slope * x + offset else 0) =
      (b - a) * (slope * ((a + b) / 2) + offset) := by
  let primitive (x : Rat) : Rat := slope / 2 * x ^ 2 + offset * x
  have gains : ∀ cell ∈ r.cells, (cell.2 - cell.1) *
      (if a ≤ cell.middle ∧ cell.middle < b then slope * cell.middle + offset else 0) =
      primitive (max a (min cell.2 b)) - primitive (max a (min cell.1 b)) := by
    intro cell member
    obtain ⟨left, right⟩ := lt_middle member
    rcases beside first member with inner | before
    · rcases beside second member with after | inner'
      · rw [if_neg fun inside => absurd inside.2 (not_lt.mpr (after.trans left.le)),
          min_eq_right (after.trans (left.trans right).le), min_eq_right after, mul_zero, sub_self]
      · rw [if_pos ⟨inner.trans left.le, right.trans_le inner'⟩, min_eq_left inner',
          min_eq_left ((left.trans right).le.trans inner'), max_eq_right inner,
          max_eq_right (inner.trans (left.trans right).le)]
        unfold Cell.middle primitive
        ring
    · rw [if_neg fun inside => absurd inside.1 (not_le.mpr (right.trans_le before)),
        max_eq_left ((min_le_left _ _).trans before),
        max_eq_left ((min_le_left _ _).trans ((left.trans right).le.trans before)), mul_zero, sub_self]
  have lowest : low ≤ a := low_le first
  have highest : b ≤ high := le_high second
  rw [sum_of_gains (fun x => primitive (max a (min x b))) gains, min_eq_right highest, max_eq_right order,
    max_eq_left ((min_le_left _ _).trans lowest)]
  unfold primitive
  ring

/-- What is to the left of a mark. -/
theorem sum_before (mark : t ∈ r.marks) : r.sum (fun x => if x < t then 1 else 0) = t - low := by
  have window := sum_window low_mem mark (low_le mark) 0 1
  rw [zero_mul, zero_add, mul_one] at window
  rw [← window]
  refine sum_congr fun cell member => ?_
  have inside := (middle_within member).1.le
  simp [inside]

end Ruler

end GeoSearch
