import GeoSearch.Geometry.Grid
import GeoSearch.Proofs.Geometry.Grid
import GeoSearch.Proofs.Geometry.Whole
import Mathlib.Tactic.NormNum
/-!
The level of a geohash grid that fits a budget of cells best. A level has 32 times the cells of the level
above it, so that of two neighbours the deeper one is nearer to the budget just if the budget is not
below their middle. The level that the scan finds is the last one of which that holds.
-/
namespace GeoSearch.Grid

variable {box part : Rect Rat} {budget more level deeper : Nat}

/-! ### Cells -/

theorem greatest_rat (x y : Rat) : Scalar.greatest x y = max x y := by
  rw [max_def_lt]
  rfl

theorem least_rat (x y : Rat) : Scalar.least x y = min x y := by
  rw [min_comm, min_def_lt]
  rfl

def areaInWorld (box : Rect Rat) : Rat :=
  max (min box.high.x 180 - max box.low.x (-180)) 0 * max (min box.high.y 90 - max box.low.y (-90)) 0

theorem cellCount_rat (box : Rect Rat) (level : Nat) :
    cellCount box level = areaInWorld box / 64800 * 32 ^ level := by
  have bits : longitudeBits level + latitudeBits level = 5 * level := by
    unfold longitudeBits latitudeBits
    omega
  have cells : (2 : Rat) ^ longitudeBits level * 2 ^ latitudeBits level = 32 ^ level := by
    rw [← pow_add, bits, pow_mul]
    norm_num
  have sizes : cellCount box level =
      max (min box.high.x 180 - max box.low.x (-180)) 0 / (360 / 2 ^ longitudeBits level) *
        (max (min box.high.y 90 - max box.low.y (-90)) 0 / (180 / 2 ^ latitudeBits level)) := by
    simp [cellCount, greatest_rat, least_rat, cellWidth, cellHeight, Scalar.ofInt]
  rw [sizes, ← cells, areaInWorld, div_div_eq_mul_div, div_div_eq_mul_div]
  ring

theorem areaInWorld_nonneg (box : Rect Rat) : 0 ≤ areaInWorld box :=
  mul_nonneg (le_max_right _ _) (le_max_right _ _)

theorem areaInWorld_le (box : Rect Rat) : areaInWorld box ≤ 64800 := by
  have across : max (min box.high.x 180 - max box.low.x (-180)) 0 ≤ 360 :=
    max_le (by linarith [min_le_right box.high.x 180, le_max_right box.low.x (-180)]) (by norm_num)
  have along : max (min box.high.y 90 - max box.low.y (-90)) 0 ≤ 180 :=
    max_le (by linarith [min_le_right box.high.y 90, le_max_right box.low.y (-90)]) (by norm_num)
  calc areaInWorld box ≤ 360 * 180 := mul_le_mul across along (le_max_right _ _) (by norm_num)
    _ = 64800 := by norm_num

/-- A box that has all its positions of the world in another one has no more area of the world. -/
theorem areaInWorld_mono
    (within : ∀ p, (world : Rect Rat).Surrounds p → part.Surrounds p → box.Surrounds p) :
    areaInWorld part ≤ areaInWorld box := by
  by_cases empty : min part.high.x 180 < max part.low.x (-180) ∨
      min part.high.y 90 < max part.low.y (-90)
  · have none : areaInWorld part = 0 := by
      rcases empty with across | along
      · rw [areaInWorld, max_eq_right (sub_nonpos.mpr across.le), zero_mul]
      · rw [areaInWorld, max_eq_right (sub_nonpos.mpr along.le), mul_zero]
    rw [none]
    exact areaInWorld_nonneg box
  · obtain ⟨across, along⟩ := not_or.mp empty
    rw [not_lt] at across along
    rw [world_rat] at within
    have low := within ⟨max part.low.x (-180), max part.low.y (-90)⟩
      ⟨le_max_right _ _, across.trans (min_le_right _ _), le_max_right _ _,
        along.trans (min_le_right _ _)⟩
      ⟨le_max_left _ _, across.trans (min_le_left _ _), le_max_left _ _,
        along.trans (min_le_left _ _)⟩
    have high := within ⟨min part.high.x 180, min part.high.y 90⟩
      ⟨(le_max_right _ _).trans across, min_le_right _ _, (le_max_right _ _).trans along,
        min_le_right _ _⟩
      ⟨(le_max_left _ _).trans across, min_le_left _ _, (le_max_left _ _).trans along,
        min_le_left _ _⟩
    refine mul_le_mul (max_le_max_right 0 (sub_le_sub ?_ ?_)) (max_le_max_right 0 (sub_le_sub ?_ ?_))
      (le_max_right _ _) (le_max_right _ _)
    · exact le_min high.right (min_le_right _ _)
    · exact max_le low.left (le_max_right _ _)
    · exact le_min high.above (min_le_right _ _)
    · exact max_le low.below (le_max_right _ _)

theorem cellCount_succ (box : Rect Rat) (level : Nat) :
    cellCount box (level + 1) = 32 * cellCount box level := by
  rw [cellCount_rat, cellCount_rat, pow_succ]
  ring

theorem cellCount_nonneg (box : Rect Rat) (level : Nat) : 0 ≤ cellCount box level := by
  rw [cellCount_rat]
  exact mul_nonneg (div_nonneg (areaInWorld_nonneg box) (by norm_num)) (by positivity)

theorem cellCount_mono (box : Rect Rat) (order : level ≤ deeper) :
    cellCount box level ≤ cellCount box deeper := by
  refine monotone_nat_of_le_succ (fun n => ?_) order
  rw [cellCount_succ]
  linarith [cellCount_nonneg box n]

theorem cellCount_le_of_within
    (within : ∀ p, (world : Rect Rat).Surrounds p → part.Surrounds p → box.Surrounds p) (level : Nat) :
    cellCount part level ≤ cellCount box level := by
  rw [cellCount_rat, cellCount_rat]
  exact mul_le_mul_of_nonneg_right (div_le_div_of_nonneg_right (areaInWorld_mono within) (by norm_num))
    (by positivity)

theorem cellCount_zero_le (box : Rect Rat) : cellCount box 0 ≤ 1 := by
  rw [cellCount_rat, pow_zero, mul_one, div_le_one (by norm_num)]
  exact areaInWorld_le box

/-! ### Levels -/

/-- A level is worth going down to from the one above it: it is not farther from the budget. -/
def Worth (box : Rect Rat) (budget level : Nat) : Prop :=
  cellCount box level + cellCount box (level + 1) ≤ 2 * budget

/-- The scan goes down just to the last level that is worth it. -/
structure Fits (box : Rect Rat) (budget start level : Nat) : Prop where
  start_le : start ≤ level
  le_deepest : level ≤ deepest
  worth : ∀ n, start ≤ n → n < deepest → (n < level ↔ Worth box budget n)

theorem Worth.mono (order : level ≤ deeper) (worth : Worth box budget deeper) :
    Worth box budget level :=
  (add_le_add (cellCount_mono box order) (cellCount_mono box (Nat.succ_le_succ order))).trans worth

/-- Where a level exceeds the budget, the nearer one of it and the level above it is the last. -/
theorem fits_of_exceeded {start : Nat} (exceeded : (budget : Rat) < cellCount box (start + 1))
    (levels : start < deepest) :
    Fits box budget start (if (budget : Rat) - cellCount box start < cellCount box (start + 1) - budget
      then start else start + 1) := by
  split
  · next far =>
    refine ⟨le_rfl, levels.le, fun n after _ => ⟨fun before => absurd before (not_lt.mpr after), ?_⟩⟩
    intro worth
    have first : Worth box budget start := worth.mono after
    unfold Worth at first
    linarith
  · next near =>
    refine ⟨Nat.le_succ start, levels, fun n after _ => ⟨fun before => ?_, fun worth => ?_⟩⟩
    · rw [Nat.le_antisymm (Nat.lt_succ_iff.mp before) after]
      unfold Worth
      linarith
    · by_contra beyond
      have next : Worth box budget (start + 1) := worth.mono (not_lt.mp beyond)
      have grows := cellCount_mono box (Nat.le_succ (start + 1))
      unfold Worth at next
      linarith

/-- The scan finds the level that fits, if the level above its first one does not exceed the budget. -/
theorem fits_fitFrom {rest start : Nat} (levels : rest + start = deepest)
    (short : cellCount box start ≤ budget) :
    Fits box budget start (fitFrom box (Scalar.ofInt budget) rest (start + 1)) := by
  induction rest generalizing start with
  | zero =>
    rw [Nat.zero_add] at levels
    exact ⟨levels.le, le_rfl, fun n after before => absurd before (not_lt.mpr (levels ▸ after))⟩
  | succ rest ih =>
    by_cases exceeded : (budget : Rat) < cellCount box (start + 1)
    · have stops : fitFrom box (Scalar.ofInt budget) (rest + 1) (start + 1) =
          if (budget : Rat) - cellCount box start < cellCount box (start + 1) - budget
            then start else start + 1 := by
        simp [fitFrom, Scalar.lt, Scalar.ofInt, exceeded]
      rw [stops]
      exact fits_of_exceeded exceeded (by omega)
    · have goes : fitFrom box (Scalar.ofInt budget) (rest + 1) (start + 1) =
          fitFrom box (Scalar.ofInt budget) rest (start + 1 + 1) := by
        simp [fitFrom, Scalar.lt, Scalar.ofInt, exceeded]
      rw [goes]
      rw [not_lt] at exceeded
      have fits := ih (by omega : rest + (start + 1) = deepest) exceeded
      have below := fits.start_le
      refine ⟨by omega, fits.le_deepest, fun n after before => ?_⟩
      rcases Nat.eq_or_lt_of_le after with rfl | later
      · refine ⟨fun _ => ?_, fun _ => by omega⟩
        unfold Worth
        linarith
      · exact fits.worth n later before

/-- With a budget, each level up to the found one is worth it, and none after. -/
theorem fits_precision (box : Rect Rat) (some : 1 ≤ budget) :
    Fits box budget 0 (precision box budget) := by
  have whole : (1 : Rat) ≤ budget := by exact_mod_cast some
  exact fits_fitFrom rfl ((cellCount_zero_le box).trans whole)

/-- A level is worth it just if it is not farther from the budget than the one above it. -/
theorem worth_iff : Worth box budget level ↔
    |cellCount box (level + 1) - budget| ≤ |cellCount box level - budget| := by
  have grows := cellCount_mono box (Nat.le_succ level)
  rw [← sq_le_sq, ← sub_nonneg]
  have apart : (cellCount box level - budget) ^ 2 - (cellCount box (level + 1) - budget) ^ 2 =
      31 * (cellCount box level * (2 * budget - (cellCount box level + cellCount box (level + 1)))) := by
    rw [cellCount_succ]
    ring
  rw [apart, Worth, ← sub_nonneg]
  rcases (cellCount_nonneg box level).eq_or_lt with none | some
  · rw [cellCount_succ, ← none]
    simp
  · rw [mul_nonneg_iff_of_pos_left (by norm_num), mul_nonneg_iff_of_pos_left some]

namespace Fits

variable {found : Nat} (fits : Fits box budget 0 found)

include fits

/-- Down to the level that fits, each level is as near as those above it. -/
theorem near_of_le (order : level ≤ found) :
    |cellCount box found - budget| ≤ |cellCount box level - budget| := by
  suffices through : ∀ n, level ≤ n → n ≤ found →
      |cellCount box n - budget| ≤ |cellCount box level - budget| from through found order le_rfl
  intro n after
  induction n, after using Nat.le_induction with
  | base => exact fun _ => le_rfl
  | succ n _ ih =>
    intro before
    have worth := (fits.worth n (Nat.zero_le n) (before.trans fits.le_deepest)).mp before
    exact (worth_iff.mp worth).trans (ih (Nat.le_of_succ_le before))

/-- Below the level that fits, each level is farther from the budget. -/
theorem far_of_lt (order : found < level) (known : level ≤ deepest) :
    |cellCount box found - budget| < |cellCount box level - budget| := by
  have farther {n : Nat} (after : found ≤ n) (before : n < deepest) :
      |cellCount box n - budget| < |cellCount box (n + 1) - budget| := by
    refine lt_of_not_ge fun near => ?_
    exact absurd ((fits.worth n (Nat.zero_le n) before).mpr (worth_iff.mpr near)) (not_lt.mpr after)
  induction level, order using Nat.le_induction with
  | base => exact farther le_rfl known
  | succ n after ih =>
    exact (ih (Nat.le_of_succ_le known)).trans (farther (Nat.le_of_succ_le after) known)

/-- More levels are worth it with a larger budget, or with fewer cells. -/
theorem le_of_worth {other : Rect Rat} {found' : Nat} (fits' : Fits other more 0 found')
    (worth : ∀ n, Worth box budget n → Worth other more n) : found ≤ found' := by
  by_contra less
  rw [not_le] at less
  have below : found' < deepest := less.trans_le fits.le_deepest
  have last := (fits.worth found' (Nat.zero_le _) below).mp less
  exact lt_irrefl found' ((fits'.worth found' (Nat.zero_le _) below).mpr (worth found' last))

end Fits

/-- The level whose number of cells is nearest to the budget, and of two that are as near the deeper one.
More budget or less of the world gives no level that is less deep. -/
theorem precision_fits (box : Rect Rat) (budget : Nat) (some : 1 ≤ budget) :
    precision box budget ≤ deepest ∧
    (∀ level ≤ deepest,
      |cellCount box (precision box budget) - budget| ≤ |cellCount box level - budget| ∧
      (|cellCount box level - budget| = |cellCount box (precision box budget) - budget| →
        level ≤ precision box budget)) ∧
    (∀ more, budget ≤ more → precision box budget ≤ precision box more) ∧
    ∀ part : Rect Rat, (∀ p, (world : Rect Rat).Surrounds p → part.Surrounds p → box.Surrounds p) →
      precision box budget ≤ precision part budget := by
  have fits := fits_precision box some
  refine ⟨fits.le_deepest, fun level known => ⟨?_, fun same => ?_⟩, fun more order => ?_,
    fun part within => ?_⟩
  · rcases le_or_gt level (precision box budget) with above | below
    · exact fits.near_of_le above
    · exact (fits.far_of_lt below known).le
  · by_contra below
    exact (fits.far_of_lt (not_le.mp below) known).ne same.symm
  · refine fits.le_of_worth (fits_precision box (some.trans order)) fun n worth => worth.trans ?_
    have larger : (budget : Rat) ≤ more := by exact_mod_cast order
    linarith
  · refine fits.le_of_worth (fits_precision part some) fun n worth => le_trans ?_ worth
    exact add_le_add (cellCount_le_of_within within n) (cellCount_le_of_within within (n + 1))

/-- A box that is wider and higher than the world has 1024 cells on the second level, which is nearest to
1500; the north of the world is not seen less deep. -/
theorem precision_fits_wider_than_world :
    let wide : Rect Rat := ⟨⟨-400, -100⟩, ⟨400, 100⟩⟩
    let north : Rect Rat := ⟨⟨-180, 0⟩, ⟨180, 90⟩⟩
    1 ≤ 1500 ∧ precision wide 1500 = 2 ∧ cellCount wide 2 = 1024 ∧
      |cellCount wide 2 - (1500 : Nat)| ≤ |cellCount wide 3 - (1500 : Nat)| ∧
      2 ≤ precision wide 20000 ∧ 2 ≤ precision north 1500 := by
  intro wide north
  have level : precision wide 1500 = 2 := by decide +kernel
  obtain ⟨-, best, more, less⟩ := precision_fits wide 1500 (by decide)
  rw [level] at best more less
  refine ⟨by decide, level, by decide +kernel, (best 3 (by decide)).1, more 20000 (by decide), less north ?_⟩
  intro p _ inside
  exact ⟨le_trans (by decide) inside.left, inside.right.trans (by decide),
    le_trans (by decide) inside.below, inside.above.trans (by decide)⟩

end GeoSearch.Grid
