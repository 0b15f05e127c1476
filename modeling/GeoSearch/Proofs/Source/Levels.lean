import GeoSearch.Proofs.Binary64.Infinite
import GeoSearch.Proofs.Decimal.Reader
import GeoSearch.Proofs.Geometry.World
import GeoSearch.Proofs.Source.Buckets
/-!
The levels that are written into grid aggregations. The level that fits a budget is never below the
deepest one, and it is above the first only where that one exceeds the budget and is farther from it.
With computed numbers that takes a budget of less than 17 cells, whatever the box is.
-/
namespace GeoSearch

open Binary64 (value extended)

namespace Grid

/-! ### The range of the scan -/

section

variable {α : Type} [Scalar α] {box : Rect α} {limit : α}

theorem fitFrom_range {rest level : Nat} (levels : rest + level = deepest + 1) :
    level - 1 ≤ fitFrom box limit rest level ∧ fitFrom box limit rest level ≤ deepest := by
  induction rest generalizing level with
  | zero =>
    rw [fitFrom]
    omega
  | succ rest ih =>
    rw [fitFrom]
    have later := ih (show rest + (level + 1) = deepest + 1 by omega)
    split
    · split <;> omega
    · omega

theorem precision_le_deepest (box : Rect α) (budget : Nat) : precision box budget ≤ deepest :=
  (fitFrom_range rfl).2

/-- The scan goes above the first level where that one exceeds the budget and the whole world, as one
cell, is nearer to it. -/
theorem precision_eq_zero_iff (box : Rect α) (budget : Nat) : precision box budget = 0 ↔
    Scalar.lt (Scalar.ofInt budget) (cellCount box 1) = true ∧
      Scalar.lt (Scalar.ofInt budget - cellCount box 0) (cellCount box 1 - Scalar.ofInt budget) = true := by
  have later : 2 - 1 ≤ fitFrom box (Scalar.ofInt budget) 11 2 :=
    (fitFrom_range (show 11 + 2 = deepest + 1 from rfl)).1
  have step : precision box budget =
      if Scalar.lt (Scalar.ofInt budget) (cellCount box 1) = true then
        if Scalar.lt (Scalar.ofInt budget - cellCount box 0) (cellCount box 1 - Scalar.ofInt budget) = true
          then 0 else 1
      else fitFrom box (Scalar.ofInt budget) 11 2 := rfl
  rw [step]
  split
  · next exceeded => simp [exceeded]
  · next fits =>
    refine iff_of_false ?_ fun both => fits both.1
    omega

end

/-! ### Computed cells -/

/-- The difference of a number that is at most one and a number that is at least another one. -/
theorem sub_cases {x y whole : Float} {most least : Rat} (known : whole.isFinite = true)
    (length : value whole = most - least)
    (left : x.isFinite = true ∧ value x ≤ most ∨ x = -Binary64.infinity)
    (right : y.isFinite = true ∧ least ≤ value y ∨ y = Binary64.infinity) :
    (x - y).isFinite = true ∧ value (x - y) ≤ value whole ∨ x - y = -Binary64.infinity := by
  rcases left with ⟨inner, below⟩ | rfl <;> rcases right with ⟨inner', above⟩ | rfl
  · have rounds := Binary64.rounds_sub inner inner'
    have short := rounds.value_le known (by rw [length]; linarith)
    rcases rounds.finite_or_infinite with finite | beyond | lowest
    · exact .inl ⟨finite, short⟩
    · have huge : (2 : Rat) ^ 1024 ≤ value Binary64.infinity := by decide +kernel
      rw [beyond] at short
      exact absurd (huge.trans (short.trans (le_abs_self _))) (Binary64.abs_value_lt known).not_ge
    · exact .inr lowest
  · exact .inr (Binary64.finite_sub_infinity inner)
  · exact .inr (Binary64.infinity_moved inner').2.2
  · exact .inr (by decide)

structure Upto (x : Float) (most : Rat) : Prop where
  finite : x.isFinite = true
  nonneg : 0 ≤ value x
  le_most : value x ≤ most

/-- What two limits leave of a range is no longer than the range. -/
theorem length_inside {least most whole : Float} (low high : Float) (first : least.isFinite = true)
    (last : most.isFinite = true) (known : whole.isFinite = true)
    (length : value whole = value most - value least) (nonneg : 0 ≤ value whole) :
    let inside := Scalar.greatest (Scalar.least high most - Scalar.greatest low least) (Scalar.ofInt 0)
    Upto inside (value whole) := by
  intro inside
  have zero : (Scalar.ofInt 0 : Float).isFinite = true ∧ value (Scalar.ofInt 0) = 0 := by decide +kernel
  rcases sub_cases known length (Binary64.least_cases high last) (Binary64.greatest_cases low first)
    with ⟨inner, short⟩ | none
  · have size := Binary64.value_greatest inner zero.1
    rw [zero.2] at size
    exact ⟨Binary64.finite_greatest inner zero.1, size.symm ▸ le_max_right _ _,
      size.le.trans (max_le short nonneg)⟩
  · have nothing : inside = Scalar.ofInt 0 := by
      change Scalar.greatest (Binary64.least high most - Binary64.greatest low least) _ = _
      rw [none]
      decide
    rw [nothing]
    exact ⟨zero.1, zero.2.ge, zero.2.trans_le nonneg⟩

/-- What is rounded stays between nothing and a number that is not rounded. -/
theorem Upto.of_rounds {x count : Float} {q : Rat} (rounds : Binary64.Rounds q x) (nonneg : 0 ≤ q)
    (known : count.isFinite = true) (short : q ≤ value count) : Upto x (value count) := by
  obtain ⟨zero, nothing⟩ := Binary64.zero_exact
  obtain ⟨finite, least, most⟩ := rounds.within zero known (nothing.trans_le nonneg) short
  exact ⟨finite, nothing.ge.trans least, most⟩

/-- A length over the size of a cell. -/
theorem Upto.div {length size count : Float} {most : Rat} (upto : Upto length most)
    (divisor : size.isFinite = true) (positive : 0 < value size) (known : count.isFinite = true)
    (cells : value count = most / value size) : Upto (length / size) (value count) := by
  refine .of_rounds (Binary64.rounds_div upto.finite divisor positive.ne') ?_ known ?_
  · exact div_nonneg upto.nonneg positive.le
  · rw [cells]
    exact div_le_div_of_nonneg_right upto.le_most positive.le

theorem Upto.mul {x y count : Float} {most most' : Rat} (left : Upto x most) (right : Upto y most')
    (known : count.isFinite = true) (cells : value count = most * most') :
    Upto (x * y) (value count) := by
  refine .of_rounds (Binary64.rounds_mul left.finite right.finite) ?_ known ?_
  · exact mul_nonneg left.nonneg right.nonneg
  · rw [cells]
    exact mul_le_mul left.le_most right.le_most right.nonneg (left.nonneg.trans left.le_most)

/-- The world has a whole number of cells of each level, and no rounding is in it. -/
theorem cells_of_world : ∀ level ≤ deepest,
    ((cellWidth level : Float).isFinite = true ∧ 0 < value (cellWidth level : Float)) ∧
    ((cellHeight level : Float).isFinite = true ∧ 0 < value (cellHeight level : Float)) ∧
    ((Float.ofNat (2 ^ longitudeBits level)).isFinite = true ∧
      value (Float.ofNat (2 ^ longitudeBits level)) = 360 / value (cellWidth level : Float)) ∧
    ((Float.ofNat (2 ^ latitudeBits level)).isFinite = true ∧
      value (Float.ofNat (2 ^ latitudeBits level)) = 180 / value (cellHeight level : Float)) ∧
    (Float.ofNat (32 ^ level)).isFinite = true ∧ value (Float.ofNat (32 ^ level)) = 32 ^ level ∧
      value (Float.ofNat (2 ^ longitudeBits level)) * value (Float.ofNat (2 ^ latitudeBits level)) =
        32 ^ level := by
  decide +kernel

/-- A box has no more cells of a level than the world has. -/
theorem cellCount_upto (box : Rect Float) {level : Nat} (known : level ≤ deepest) :
    Upto (cellCount box level) (32 ^ level) := by
  obtain ⟨turn, half, west, quarter, south⟩ := finite_degrees
  obtain ⟨turn', half', west', quarter', south'⟩ := value_degrees
  obtain ⟨⟨wide, wide'⟩, ⟨high, high'⟩, ⟨across, across'⟩, ⟨along, along'⟩, whole, whole', cells⟩ :=
    cells_of_world level known
  have width := length_inside box.low.x box.high.x west half turn
    (by rw [turn', half', west']; norm_num) (by rw [turn']; norm_num)
  have height := length_inside box.low.y box.high.y south quarter half
    (by rw [half', quarter', south']; norm_num) (by rw [half']; norm_num)
  rw [turn'] at width
  rw [half'] at height
  rw [← whole']
  exact (width.div wide wide' across across').mul (height.div high high' along along') whole
    (whole'.trans cells.symm)

/-- A rounded length below a finite number is finite. -/
theorem finite_of_rounds_lt {x y : Float} {q : Rat} (rounds : Binary64.Rounds q x) (nonneg : 0 ≤ q)
    (finite : y.isFinite = true) (less : x < y) : x.isFinite = true := by
  obtain ⟨zero, nothing⟩ := Binary64.zero_exact
  have least : 0 ≤ value x := nothing.ge.trans (rounds.le_value zero (nothing.trans_le nonneg))
  rcases rounds.finite_or_infinite with inner | rfl | rfl
  · exact inner
  · have order :=
      (Binary64.lt_iff_extended (by decide) (Binary64.isNaN_of_finite finite)).mp less
    exact absurd (Binary64.extended_lt_infinity finite) order.not_gt
  · exact absurd least (by decide +kernel)

/-- With a budget of 17 cells or more the scan stays below the whole world: of the 32 cells that the
first level can have at most 15 are too many, and the one cell of the world is at least 16 too few. -/
theorem one_le_precision (box : Rect Float) {budget : Nat} (some : 17 ≤ budget) :
    1 ≤ precision box budget := by
  by_contra above
  obtain ⟨exceeded, nearer⟩ := (precision_eq_zero_iff box budget).mp (by omega)
  have whole := cellCount_upto box (Nat.zero_le deepest)
  have first := cellCount_upto box (show 1 ≤ deepest by decide)
  have rounds : Binary64.Rounds budget (Scalar.ofInt budget : Float) := Binary64.rounds_ofNat budget
  generalize (Scalar.ofInt budget : Float) = limit at exceeded nearer rounds
  generalize cellCount box 0 = few at nearer whole
  generalize cellCount box 1 = many at exceeded nearer first
  rw [pow_zero] at whole
  rw [pow_one] at first
  have numbers : ((17 : Float).isFinite = true ∧ value 17 = 17) ∧
      ((16 : Float).isFinite = true ∧ value 16 = 16) ∧ (32 : Float).isFinite = true ∧ value 32 = 32 := by
    decide +kernel
  obtain ⟨⟨seventeen, seventeen'⟩, ⟨sixteen, sixteen'⟩, most, most'⟩ := numbers
  have finite := finite_of_rounds_lt rounds budget.cast_nonneg first.finite (of_decide_eq_true exceeded)
  have least : 17 ≤ value limit := by
    refine seventeen'.ge.trans (rounds.le_value seventeen ?_)
    rw [seventeen']
    exact_mod_cast some
  have beyond : value limit < value many := (Scalar.lt_iff finite first.finite).mp exceeded
  have many_le := first.le_most
  have few_le := whole.le_most
  have few_nonneg := whole.nonneg
  -- Rounding keeps both differences on their side of 16.
  have missing := (Binary64.rounds_sub finite whole.finite).within sixteen most
    (by rw [sixteen']; linarith) (by rw [most']; linarith)
  have excess := Upto.of_rounds (Binary64.rounds_sub first.finite finite) (by linarith) sixteen
    (by rw [sixteen']; linarith)
  rw [Scalar.lt_iff missing.1 excess.finite] at nearer
  exact absurd nearer (excess.le_most.trans missing.2.1).not_gt

/-- The whole world is kept as one cell just by the budgets below 17. -/
theorem precision_world_eq_zero_iff (budget : Nat) :
    precision (world : Rect Float) budget = 0 ↔ budget < 17 := by
  constructor
  · intro whole
    by_contra some
    have deeper := one_le_precision world (not_lt.mp some)
    omega
  · have all : ∀ budget < 17, precision (world : Rect Float) budget = 0 := by decide +kernel
    exact all budget

/-! ### Written levels -/

/-- A grid has the level that was written into it. -/
theorem get?_setPrecision {level : Nat} {entry : Json} {grid : Json.Members}
    (stands : (setPrecision level entry).member? "geohash_grid" = some (.object grid)) :
    Json.Members.get? grid "precision" = some (.ofNat level) := by
  cases entry with
  | object members =>
    rw [setPrecision] at stands
    split at stands
    · next own _ =>
      rw [Json.member?, Json.Members.get?_put_self] at stands
      cases stands
      exact Json.Members.get?_put_self own _ _
    · next other => exact absurd stands (other grid)
  | _ => cases stands

end Grid

namespace FeatureSource

variable {σ : Type} {s : FeatureSource} {q : FeatureQuery}

theorem prepare_aggregations {own : NativeQuery.Parsed} {aggregations : Json.Members}
    (parsed : (q.native.getD {}).parse = .ok own) (carries : own.aggregations = some aggregations)
    (writable : q.predicate.datesWritable s.type = true) (scroll : Bool) (k : Connection σ) :
    ∃ prepared l, s.prepare q scroll k = (.ok prepared, l) ∧
      prepared.request.aggregations = some (Grid.setPrecisions (s.gridLevel q) aggregations) := by
  have compiled : Filter.compile s.type q.predicate (q.native.getD {}) =
      .ok (.ofParsed s.type q.predicate own) := Filter.compile_of_parse parsed (.inr writable)
  simp only [prepare, compiled]
  exact ⟨_, _, rfl, (request_of_aggregations carries scroll).2⟩

/-- A query with aggregations is prepared, with the level that fits the grid size on the bounds of the
predicate in each of their grids. The level is never below the deepest one. It is above the first one
just where that exceeds the grid size and is farther from it than the whole world as one cell, which no
box does to 17 cells or more, and the whole world does to all fewer ones. -/
theorem grid_levels (s : FeatureSource) (q : FeatureQuery) (scroll : Bool) (k : Connection σ) :
    (∀ (box : Rect Float) (budget : Nat), Grid.precision box budget ≤ 12 ∧
      (17 ≤ budget → 1 ≤ Grid.precision box budget) ∧
      (Grid.precision box budget = 0 ↔
        Scalar.lt (Scalar.ofInt budget) (Grid.cellCount box 1) = true ∧
          Scalar.lt (Scalar.ofInt budget - Grid.cellCount box 0)
            (Grid.cellCount box 1 - Scalar.ofInt budget) = true)) ∧
    (∀ budget, Grid.precision (world : Rect Float) budget = 0 ↔ budget < 17) ∧
    (∀ own aggregations, (q.native.getD {}).parse = .ok own → own.aggregations = some aggregations →
      q.predicate.datesWritable s.type = true → ∃ prepared l, s.prepare q scroll k = (.ok prepared, l) ∧
        prepared.request.aggregations = some (Grid.setPrecisions (s.gridLevel q) aggregations)) ∧
    ∀ prepared l aggregations, s.prepare q scroll k = (.ok prepared, l) →
      prepared.request.aggregations = some aggregations → ∀ name entry, (name, entry) ∈ aggregations →
        ∀ grid, entry.member? "geohash_grid" = some (.object grid) →
          ∃ level, Json.Members.get? grid "precision" = some (.ofNat level) ∧
            level = Grid.precision q.predicate.bounds.box s.config.gridSize ∧
            level ≤ 12 ∧ (17 ≤ s.config.gridSize → 1 ≤ level) := by
  refine ⟨fun box budget => ⟨Grid.precision_le_deepest box budget, Grid.one_le_precision box,
    Grid.precision_eq_zero_iff box budget⟩, Grid.precision_world_eq_zero_iff,
    fun own aggregations parsed carries writable =>
      prepare_aggregations parsed carries writable scroll k, ?_⟩
  intro prepared l aggregations done carries name entry stands grid isGrid
  have written : ∃ f : Filter, prepared.request.aggregations =
      f.aggregations.map (Grid.setPrecisions (s.gridLevel q)) := by
    unfold prepare at done
    split at done
    · cases done
    · next f _ =>
      cases done
      exact ⟨f, rfl⟩
  obtain ⟨f, written⟩ := written
  rw [carries] at written
  obtain ⟨own, -, rfl⟩ := Option.map_eq_some_iff.mp written.symm
  obtain ⟨⟨_, before⟩, -, made⟩ := List.mem_map.mp stands
  obtain ⟨-, rfl⟩ := Prod.mk.inj made
  exact ⟨s.gridLevel q, Grid.get?_setPrecision isGrid, rfl, Grid.precision_le_deepest _ _,
    Grid.one_le_precision _⟩

theorem parse_grid : NativeQuery.parse
    { aggregations := some "\x7b\"cells\":\x7b\"geohash_grid\":\x7b\"field\":\"at\"\x7d\x7d\x7d" } =
      .ok ⟨.matchAll, some [("cells", .object [("geohash_grid", .object [("field", .string "at")])])],
        false⟩ := by
  cbv

/-- A grid of 17 cells over the whole world gets the first level. -/
theorem grid_level_of_seventeen_cells :
    let s : FeatureSource := { type := { name := "places" }, config := { gridSize := 17 } }
    let q : FeatureQuery :=
      { predicate := .everything
        native := some
          { aggregations := some "\x7b\"cells\":\x7b\"geohash_grid\":\x7b\"field\":\"at\"\x7d\x7d\x7d" } }
    let grid : Json.Members := [("field", .string "at"), ("precision", .ofNat 1)]
    (∃ prepared l, s.prepare q false { state := () } = (.ok prepared, l) ∧
      prepared.request.aggregations = some [("cells", .object [("geohash_grid", .object grid)])]) ∧
    ∃ level, Json.Members.get? grid "precision" = some (.ofNat level) ∧
      level = Grid.precision (world : Rect Float) 17 ∧ level ≤ 12 ∧ 1 ≤ level := by
  intro s q grid
  obtain ⟨-, -, prepares, levels⟩ := grid_levels s q false { state := () }
  obtain ⟨prepared, l, done, written⟩ := prepares _ _ parse_grid rfl rfl
  have level : s.gridLevel q = 1 := by decide +kernel
  have carries : prepared.request.aggregations =
      some [("cells", .object [("geohash_grid", .object grid)])] := by
    rw [written, level]
    cbv
  obtain ⟨level, writes, fits, most, least⟩ :=
    levels prepared l _ done carries "cells" _ (List.mem_singleton_self _) grid rfl
  exact ⟨⟨prepared, l, done, carries⟩, level, writes, fits, most, least le_rfl⟩

/-- The settings allow for a grid of one cell, and it gets a level above the first one. -/
theorem grid_of_one_cell_is_above_the_first_level :
    let s : FeatureSource := { type := { name := "places" }, config := { gridSize := 1 } }
    let q : FeatureQuery :=
      { predicate := .everything
        native := some
          { aggregations := some "\x7b\"cells\":\x7b\"geohash_grid\":\x7b\"field\":\"at\"\x7d\x7d\x7d" } }
    s.config.fault? = none ∧
      ∃ prepared l, s.prepare q false { state := () } = (.ok prepared, l) ∧
        prepared.request.aggregations =
          some [("cells", .object
            [("geohash_grid", .object [("field", .string "at"), ("precision", .ofNat 0)])])] := by
  intro s q
  obtain ⟨prepared, l, done, written⟩ := prepare_aggregations (s := s) (q := q) parse_grid rfl rfl
    false { state := () }
  have level : s.gridLevel q = 0 := by decide +kernel
  refine ⟨by decide +kernel, prepared, l, done, ?_⟩
  rw [written, level]
  cbv

end FeatureSource

end GeoSearch
