import GeoSearch.Geometry.Centroid
import GeoSearch.Proofs.Binary64.Arithmetic
import GeoSearch.Proofs.Geometry.World
/-!
Means of positions of the world are in the world, although their sums and quotients are rounded: the
bounds are integers, which rounding does not pass. Centroids of lines and areas are weighted, and the
rounding of a weighted position may go beyond the world.
-/
namespace GeoSearch

open Binary64 (value Rounds)

variable {x y : Float} {c : Coord Float} {n : Nat}

/-! ### Means of two -/

/-- Half the sum of two numbers that an integer bounds is bounded by it. -/
theorem half_sum (left : x.isFinite = true) (right : y.isFinite = true) (short : 2 * n < 2 ^ 53)
    (first : |value x| ≤ n) (second : |value y| ≤ n) :
    ((x + y) / 2.0).isFinite = true ∧ |value ((x + y) / 2.0)| ≤ n := by
  obtain ⟨finite, two⟩ := Binary64.two_exact
  obtain ⟨known, sum⟩ := (Binary64.rounds_add left right).abs_value_le short (by
    push_cast
    linarith [abs_add_le (value x) (value y)])
  have rounds := Binary64.rounds_div known finite (by rw [two]; norm_num)
  refine rounds.abs_value_le (by omega) ?_
  rw [two, abs_div, abs_two, div_le_iff₀ (by norm_num)]
  push_cast at sum
  linarith

namespace Centroid

theorem inWorld_middle {a b : Coord Float} (first : a.InWorld) (second : b.InWorld) :
    (middle a b).InWorld := by
  obtain ⟨left, across, along⟩ := Coord.inWorld_iff_abs.mp first
  obtain ⟨right, across', along'⟩ := Coord.inWorld_iff_abs.mp second
  have longitude := half_sum (n := 180) left.1 right.1 (by decide) across across'
  have latitude := half_sum (n := 90) left.2 right.2 (by decide) along along'
  exact Coord.inWorld_iff_abs.mpr ⟨⟨longitude.1, latitude.1⟩, longitude.2, latitude.2⟩

/-! ### Means of many -/

structure Mass.Counts (m : Mass) (n : Nat) : Prop where
  points : m.dimension = .points
  counted : m.weight.isFinite = true ∧ value m.weight = n
  across : m.moment.x.isFinite = true ∧ |value m.moment.x| ≤ (180 * n : Nat)
  along : m.moment.y.isFinite = true ∧ |value m.moment.y| ≤ (90 * n : Nat)

/-- A weight of one changes nothing. -/
theorem value_mul_one (finite : x.isFinite = true) :
    (x * 1.0).isFinite = true ∧ value (x * 1.0) = value x := by
  have rounds := Binary64.rounds_mul finite Binary64.one_exact.1
  rw [Binary64.one_exact.2, mul_one] at rounds
  exact rounds.exact finite

theorem counts_placed (inside : c.InWorld) : (Mass.placed .points c 1.0).Counts 1 := by
  obtain ⟨finite, across, along⟩ := Coord.inWorld_iff_abs.mp inside
  obtain ⟨first, longitude⟩ := value_mul_one finite.1
  obtain ⟨second, latitude⟩ := value_mul_one finite.2
  refine ⟨rfl, ⟨Binary64.one_exact.1, Binary64.one_exact.2.trans Nat.cast_one.symm⟩, ⟨first, ?_⟩, second, ?_⟩
  · exact (congrArg _ longitude).trans_le across
  · exact (congrArg _ latitude).trans_le along

variable {m : Mass}

/-- A sum of two numbers that have integer bounds. -/
theorem sum_within {j k : Nat} (left : x.isFinite = true) (right : y.isFinite = true)
    (short : j + k < 2 ^ 53) (first : |value x| ≤ j) (second : |value y| ≤ k) :
    (x + y).isFinite = true ∧ |value (x + y)| ≤ (j + k : Nat) := by
  refine (Binary64.rounds_add left right).abs_value_le short ((abs_add_le _ _).trans ?_)
  push_cast
  exact add_le_add first second

/-- One position more. -/
theorem Mass.Counts.add (counts : m.Counts n) (inside : c.InWorld) (few : n + 1 < 2 ^ 45) :
    (m.add (placed .points c 1.0)).Counts (n + 1) := by
  have one := counts_placed inside
  have same : m.add (placed .points c 1.0) = ⟨.points, m.weight + 1.0,
      ⟨m.moment.x + c.x * 1.0, m.moment.y + c.y * 1.0⟩⟩ := by
    have level : m.dimension = (placed .points c 1.0).dimension := counts.points
    rw [Mass.add, if_pos level, counts.points]
    rfl
  rw [same]
  have weights := Binary64.rounds_add counts.counted.1 one.counted.1
  rw [counts.counted.2, one.counted.2, ← Nat.cast_add] at weights
  have longitudes := sum_within counts.across.1 one.across.1 (by omega) counts.across.2 one.across.2
  have latitudes := sum_within counts.along.1 one.along.1 (by omega) counts.along.2 one.along.2
  exact ⟨rfl, weights.natCast (by omega), longitudes, latitudes⟩

theorem counts_foldl {cs : List (Coord Float)} (counts : m.Counts n) (inside : ∀ c ∈ cs, c.InWorld)
    (few : n + cs.length < 2 ^ 45) :
    ∃ total, cs.foldl addPoint (some m) = some total ∧ total.Counts (n + cs.length) := by
  induction cs generalizing m n with
  | nil => exact ⟨m, rfl, counts⟩
  | cons c rest ih =>
    rw [List.length_cons] at few
    have more := counts.add (inside c List.mem_cons_self) (by omega)
    obtain ⟨total, found, counted⟩ :=
      ih more (fun c member => inside c (List.mem_cons_of_mem _ member)) (by omega)
    refine ⟨total, found, ?_⟩
    rwa [List.length_cons, ← Nat.add_assoc, Nat.add_right_comm]

/-- The mean of positions of the world is in the world. -/
theorem Mass.Counts.inWorld (counts : m.Counts n) (some : 0 < n) :
    (⟨m.moment.x / m.weight, m.moment.y / m.weight⟩ : Coord Float).InWorld := by
  have positive : (0 : Rat) < n := Nat.cast_pos.mpr some
  have nonzero : value m.weight ≠ 0 := counts.counted.2.trans_ne positive.ne'
  have longitude := (Binary64.rounds_div counts.across.1 counts.counted.1 nonzero).abs_value_le
    (n := 180) (by decide) (by
      rw [counts.counted.2, abs_div, Nat.abs_cast, div_le_iff₀ positive]
      exact_mod_cast counts.across.2)
  have latitude := (Binary64.rounds_div counts.along.1 counts.counted.1 nonzero).abs_value_le
    (n := 90) (by decide) (by
      rw [counts.counted.2, abs_div, Nat.abs_cast, div_le_iff₀ positive]
      exact_mod_cast counts.along.2)
  exact Coord.inWorld_iff_abs.mpr ⟨⟨longitude.1, latitude.1⟩, longitude.2, latitude.2⟩

end Centroid

namespace Geometry

/-- A point, a segment, a box, or few enough points to count them: its centroid is a mean of
positions. -/
def IsMean : Geometry Float → Prop
  | point _ => True
  | line _ _ => True
  | multiPoint cs => cs.length < 2 ^ 45
  | rect _ => True
  | _ => False

/-- A mean of positions of the world is in the world. -/
theorem centroid_inWorld {g : Geometry Float} (inside : g.InWorld) (mean : g.IsMean)
    (found : g.centroid? = some c) : c.InWorld := by
  cases g with
  | point p =>
    cases found
    exact inside c (List.mem_singleton_self c)
  | line a b =>
    cases found
    exact Centroid.inWorld_middle (inside a (by simp [coords])) (inside b (by simp [coords]))
  | rect r =>
    cases found
    exact Centroid.inWorld_middle (inside r.high (by simp [coords, Rect.ring]))
      (inside r.low (by simp [coords, Rect.ring]))
  | multiPoint cs =>
    cases cs with
    | nil => cases found
    | cons first rest =>
      have few : 1 + rest.length < 2 ^ 45 := by
        have := mean
        rw [IsMean, List.length_cons] at this
        omega
      obtain ⟨total, summed, counted⟩ := Centroid.counts_foldl
        (Centroid.counts_placed (inside first List.mem_cons_self))
        (fun c member => inside c (List.mem_cons_of_mem _ member)) few
      have centre : (multiPoint (first :: rest)).centroid? =
          some ⟨total.moment.x / total.weight, total.moment.y / total.weight⟩ :=
        congrArg (Option.map _) summed
      rw [centre] at found
      cases found
      exact counted.inWorld (by omega)
  | _ => exact mean.elim

end Geometry

end GeoSearch
