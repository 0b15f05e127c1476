import GeoSearch.Proofs.Binary64.Arithmetic
/-!
Computed numbers with a bound of their size, and of how far they are from the exact ones.
-/
namespace GeoSearch

open Binary64 (value)

variable {x y : Float} {q r d e : Rat} {m n : Nat}

structure Approximates (x : Float) (q : Rat) (bound : Nat) (error : Rat) : Prop where
  finite : x.isFinite = true
  size : |value x| ≤ bound
  near : |value x - q| ≤ error

namespace Approximates

theorem of_value (finite : x.isFinite = true) (size : |value x| ≤ n) :
    Approximates x (value x) n 0 :=
  ⟨finite, size, by rw [sub_self, abs_zero]⟩

theorem mono {bound : Nat} {error : Rat} (known : Approximates x q n e) (wider : n ≤ bound)
    (farther : e ≤ error) : Approximates x q bound error :=
  ⟨known.finite, known.size.trans (Nat.cast_le.mpr wider), known.near.trans farther⟩

/-- A result that is rounded from one that is near the exact one. -/
theorem of_rounds {exact : Rat} (rounds : Binary64.Rounds exact x) (some : 0 < n)
    (short : n < 2 ^ 53) (size : |exact| ≤ n) (near : |exact - q| ≤ e) :
    Approximates x q n (e + n / 2 ^ 51) := by
  obtain ⟨finite, bound⟩ := rounds.abs_value_le short size
  refine ⟨finite, bound, ?_⟩
  have moved := rounds.error_le some short size
  have apart := abs_sub_le (value x) exact q
  linarith

theorem add (first : Approximates x q m d) (second : Approximates y r n e) (some : 0 < m + n)
    (short : m + n < 2 ^ 53) : Approximates (x + y) (q + r) (m + n) (d + e + (m + n : Nat) / 2 ^ 51) := by
  refine of_rounds (Binary64.rounds_add first.finite second.finite) some short ?_ ?_
  · push_cast
    exact (abs_add_le _ _).trans (add_le_add first.size second.size)
  · rw [add_sub_add_comm]
    exact (abs_add_le _ _).trans (add_le_add first.near second.near)

theorem sub (first : Approximates x q m d) (second : Approximates y r n e) (some : 0 < m + n)
    (short : m + n < 2 ^ 53) : Approximates (x - y) (q - r) (m + n) (d + e + (m + n : Nat) / 2 ^ 51) := by
  refine of_rounds (Binary64.rounds_sub first.finite second.finite) some short ?_ ?_
  · push_cast
    exact (abs_sub _ _).trans (add_le_add first.size second.size)
  · rw [sub_sub_sub_comm]
    exact (abs_sub _ _).trans (add_le_add first.near second.near)

theorem mul (first : Approximates x q m d) (second : Approximates y r n e) (some : 0 < m * n)
    (short : m * n < 2 ^ 53) :
    Approximates (x * y) (q * r) (m * n) (m * e + (n + e) * d + (m * n : Nat) / 2 ^ 51) := by
  refine of_rounds (Binary64.rounds_mul first.finite second.finite) some short ?_ ?_
  · push_cast
    rw [abs_mul]
    exact mul_le_mul first.size second.size (abs_nonneg _) (Nat.cast_nonneg m)
  · have split : value x * value y - q * r = value x * (value y - r) + r * (value x - q) := by ring
    have other : |r| ≤ n + e := by
      have apart := abs_sub_abs_le_abs_sub r (value y)
      rw [abs_sub_comm] at apart
      linarith [second.size, second.near]
    rw [split]
    refine (abs_add_le _ _).trans (add_le_add ?_ ?_)
    · rw [abs_mul]
      exact mul_le_mul first.size second.near (abs_nonneg _) (Nat.cast_nonneg m)
    · rw [abs_mul]
      exact mul_le_mul other first.near (abs_nonneg _) ((abs_nonneg _).trans other)

end Approximates

end GeoSearch
