import GeoSearch.Geometry.Distance
import GeoSearch.Proofs.Binary64.Arithmetic
import GeoSearch.Proofs.Binary64.Infinite
import GeoSearch.Proofs.Geometry.Box
/-!
A distance to a position without finite coordinates is no number, so that nothing is near it. A finite
limit is a number of metres, if only an infinite one.
-/
namespace GeoSearch

namespace Trigonometry

open Binary64 (nan)

theorem sin_of_not_finite {x : Float} (endless : x.isFinite = false) : sin x = nan := by
  rw [sin, endless]
  rfl

theorem arcsin_sqrt_nan : arcsin nan.sqrt = nan := by decide

end Trigonometry

namespace Distance

open Binary64 (nan)

theorem finite_radian : radiansPerDegree.isFinite = true ∧ Binary64.value radiansPerDegree ≠ 0 := by
  decide +kernel

variable {x : Float} {a b : Coord Float}

theorem not_finite_toRadians (endless : x.isFinite = false) : (toRadians x).isFinite = false :=
  Binary64.not_finite_mul endless finite_radian.1 finite_radian.2

theorem not_finite_half (endless : x.isFinite = false) : (x / 2.0).isFinite = false :=
  Binary64.not_finite_div endless Binary64.two_exact.1 (Binary64.two_exact.2.trans_ne two_ne_zero)

/-- The distance to a position without finite coordinates. -/
theorem haversine_of_not_finite (endless : ¬ b.Finite) : haversine a b = nan := by
  rcases not_and_or.mp endless with longitude | latitude
  · have turn := Binary64.not_finite_sub (y := a.x) (Bool.eq_false_of_not_eq_true longitude)
    have sine := Trigonometry.sin_of_not_finite (not_finite_half (not_finite_toRadians turn))
    unfold haversine
    dsimp only
    rw [sine, Binary64.mul_nan, Binary64.mul_nan, Binary64.add_nan, Trigonometry.arcsin_sqrt_nan,
      Binary64.mul_nan]
  · have radians := not_finite_toRadians (Bool.eq_false_of_not_eq_true latitude)
    have turn := Binary64.not_finite_sub (y := toRadians a.y) radians
    have sine := Trigonometry.sin_of_not_finite (not_finite_half turn)
    unfold haversine
    dsimp only
    rw [sine, Binary64.mul_nan, Binary64.nan_add, Trigonometry.arcsin_sqrt_nan, Binary64.mul_nan]

/-- Nothing is near a position without finite coordinates. -/
theorem not_near_of_not_finite (endless : ¬ b.Finite) (limit : Float) : ¬ haversine a b ≤ limit := by
  rw [haversine_of_not_finite endless]
  exact Binary64.not_nan_le limit

/-! ### Units -/

theorem finite_metresPerUnit {units : String} {factor : Float}
    (known : metresPerUnit units = some factor) : factor.isFinite = true := by
  unfold metresPerUnit at known
  split at known <;> cases known <;> decide

/-- A finite distance is a finite number of metres, if it does not overflow. -/
theorem toMetres_finite_or_infinite {limit : Float} (finite : limit.isFinite = true) (units : String)
    (geographic : Bool) : (toMetres limit units geographic).isFinite = true ∨
      toMetres limit units geographic = Binary64.infinity ∨
      toMetres limit units geographic = -Binary64.infinity := by
  unfold toMetres
  split
  · split
    · next factor known =>
      exact (Binary64.rounds_mul finite (finite_metresPerUnit known)).finite_or_infinite
    · exact .inl finite
  · exact .inl finite

end Distance

end GeoSearch
