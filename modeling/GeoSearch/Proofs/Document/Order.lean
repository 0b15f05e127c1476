import GeoSearch.Document.Order
/-!
The order of stored values, seen from the other side. Values that are not ordered one way are not
ordered the other way either.
-/
namespace GeoSearch

open Std (OrientedCmp.eq_swap)
open Float.Model (UnpackedFloat)

namespace Binary64

/-- The order of two finite numbers of one sign. -/
theorem scaled_compare_swap (m n : Nat) (e f : Int) :
    (compare f e).then (compare n m) = ((compare e f).then (compare m n)).swap := by
  have exponents : compare f e = (compare e f).swap := OrientedCmp.eq_swap
  have mantissas : compare n m = (compare m n).swap := OrientedCmp.eq_swap
  rw [exponents, mantissas, Ordering.swap_then]

theorem unpacked_compare_swap (x y : UnpackedFloat) :
    y.compare x = (x.compare y).map Ordering.swap := by
  rcases x with ⟨_ | _⟩ | _ | ⟨_ | _⟩ | ⟨_ | _, m, e, _⟩ <;>
    rcases y with ⟨_ | _⟩ | _ | ⟨_ | _⟩ | ⟨_ | _, n, f, _⟩ <;>
    first
      | rfl
      | exact congrArg some (scaled_compare_swap m n e f)
      | exact congrArg (some ·.swap) (scaled_compare_swap m n e f)

/-- The two tests on binary64 numbers are one comparison of their unpacked forms. -/
theorem order?_eq_compare (x y : Float) :
    order? x y = x.toModel.unpack.compare y.toModel.unpack := by
  have flip := unpacked_compare_swap x.toModel.unpack y.toModel.unpack
  have less (a b : Float) : (a < b) ↔ a.toModel.unpack.compare b.toModel.unpack = some .lt := by
    have model : a < b ↔ (a.toModel.unpack.compare b.toModel.unpack == some .lt) = true :=
      decide_eq_true_iff
    rw [model, beq_iff_eq]
  have same : (x == y) = (x.toModel.unpack.compare y.toModel.unpack == some .eq) := rfl
  unfold order?
  simp only [less, flip, same]
  cases h : x.toModel.unpack.compare y.toModel.unpack with
  | none => simp
  | some o => cases o <;> simp

theorem order?_swap (x y : Float) : order? y x = (order? x y).map Ordering.swap := by
  rw [order?_eq_compare, order?_eq_compare, unpacked_compare_swap]

end Binary64

theorem Time.Instant.compare_swap (a b : Instant) : b.compare a = (a.compare b).swap := by
  have seconds : Ord.compare b.seconds a.seconds = (Ord.compare a.seconds b.seconds).swap :=
    OrientedCmp.eq_swap
  have nanos : Ord.compare b.nanos a.nanos = (Ord.compare a.nanos b.nanos).swap :=
    OrientedCmp.eq_swap
  simp only [compare, seconds, nanos, Ordering.swap_then]

namespace Document

theorem textOrder_swap (a b : String) : textOrder b a = (textOrder a b).swap := by
  have texts : compare b a = (compare a b).swap := OrientedCmp.eq_swap
  unfold textOrder
  cases Time.Rfc3339.read? a with
  | none => cases Time.Rfc3339.read? b <;> exact texts
  | some i =>
    cases Time.Rfc3339.read? b with
    | none => exact texts
    | some j => exact Time.Instant.compare_swap i j

theorem order?_swap (v w : Json) : order? w v = (order? v w).map Ordering.swap := by
  cases v <;> cases w <;> try rfl
  case bool.bool a b => cases a <;> cases b <;> rfl
  case number.number a b => exact Binary64.order?_swap a.toFloat b.toFloat
  case string.string a b => simp [order?, textOrder_swap a b]

end Document

end GeoSearch
