import GeoSearch.Binary64
/-!
The numbers that coordinates are made of. The program runs at binary64; the same definitions at the
rationals are its exact reading.
-/
namespace GeoSearch

class Scalar (α : Type) extends Add α, Sub α, Mul α, Div α, Neg α where
  ofInt : Int → α
  lt : α → α → Bool
  le : α → α → Bool
  eq : α → α → Bool
  abs : α → α
  /-- the remainder of truncated division, with the sign of the dividend -/
  remainder : α → α → α
  least : α → α → α
  greatest : α → α → α

namespace Scalar

instance : Scalar Float where
  ofInt n := Float.ofInt n
  lt x y := x < y
  le x y := x ≤ y
  eq x y := x == y
  abs := Float.abs
  remainder := Binary64.remainder
  least := Binary64.least
  greatest := Binary64.greatest

/-- The integer part, towards zero. -/
def truncate (r : Rat) : Int := if r < 0 then -(-r).floor else r.floor

instance : Scalar Rat where
  ofInt n := n
  lt x y := x < y
  le x y := x ≤ y
  eq x y := x = y
  abs x := if x < 0 then -x else x
  remainder x y := x - y * truncate (x / y)
  least x y := if y < x then y else x
  greatest x y := if x < y then y else x

variable {α : Type} [Scalar α]

/-- A value held between two others; an unordered value is kept. -/
def clamp (x low high : α) : α :=
  if lt x low then low else if lt high x then high else x

end Scalar

end GeoSearch
