import GeoSearch.Binary64
/-!
The fewest decimal digits that read back to a binary64 number. The reals that round to a number
form an interval; the first decimal grid, from coarse to fine, with a point in it gives the digits.
-/
namespace GeoSearch

/-- `coefficient * 10 ^ exponent`. -/
structure Decimal where
  coefficient : Nat
  exponent : Int
  deriving Repr, DecidableEq

namespace Decimal

def value (d : Decimal) : Rat := (d.coefficient : Rat) * Binary64.tenPow d.exponent

/-- Which of two equally near decimals is taken. -/
inductive Tie where
  | toEven
  | up
  deriving Repr, DecidableEq

/-- An interval of positive rationals; its ends belong to it when `closed`. -/
structure Interval where
  lower : Rat
  upper : Rat
  closed : Bool

def Interval.contains (interval : Interval) (r : Rat) : Bool :=
  if interval.closed then interval.lower ≤ r && r ≤ interval.upper
  else interval.lower < r && r < interval.upper

/-- The reals that round to a positive finite number: half a gap to either side, where the gap
below a power of two is half as wide, and the ends round to an even significand. -/
def roundingInterval (x : Float) : Interval :=
  let unit := Binary64.twoPow (Binary64.scale x - 2)
  let m := Binary64.significand x
  let narrow := Binary64.fractionField x = 0 ∧ 1 < Binary64.exponentField x
  { lower := ((4 * m - if narrow then 1 else 2 : Nat) : Rat) * unit
    upper := ((4 * m + 2 : Nat) : Rat) * unit
    closed := m % 2 = 0 }

/-- The least `k` with `r < 10 ^ k`, for a positive `r` in the binary64 range. -/
def decimalOrder (r : Rat) : Int :=
  let guess := Binary64.binaryOrder r * 1233 / 4096
  if r < Binary64.tenPow guess then guess
  else if r < Binary64.tenPow (guess + 1) then guess + 1
  else guess + 2

/-- The point of a grid nearest to `r` among its two neighbours that lie in the interval. -/
def nearestOnGrid? (tie : Tie) (interval : Interval) (r : Rat) (exponent : Int) : Option Decimal :=
  let unit := Binary64.tenPow exponent
  let below := (r / unit).floor.toNat
  let low : Decimal := ⟨below, exponent⟩
  let high : Decimal := ⟨below + 1, exponent⟩
  match interval.contains low.value, interval.contains high.value with
  | false, false => none
  | true, false => some low
  | false, true => some high
  | true, true =>
    let toLow := r - low.value
    let toHigh := high.value - r
    if toLow < toHigh then some low
    else if toHigh < toLow then some high
    else if tie = .toEven ∧ below % 2 = 0 then some low else some high

/-- Moves trailing zeros of the coefficient into the exponent. -/
def strip (d : Decimal) : Decimal :=
  let rec go (fuel coefficient : Nat) (exponent : Int) : Decimal :=
    match fuel with
    | 0 => ⟨coefficient, exponent⟩
    | fuel + 1 =>
      if coefficient % 10 = 0 then go fuel (coefficient / 10) (exponent + 1) else ⟨coefficient, exponent⟩
  if d.coefficient = 0 then ⟨0, 0⟩ else go d.coefficient.log2 d.coefficient d.exponent

/-- The shortest decimal in the rounding interval of a positive finite number; seventeen digits
always suffice. -/
def shortest (tie : Tie) (x : Float) : Decimal :=
  let r := Binary64.magnitude x
  let order := decimalOrder r
  let interval := roundingInterval x
  let hit := (List.range 17).findSome? fun (n : Nat) =>
    nearestOnGrid? tie interval r (order - 1 - n)
  match hit with
  | some d => strip d
  | none => ⟨(r * Binary64.tenPow 1074).floor.toNat, -1074⟩

end Decimal

end GeoSearch
