import GeoSearch.Decimal.Shortest
/-!
How a number is written out. Two layouts are used: measured text, which is always positional and
has no trailing `.0`, and document text, which keeps a `.0` and turns to an exponent for large and
small magnitudes.
-/
namespace GeoSearch.Decimal

structure Layout where
  /-- exponents of the leading digit that are written positionally -/
  positionalFrom : Option Int
  positionalTo : Option Int
  /-- an integral value ends in `.0` -/
  keepsPoint : Bool
  tie : Tie

/-- Positional at every magnitude: `100000000000000000000`, `0.0000001`. -/
def measured : Layout := ⟨none, none, false, .up⟩

/-- Positional from `1e-5` up to below `1e16`: `1.0`, `0.00001`, `1e+16`, `1e-6`. -/
def document : Layout := ⟨some (-5), some 15, true, .toEven⟩

def digitsOf (n : Nat) : List Char := (toString n).toList

/-- The digits with the point set `shift` places from their left end. -/
def pointed (digits : List Char) (shift : Int) (keepsPoint : Bool) : List Char :=
  let count : Int := digits.length
  if shift ≤ 0 then '0' :: '.' :: (List.replicate (-shift).toNat '0' ++ digits)
  else if shift < count then digits.take shift.toNat ++ '.' :: digits.drop shift.toNat
  else
    digits ++ List.replicate (shift - count).toNat '0' ++ (if keepsPoint then ['.', '0'] else [])

/-- One digit, the point, the rest, and a signed exponent. -/
def scientific (digits : List Char) (exponent : Int) : List Char :=
  let mantissa := match digits with
    | [] => []
    | [d] => [d]
    | d :: rest => d :: '.' :: rest
  let sign := if exponent < 0 then '-' else '+'
  mantissa ++ 'e' :: sign :: digitsOf exponent.natAbs

def Layout.positional (layout : Layout) (exponent : Int) : Bool :=
  (layout.positionalFrom.all (· ≤ exponent)) && (layout.positionalTo.all (exponent ≤ ·))

/-- A magnitude `d`, which is not zero. -/
def Layout.magnitude (layout : Layout) (d : Decimal) : List Char :=
  let digits := digitsOf d.coefficient
  let exponent := d.exponent + digits.length - 1
  if layout.positional exponent then pointed digits (exponent + 1) layout.keepsPoint
  else scientific digits exponent

def Layout.finite (layout : Layout) (x : Float) : List Char :=
  let unsigned :=
    if x == 0.0 then '0' :: (if layout.keepsPoint then ['.', '0'] else [])
    else layout.magnitude (shortest layout.tie x)
  if Binary64.negative x then '-' :: unsigned else unsigned

/-- A number in measured text, where infinities and NaN have words. -/
def measure (x : Float) : String :=
  if x.isNaN then "NaN"
  else if x.isInf then (if x < 0.0 then "-inf" else "inf")
  else String.ofList (measured.finite x)

end GeoSearch.Decimal
