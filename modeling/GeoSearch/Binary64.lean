/-!
Binary64 numbers as rationals: the exact value of a finite number, and the number nearest to a
rational. Operations that are exact in the reals (a remainder, a comparison of orientations) are
computed on the rational side.
-/
namespace GeoSearch.Binary64

/-- `2 ^ e` for any integer exponent. -/
def twoPow (e : Int) : Rat :=
  if 0 ≤ e then (Nat.pow 2 e.toNat : Rat) else mkRat 1 (Nat.pow 2 (-e).toNat)

def tenPow (e : Int) : Rat :=
  if 0 ≤ e then (Nat.pow 10 e.toNat : Rat) else mkRat 1 (Nat.pow 10 (-e).toNat)

/-- The sign bit, set for `-0.0` too. -/
def negative (x : Float) : Bool := x.toBits >>> 63 == 1

def exponentField (x : Float) : Nat := ((x.toBits >>> 52) &&& 0x7FF).toNat

def fractionField (x : Float) : Nat := (x.toBits &&& 0xFFFFFFFFFFFFF).toNat

/-- A finite magnitude is `significand x * 2 ^ scale x`. -/
def significand (x : Float) : Nat :=
  if exponentField x = 0 then fractionField x else 0x10000000000000 + fractionField x

def scale (x : Float) : Int :=
  if exponentField x = 0 then -1074 else (exponentField x : Int) - 1075

def magnitude (x : Float) : Rat := (significand x : Rat) * twoPow (scale x)

/-- The exact value of a finite number. -/
def value (x : Float) : Rat := if negative x then -magnitude x else magnitude x

/-- The integer nearest to a rational, a half going to the even neighbour. -/
def roundHalfEven (r : Rat) : Int :=
  let below := r.floor
  let rest := r - below
  if rest < mkRat 1 2 then below
  else if mkRat 1 2 < rest then below + 1
  else if below % 2 = 0 then below else below + 1

/-- The exponent `e` with `2 ^ e ≤ r < 2 ^ (e + 1)`, for a positive `r`. -/
def binaryOrder (r : Rat) : Int :=
  let guess : Int := (r.num.natAbs.log2 : Int) - (r.den.log2 : Int)
  if twoPow guess ≤ r then guess else guess - 1

/-- The bits of the number nearest to a positive rational. A significand that rounds up to `2 ^ 53`
carries into the exponent field, and one that overflows gives infinity. -/
def magnitudeBits (r : Rat) : Nat :=
  let e := max (binaryOrder r - 52) (-1074)
  let m := (roundHalfEven (r / twoPow e)).toNat
  min ((e + 1074).toNat * 0x10000000000000 + m) 0x7FF0000000000000

/-- The binary64 number nearest to a rational; zero is positive. -/
def nearest (r : Rat) : Float :=
  if r = 0 then 0.0
  else if r < 0 then -(Float.ofBits (UInt64.ofNat (magnitudeBits (-r))))
  else Float.ofBits (UInt64.ofNat (magnitudeBits r))

def copySign (x sign : Float) : Float := if negative sign then -x.abs else x.abs

/-- The remainder of truncated division, exact, with the sign of the dividend. -/
def remainder (x y : Float) : Float :=
  if x.isFinite && y.isFinite && y != 0.0 then
    let a := magnitude x
    let b := magnitude y
    copySign (nearest (a - b * ((a / b).floor : Int))) x
  else if x.isFinite && y.isInf then x
  else 0.0 / 0.0

/-- The smaller number; a number is preferred to NaN. -/
def least (x y : Float) : Float :=
  if x.isNaN then y else if y.isNaN then x else if y < x then y else x

/-- The larger number; a number is preferred to NaN. -/
def greatest (x y : Float) : Float :=
  if x.isNaN then y else if y.isNaN then x else if x < y then y else x

def infinity : Float := 1.0 / 0.0

def nan : Float := 0.0 / 0.0

end GeoSearch.Binary64
