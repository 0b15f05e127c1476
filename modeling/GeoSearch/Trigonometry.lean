import GeoSearch.Binary64
/-!
Sines, cosines, arcsines and lengths of binary64 numbers. Each is computed in integers at a fixed
number of binary places, far more than a binary64 number holds, and then rounded to the nearest.
-/
namespace GeoSearch.Trigonometry

/-- The largest integer whose square is at most `n`, one bit at a time. -/
def isqrt (n : Nat) : Nat :=
  let bits := n.log2 / 2 + 1
  (List.range bits).foldl (fun (root k : Nat) =>
    let next := root + Nat.pow 2 (bits - 1 - k)
    if next * next ≤ n then next else root) 0

/-! ### Fixed-point numbers: an integer `n` stands for `n / 2 ^ places` -/

def one (places : Nat) : Int := Nat.pow 2 places

def mul (places : Nat) (a b : Int) : Int := a * b / one places

def div (places : Nat) (a b : Int) : Int := a * one places / b

def sqrt (places : Nat) (a : Int) : Int := isqrt (a.toNat * Nat.pow 2 places)

def ofRat (places : Nat) (r : Rat) : Int := (r * (Nat.pow 2 places : Nat)).floor

def toRat (places : Nat) (a : Int) : Rat := mkRat a (Nat.pow 2 places)

/-- The arctangent of `1 / n` from its series. -/
def arctanInverse (places n : Nat) : Int :=
  let terms := places / (2 * n.log2) + 2
  let (sum, _) := (List.range terms).foldl (fun (sum, power) (k : Nat) =>
    let term : Int := power / (2 * k + 1 : Nat)
    (if k % 2 = 0 then sum + term else sum - term, power / (n * n : Nat))) ((0 : Int), one places / n)
  sum

/-- Half a turn: four times `4 arctan (1/5) - arctan (1/239)`. -/
def pi (places : Nat) : Int :=
  4 * (4 * arctanInverse places 5 - arctanInverse places 239)

/-- The arctangent of a number between 0 and 1: three times halved, then summed. -/
def arctan (places : Nat) (t : Int) : Int :=
  let halve (t : Int) : Int :=
    div places t (one places + sqrt places (one places + mul places t t))
  let small := halve (halve (halve t))
  let square := mul places small small
  let (sum, _) := (List.range (places / 6 + 2)).foldl (fun (sum, power) (k : Nat) =>
    let term : Int := power / (2 * k + 1 : Nat)
    (if k % 2 = 0 then sum + term else sum - term, mul places power square)) ((0 : Int), small)
  8 * sum

/-- `x - x^3/3! + …` when `odd`, else `1 - x^2/2! + …`, for `x` of at most one. -/
def circular (places : Nat) (odd : Bool) (x : Int) : Int :=
  let square := mul places x x
  let first := if odd then x else one places
  let shift := if odd then 1 else 0
  let (sum, _) := (List.range (places / 4 + 4)).foldl (fun (sum, term) (k : Nat) =>
    let next := -(mul places term square) / ((2 * k + 1 + shift) * (2 * k + 2 + shift) : Nat)
    (sum + term, next)) ((0 : Int), first)
  sum

/-! ### Rounded functions -/

/-- Below this magnitude a sine or an arcsine rounds to its argument, and a cosine to one. -/
def tiny : Float := Float.ofScientific 1 true 9

def workingPlaces : Nat := 192

/-- The sine, or with `quarter` 1 the cosine, of a finite number. -/
def turned (quarter : Int) (x : Float) : Float :=
  let places := workingPlaces + (Binary64.scale x + 53).toNat
  let angle := ofRat places (Binary64.value x)
  let right := pi places / 2
  let turns := (2 * angle + right) / (2 * right)
  let rest := angle - turns * right
  let magnitude := match (turns + quarter) % 4 with
    | 0 => circular places true rest
    | 1 => circular places false rest
    | 2 => -circular places true rest
    | _ => -circular places false rest
  Binary64.nearest (toRat places magnitude)

def sin (x : Float) : Float :=
  if !x.isFinite then Binary64.nan else if x.abs < tiny then x else turned 0 x

def cos (x : Float) : Float :=
  if !x.isFinite then Binary64.nan else if x.abs < tiny then 1.0 else turned 1 x

/-- The arcsine of a number between 0 and 1; any other has none. -/
def arcsin (y : Float) : Float :=
  if !(0.0 ≤ y && y ≤ 1.0) then Binary64.nan
  else if y < tiny then y
  else
    let places := workingPlaces
    let sine := ofRat places (Binary64.value y)
    let cosine := sqrt places (one places - mul places sine sine)
    let angle :=
      if sine ≤ cosine then arctan places (div places sine cosine)
      else pi places / 2 - arctan places (div places cosine sine)
    Binary64.nearest (toRat places angle)

/-- The length of a vector: the square root of the sum of squares, rounded once. -/
def length (x y : Float) : Float :=
  if x.isInf || y.isInf then Binary64.infinity
  else if x.isNaN || y.isNaN then Binary64.nan
  else
    let square := Binary64.magnitude x * Binary64.magnitude x + Binary64.magnitude y * Binary64.magnitude y
    if square = 0 then 0.0
    else
      let shift := 120 - Binary64.binaryOrder square / 2 * 2
      let scaled := square * Binary64.twoPow shift
      let root := isqrt scaled.floor.toNat
      let exact : Rat := (root : Rat)
      let approx := if exact * exact = scaled then exact else exact + mkRat 1 2
      Binary64.nearest (approx * Binary64.twoPow (-(shift / 2)))

end GeoSearch.Trigonometry
