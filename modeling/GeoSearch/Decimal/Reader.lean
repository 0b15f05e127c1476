import GeoSearch.Binary64
/-!
Reading a number from text: an optional sign, digits with an optional point, an optional exponent,
or a word for infinity or NaN. The value is the binary64 number nearest to the decimal.
-/
namespace GeoSearch.Decimal

inductive ReadError where
  | empty
  | invalid
  deriving Repr, DecidableEq

def ReadError.message : ReadError → String
  | .empty => "cannot parse float from empty string"
  | .invalid => "invalid float literal"

def digitValue (c : Char) : Nat := c.toNat - '0'.toNat

def natOfDigits (digits : List Char) : Nat := digits.foldl (fun n c => 10 * n + digitValue c) 0

/-- The number nearest to `coefficient * 10 ^ exponent`. Magnitudes far outside the binary64 range
are decided without building the power. -/
def nearest (coefficient : Nat) (exponent : Int) : Float :=
  if coefficient = 0 then 0.0
  else
    let order : Int := (toString coefficient).length + exponent
    if 400 < order then Binary64.infinity
    else if order < -400 then 0.0
    else Float.ofScientific coefficient (exponent < 0) exponent.natAbs

def splitDigits (text : List Char) : List Char × List Char :=
  (text.takeWhile Char.isDigit, text.dropWhile Char.isDigit)

/-- A signed run of digits, for an exponent. -/
def exponent? (text : List Char) : Option Int :=
  let read (digits : List Char) : Option Nat :=
    if digits.isEmpty || !digits.all Char.isDigit then none else some (natOfDigits digits)
  match text with
  | '+' :: digits => (read digits).map fun n => (n : Int)
  | '-' :: digits => (read digits).map fun n => -(n : Int)
  | digits => (read digits).map fun n => (n : Int)

/-- Digits with an optional point and exponent; some digit must stand before or after the point. -/
def decimal? (text : List Char) : Option Float :=
  let (whole, rest) := splitDigits text
  let (fraction, rest) := match rest with
    | '.' :: rest => splitDigits rest
    | rest => ([], rest)
  if whole.isEmpty && fraction.isEmpty then none
  else
    let scaled (e : Int) := nearest (natOfDigits (whole ++ fraction)) (e - fraction.length)
    match rest with
    | [] => some (scaled 0)
    | c :: tail => if c = 'e' ∨ c = 'E' then (exponent? tail).map scaled else none

def unsigned? (text : List Char) : Option Float :=
  match String.ofList (text.map Char.toLower) with
  | "inf" | "infinity" => some Binary64.infinity
  | "nan" => some Binary64.nan
  | _ => decimal? text

def read (text : List Char) : Except ReadError Float :=
  let answer (magnitude : Option Float) : Except ReadError Float :=
    match magnitude with
    | some x => .ok x
    | none => .error .invalid
  match text with
  | [] => .error .empty
  | '+' :: rest => answer (unsigned? rest)
  | '-' :: rest => answer ((unsigned? rest).map (- ·))
  | rest => answer (unsigned? rest)

def read? (text : List Char) : Option Float := (read text).toOption

end GeoSearch.Decimal
