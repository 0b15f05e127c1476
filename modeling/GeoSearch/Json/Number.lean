import GeoSearch.Decimal.Layout
import GeoSearch.Decimal.Reader
/-!
Document numbers keep the kind they were written in: an integer of the unsigned or signed 64-bit
range, or a binary64 number. Reading a number scales a 64-bit significand by a power of ten.
-/
namespace GeoSearch.Json

inductive Number where
  /-- at least `-2 ^ 63` and below `2 ^ 64` -/
  | integer (value : Int)
  /-- finite -/
  | float (value : Float)

namespace Number

def maxUnsigned : Nat := UInt64.size - 1

def toFloat : Number → Float
  | .integer n => if n < 0 then -Float.ofScientific n.natAbs false 0 else Float.ofScientific n.natAbs false 0
  | .float x => x

/-- Numbers are the same when their kinds and values agree. -/
def same : Number → Number → Bool
  | .integer a, .integer b => a == b
  | .float a, .float b => a == b
  | _, _ => false

def chars : Number → List Char
  | .integer n => (toString n).toList
  | .float x => Decimal.document.finite x

def text (n : Number) : String := String.ofList n.chars

/-! ### Reading -/

/-- The digits of a 64-bit significand, and how many further digits were left out. -/
structure Significand where
  value : Nat
  dropped : Nat

def fits (value digit : Nat) : Bool := value * 10 + digit ≤ maxUnsigned

/-- Whole digits are taken until one would not fit; that one and all after it are dropped. -/
def Significand.whole (digits : List Char) : Significand :=
  let rec go (value : Nat) : List Char → Significand
    | [] => ⟨value, 0⟩
    | d :: rest =>
      if fits value (Decimal.digitValue d) then go (value * 10 + Decimal.digitValue d) rest
      else ⟨value, rest.length + 1⟩
  go 0 digits

/-- Fraction digits are taken after the whole ones until one would not fit; the rest are ignored.
Returns the significand and the number of digits taken. -/
def Significand.fraction (value : Nat) : List Char → Nat × Nat
  | [] => (value, 0)
  | d :: rest =>
    if fits value (Decimal.digitValue d) then
      let (v, taken) := Significand.fraction (value * 10 + Decimal.digitValue d) rest
      (v, taken + 1)
    else (value, 0)

/-- A significand times a power of ten, none when it overflows. Beyond 308 the power is applied in
steps. -/
def scaled? (significand : Nat) (exponent : Int) : Option Float :=
  let power (n : Nat) : Float := Float.ofScientific 1 false n
  let up (x : Float) : Option Float := if x.isInf then none else some x
  let start := Float.ofScientific significand false 0
  if significand = 0 then some 0.0
  else if 0 ≤ exponent then
    if exponent ≤ 308 then up (start * power exponent.natAbs) else none
  else
    let rec down (fuel : Nat) (x : Float) (places : Nat) : Float :=
      match fuel with
      | 0 => x
      | fuel + 1 =>
        if x == 0.0 then x
        else if places ≤ 308 then x / power places
        else down fuel (x / power 308) (places - 308)
    some (down 4 start exponent.natAbs)

/-- Exponents with more than ten digits are all alike: out of range upwards, zero downwards. -/
def exponentLimit : Nat := 0x7FFFFFFF

/-- An optional sign and at least one digit. -/
def exponentDigits? (text : List Char) : Option (Bool × List Char) :=
  let read (down : Bool) (digits : List Char) : Option (Bool × List Char) :=
    if digits.isEmpty || !digits.all Char.isDigit then none else some (down, digits)
  match text with
  | '+' :: digits => read false digits
  | '-' :: digits => read true digits
  | digits => read false digits

def withExponent? (significand : Nat) (places : Int) (text : List Char) : Option Float := do
  let (down, digits) ← exponentDigits? text
  let n := Decimal.natOfDigits digits
  if n ≤ exponentLimit then scaled? significand (if down then places - n else places + n)
  else if significand ≠ 0 && !down then none
  else some 0.0

/-- The part of a number after its whole digits. -/
def tail? (start : Significand) (text : List Char) : Option Float :=
  match text with
  | '.' :: rest =>
    let (digits, rest) := Decimal.splitDigits rest
    if digits.isEmpty then none
    else
      let (value, taken) := Significand.fraction start.value digits
      let places : Int := (start.dropped : Int) - taken
      match rest with
      | [] => scaled? value places
      | c :: rest => if c = 'e' ∨ c = 'E' then withExponent? value places rest else none
  | c :: rest => if c = 'e' ∨ c = 'E' then withExponent? start.value start.dropped rest else none
  | [] => scaled? start.value start.dropped

def unsigned? (text : List Char) : Option Number :=
  let (digits, rest) := Decimal.splitDigits text
  if digits.isEmpty || (digits.head? == some '0' && digits.length ≠ 1) then none
  else
    let start := Significand.whole digits
    if rest.isEmpty && start.dropped = 0 then some (.integer start.value)
    else (tail? start rest).map .float

/-- Minus zero and integers below the signed range are binary64 numbers. -/
def negate : Number → Number
  | .integer n =>
    if 0 < n ∧ n ≤ 0x8000000000000000 then .integer (-n) else .float (-Float.ofScientific n.natAbs false 0)
  | .float x => .float (-x)

def read? : List Char → Option Number
  | '-' :: rest => (unsigned? rest).map negate
  | text => unsigned? text

end Number

end GeoSearch.Json
