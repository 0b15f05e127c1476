import GeoSearch.Text.Split
import GeoSearch.Decimal.Reader
/-!
Pieces of date and time text. Each reader takes characters and returns what it read
with the characters that follow.
-/
namespace GeoSearch.Time.Scan

open GeoSearch.Text (isBlank)

def skipBlanks (text : List Char) : List Char := text.dropWhile isBlank

/-- Between `least` and `most` digits, as many as there are. -/
def number (least most : Nat) (text : List Char) : Option (Nat × List Char) :=
  let digits := (text.take most).takeWhile Char.isDigit
  if digits.length < least then none
  else some (Decimal.natOfDigits digits, text.drop digits.length)

/-- All the digits there are, at least one. -/
def digits (text : List Char) : Option (Nat × List Char) :=
  let (read, rest) := Decimal.splitDigits text
  if read.isEmpty then none else some (Decimal.natOfDigits read, rest)

def char (expected : Char) : List Char → Option (Unit × List Char)
  | c :: rest => if c = expected then some ((), rest) else none
  | [] => none

/-- Nanoseconds from the digits of a fraction; digits beyond nine are dropped. -/
def fraction (text : List Char) : Option (Nat × List Char) := do
  let taken := ((text.take 9).takeWhile Char.isDigit).length
  let (n, rest) ← number 1 9 text
  pure (n * Nat.pow 10 (9 - taken), rest.dropWhile Char.isDigit)

/-- Nanoseconds from exactly `places` digits. -/
def fixedFraction (places : Nat) (text : List Char) : Option (Nat × List Char) := do
  let (n, rest) ← number places places text
  pure (n * Nat.pow 10 (9 - places), rest)

/-- Nanoseconds behind a point, if there is a point. -/
def optionalFraction (text : List Char) : Option (Option Nat × List Char) :=
  match text with
  | '.' :: rest => (fraction rest).map fun (n, rest) => (some n, rest)
  | _ => some (none, text)

/-- What stands between the hours and the minutes of an offset. -/
inductive OffsetColon where
  /-- exactly one colon -/
  | required
  /-- any run of colons and blanks, also none -/
  | free

def OffsetColon.skip : OffsetColon → List Char → Option (List Char)
  | .required, ':' :: rest => some rest
  | .required, _ => none
  | .free, text => some (text.dropWhile fun c => c = ':' ∨ isBlank c)

/-- An offset from universal time in seconds: `Z` where allowed, or a sign, two digits of hours and
two of minutes. -/
def offset (colon : OffsetColon) (zulu optionalMinutes : Bool) (text : List Char) : Option (Int × List Char) := do
  match text with
  | [] => none
  | sign :: rest =>
    if zulu ∧ (sign = 'Z' ∨ sign = 'z') then some (0, rest)
    else
      let negative ←
        if sign = '+' then some false
        else if sign = '-' ∨ sign = '\u2212' then some true
        else none
      let (hours, rest) ← number 2 2 rest
      let rest ← colon.skip rest
      let (minutes, rest) ←
        if optionalMinutes ∧ rest.isEmpty then some (0, rest)
        else (number 2 2 rest).bind fun (m, rest) => if m < 60 then some (m, rest) else none
      let seconds : Int := hours * 3600 + minutes * 60
      some (if negative then -seconds else seconds, rest)

end GeoSearch.Time.Scan
