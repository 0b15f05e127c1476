import GeoSearch.Time.Instant
import GeoSearch.Time.Scan
/-!
Timestamps. One reader takes the exact form `2020-01-31T10:20:30.5+01:00`; a lenient one, for
literals, takes unpadded fields, blanks between them and signed years. The writers give universal
time.
-/
namespace GeoSearch.Time.Rfc3339

open Scan

/-! ### Reading -/

def separator : List Char → Option (List Char)
  | c :: rest => if c = 'T' ∨ c = 't' ∨ c = ' ' then some rest else none
  | [] => none

def instant? (date : Option Date) (time : Option TimeOfDay) (offset : Int) : Option Instant := do
  if -86400 < offset ∧ offset < 86400 then Instant.ofLocal? (← date) (← time) offset else none

/-- The exact form; nothing may follow. -/
def readChars? (text : List Char) : Option Instant := do
  let (year, rest) ← number 4 4 text
  let (_, rest) ← char '-' rest
  let (month, rest) ← number 2 2 rest
  let (_, rest) ← char '-' rest
  let (day, rest) ← number 2 2 rest
  let rest ← separator rest
  let (hour, rest) ← number 2 2 rest
  let (_, rest) ← char ':' rest
  let (minute, rest) ← number 2 2 rest
  let (_, rest) ← char ':' rest
  let (second, rest) ← number 2 2 rest
  let (nanos, rest) ← optionalFraction rest
  let (offset, rest) ← Scan.offset .required true false rest
  if rest.isEmpty then
    instant? (Date.of? year month day) (TimeOfDay.of? hour minute second (nanos.getD 0)) offset
  else none

def read? (text : String) : Option Instant := readChars? text.toList

/-- A number after blanks, of at most `most` digits. -/
def field (most : Nat) (text : List Char) : Option (Nat × List Char) := number 1 most (skipBlanks text)

/-- A year: four digits at most, or any number of them behind a sign. -/
def signedYear (text : List Char) : Option (Int × List Char) :=
  match skipBlanks text with
  | '-' :: rest => (digits rest).map fun (n, rest) => (-(n : Int), rest)
  | '+' :: rest => (digits rest).map fun (n, rest) => ((n : Int), rest)
  | text => (number 1 4 text).map fun (n, rest) => ((n : Int), rest)

/-- A separator, blanks allowed in front. -/
def spacedChar (c : Char) (text : List Char) : Option (Unit × List Char) := char c (skipBlanks text)

/-- `UTC` in any case, or an offset whose minutes may follow a colon, blanks or nothing. -/
def zone (text : List Char) : Option (Int × List Char) :=
  match text with
  | u :: t :: c :: rest =>
    if u.toUpper = 'U' ∧ t.toUpper = 'T' ∧ c.toUpper = 'C' then some (0, rest)
    else Scan.offset .free true false text
  | _ => Scan.offset .free true false text

structure Fields where
  year : Int
  month : Nat
  day : Nat
  hour : Nat
  minute : Nat
  second : Nat
  nanos : Option Nat
  offset : Int

def lenientFields (text : List Char) : Option (Fields × List Char) := do
  let (year, rest) ← signedYear text
  let (_, rest) ← spacedChar '-' rest
  let (month, rest) ← field 2 rest
  let (_, rest) ← spacedChar '-' rest
  let (day, rest) ← field 2 rest
  let rest ← separator rest
  let (hour, rest) ← field 2 rest
  let (_, rest) ← spacedChar ':' rest
  let (minute, rest) ← field 2 rest
  let (_, rest) ← spacedChar ':' rest
  let (second, rest) ← field 2 rest
  let (nanos, rest) ← optionalFraction rest
  let (offset, rest) ← zone (skipBlanks rest)
  some (⟨year, month, day, hour, minute, second, nanos, offset⟩, rest)

def Fields.instant? (f : Fields) : Option Instant :=
  Rfc3339.instant? (Date.of? f.year f.month f.day)
    (TimeOfDay.of? f.hour f.minute f.second (f.nanos.getD 0)) f.offset

/-- The lenient form; blanks may follow. -/
def readLenient? (text : String) : Option Instant := do
  let (fields, rest) ← lenientFields text.toList
  if (skipBlanks rest).isEmpty then fields.instant? else none

/-! ### Writing -/

def digitChar (n : Nat) : Char := Char.ofNat ('0'.toNat + n % 10)

/-- The last `width` digits of a number. -/
def fixedDigits : Nat → Nat → List Char
  | 0, _ => []
  | width + 1, n => fixedDigits width (n / 10) ++ [digitChar n]

def twoDigits (n : Nat) : List Char := fixedDigits 2 n

/-- At least four digits; years outside four digits carry their sign. -/
def yearChars (year : Int) : List Char :=
  let digits := (toString year.natAbs).toList
  let padded := List.replicate (4 - digits.length) '0' ++ digits
  if 0 ≤ year ∧ year ≤ 9999 then padded
  else
    (if year < 0 then '-' else '+') :: padded

/-- Fraction digits, as few groups of three as hold the value. -/
def shortFraction (nanos : Nat) : List Char :=
  if nanos = 0 then []
  else if nanos % 1000000 = 0 then '.' :: fixedDigits 3 (nanos / 1000000)
  else if nanos % 1000 = 0 then '.' :: fixedDigits 6 (nanos / 1000)
  else '.' :: fixedDigits 9 nanos

def dateChars (d : Date) : List Char :=
  yearChars d.year ++ '-' :: twoDigits d.month ++ '-' :: twoDigits d.day

def timeChars (t : TimeOfDay) : List Char :=
  twoDigits t.hour ++ ':' :: twoDigits t.minute ++ ':' :: twoDigits (t.shownSecond)

/-- With as many fraction digits as needed. -/
def chars (i : Instant) (zone : List Char) : List Char :=
  dateChars i.date ++ 'T' :: timeChars i.timeOfDay ++
    shortFraction i.timeOfDay.shownNanos ++ zone

def write (i : Instant) : String := String.ofList (chars i ['Z'])

/-- The text of an instant in a clause: always three fraction digits, the rest cut off. -/
def writeMillis (i : Instant) : String :=
  String.ofList (dateChars i.date ++ 'T' :: timeChars i.timeOfDay ++
    '.' :: fixedDigits 3 (i.timeOfDay.shownNanos / 1000000) ++ ['Z'])

end GeoSearch.Time.Rfc3339
