/-!
Calendar dates of the proleptic Gregorian calendar and their day numbers, counted from 1970-01-01.
Years run in cycles of 400, each of 146097 days; inside a cycle years start in March, so that the
leap day comes last.
-/
namespace GeoSearch.Time

structure Date where
  year : Int
  month : Nat
  day : Nat
  deriving Repr, DecidableEq

def isLeap (year : Int) : Bool := year % 4 = 0 ∧ (year % 100 ≠ 0 ∨ year % 400 = 0)

def monthLength (year : Int) (month : Nat) : Nat :=
  match month with
  | 2 => if isLeap year then 29 else 28
  | 4 | 6 | 9 | 11 => 30
  | _ => 31

namespace Date

def minYear : Int := -262143

def maxYear : Int := 262142

/-- The date with these fields, if there is one in the supported years. -/
def of? (year : Int) (month day : Nat) : Option Date :=
  if minYear ≤ year ∧ year ≤ maxYear ∧ 1 ≤ month ∧ month ≤ 12 ∧ 1 ≤ day ∧ day ≤ monthLength year month
  then some ⟨year, month, day⟩ else none

/-- Days since 1970-01-01. -/
def dayNumber (d : Date) : Int :=
  let y := if d.month ≤ 2 then d.year - 1 else d.year
  let cycle := y.fdiv 400
  let yearOfCycle := y - cycle * 400
  let monthFromMarch : Int := if d.month ≤ 2 then d.month + 9 else (d.month : Int) - 3
  let dayOfYear := (153 * monthFromMarch + 2) / 5 + d.day - 1
  let dayOfCycle := yearOfCycle * 365 + yearOfCycle / 4 - yearOfCycle / 100 + dayOfYear
  cycle * 146097 + dayOfCycle - 719468

def ofDayNumber (n : Int) : Date :=
  let z := n + 719468
  let cycle := z.fdiv 146097
  let dayOfCycle := z - cycle * 146097
  let yearOfCycle :=
    (dayOfCycle - dayOfCycle / 1460 + dayOfCycle / 36524 - dayOfCycle / 146096) / 365
  let dayOfYear := dayOfCycle - (365 * yearOfCycle + yearOfCycle / 4 - yearOfCycle / 100)
  let monthFromMarch := (5 * dayOfYear + 2) / 153
  let day := dayOfYear - (153 * monthFromMarch + 2) / 5 + 1
  let month := if monthFromMarch < 10 then monthFromMarch + 3 else monthFromMarch - 9
  let year := yearOfCycle + cycle * 400 + (if month ≤ 2 then 1 else 0)
  ⟨year, month.toNat, day.toNat⟩

def inRange (d : Date) : Bool := minYear ≤ d.year ∧ d.year ≤ maxYear

def newYear (year : Int) : Date := ⟨year, 1, 1⟩

/-- The day of the year, counted from 1. -/
def ordinal (d : Date) : Nat := (d.dayNumber - (newYear d.year).dayNumber + 1).toNat

def yearLength (year : Int) : Nat := if isLeap year then 366 else 365

def ofOrdinal? (year : Int) (ordinal : Nat) : Option Date :=
  if minYear ≤ year ∧ year ≤ maxYear ∧ 1 ≤ ordinal ∧ ordinal ≤ yearLength year
  then some (ofDayNumber ((newYear year).dayNumber + ordinal - 1)) else none

/-- Days since Monday. -/
def weekday (d : Date) : Nat := ((d.dayNumber + 3) % 7).toNat

def quarter (d : Date) : Nat := (d.month + 2) / 3

/-- Days from one weekday to another, forwards. -/
def daysSince (weekday start : Nat) : Nat := (weekday + 7 - start) % 7

/-- The week of the year, where week 1 opens with the year's first `start` day. -/
def weekFrom (d : Date) (start : Nat) : Nat := (d.ordinal + 6 - daysSince d.weekday start) / 7

/-- The Monday of the ISO year's first week, the one that holds 4 January. -/
def isoStart (year : Int) : Int :=
  let fourth : Date := ⟨year, 1, 4⟩
  fourth.dayNumber - fourth.weekday

def isoWeek (d : Date) : Int × Nat :=
  let n := d.dayNumber
  let year :=
    if n < isoStart d.year then d.year - 1
    else if isoStart (d.year + 1) ≤ n then d.year + 1
    else d.year
  (year, ((n - isoStart year) / 7).toNat + 1)

def ofIsoWeek? (year : Int) (week weekday : Nat) : Option Date :=
  let weeks := ((isoStart (year + 1) - isoStart year) / 7).toNat
  if minYear ≤ year ∧ year ≤ maxYear ∧ 1 ≤ week ∧ week ≤ weeks then
    let d := ofDayNumber (isoStart year + 7 * (week - 1) + weekday)
    if d.inRange then some d else none
  else none

end Date

end GeoSearch.Time
