import GeoSearch.Time.Date
/-!
Instants of universal time: seconds since 1970-01-01T00:00:00Z and nanoseconds within the second.
A leap second is the second before it with a thousand million nanoseconds or more.
-/
namespace GeoSearch.Time

def nanosPerSecond : Nat := 1000000000

structure Instant where
  seconds : Int
  nanos : Nat
  deriving Repr, DecidableEq

/-- A time of day; in a leap second `nanos` reaches below two thousand millions. -/
structure TimeOfDay where
  hour : Nat
  minute : Nat
  second : Nat
  nanos : Nat
  deriving Repr, DecidableEq

namespace TimeOfDay

def midnight : TimeOfDay := ⟨0, 0, 0, 0⟩

/-- The time of these fields; second 60 is the leap second after second 59. -/
def of? (hour minute second nanos : Nat) : Option TimeOfDay :=
  if hour < 24 ∧ minute < 60 then
    if second < 60 then some ⟨hour, minute, second, nanos⟩
    else if second = 60 then some ⟨hour, minute, 59, nanosPerSecond + nanos⟩
    else none
  else none

/-- The second as it is written, 60 within a leap second. -/
def shownSecond (t : TimeOfDay) : Nat := t.second + t.nanos / nanosPerSecond

def shownNanos (t : TimeOfDay) : Nat := t.nanos % nanosPerSecond

def hour12 (t : TimeOfDay) : Nat := if t.hour % 12 = 0 then 12 else t.hour % 12

def afternoon (t : TimeOfDay) : Bool := 12 ≤ t.hour

end TimeOfDay

namespace Instant

/-- Instants are ordered by second, then by nanosecond. -/
def compare (a b : Instant) : Ordering :=
  (Ord.compare a.seconds b.seconds).then (Ord.compare a.nanos b.nanos)

def before (a b : Instant) : Bool := a.compare b == .lt

def date (i : Instant) : Date := Date.ofDayNumber (i.seconds.fdiv 86400)

def timeOfDay (i : Instant) : TimeOfDay :=
  let s := (i.seconds.fmod 86400).toNat
  ⟨s / 3600, s / 60 % 60, s % 60, i.nanos⟩

/-- The instant of a local date and time, `offset` seconds ahead of universal time. -/
def ofLocal (d : Date) (t : TimeOfDay) (offset : Int) : Instant :=
  ⟨d.dayNumber * 86400 + (t.hour * 3600 + t.minute * 60 + t.second : Nat) - offset, t.nanos⟩

/-- The same, if universal time is still in the supported years. -/
def ofLocal? (d : Date) (t : TimeOfDay) (offset : Int) : Option Instant :=
  let i := ofLocal d t offset
  if i.date.inRange then some i else none

def ofDate (d : Date) (t : TimeOfDay) : Instant := ofLocal d t 0

end Instant

/-- A period, both ends included. -/
structure Period where
  start : Instant
  stop : Instant
  deriving Repr, DecidableEq

end GeoSearch.Time
