import GeoSearch.Proofs.Time.Timestamp
/-!
Timestamps of exactly three fraction digits, the texts that clauses have for instants. The exact reader
gives back every instant that such a text can say, leap seconds included.
-/
namespace GeoSearch.Time

/-- An instant that a timestamp with milliseconds says: nothing is cut off, and four digits are enough
for the year. -/
structure Instant.Millisecond (i : Instant) : Prop where
  valid : i.Valid
  year : 0 ≤ i.date.year ∧ i.date.year ≤ 9999
  whole : i.nanos % 1000000 = 0

namespace Rfc3339

open Scan
open Text (ends_cons)

theorem number_yearChars {year : Int} (plain : 0 ≤ year ∧ year ≤ 9999) (rest : List Char) :
    number 4 4 (yearChars year ++ rest) = some (year.natAbs, rest) := by
  obtain ⟨digits, all, -, value, length, chars⟩ := yearChars_digits year
  have four := length plain
  rw [chars, if_pos plain, number_append all four.ge four.le (.inl four), value]

/-- The exact reader wants each field in full, and no offset other than that of universal time is
written. -/
theorem readChars?_spelled {year : Int} {month day hour minute second : Nat} {nanos : Option Nat}
    {fraction : List Char} (plain : 0 ≤ year ∧ year ≤ 9999) (month_lt : month < 100)
    (day_lt : day < 100) (hour_lt : hour < 100) (minute_lt : minute < 100) (second_lt : second < 100)
    (taken : Scan.optionalFraction (fraction ++ ['Z']) = some (nanos, ['Z'])) :
    readChars? (yearChars year ++ '-' :: (twoDigits month ++ '-' :: (twoDigits day ++
      'T' :: (twoDigits hour ++ ':' :: (twoDigits minute ++ ':' :: (twoDigits second ++
        (fraction ++ ['Z']))))))) =
      instant? (Date.of? year month day) (TimeOfDay.of? hour minute second (nanos.getD 0)) 0 := by
  have same : (year.natAbs : Int) = year := Int.natAbs_of_nonneg plain.1
  have zulu : Scan.offset .required true false ['Z'] = some (0, []) := rfl
  have dash (rest : List Char) : char '-' ('-' :: rest) = some ((), rest) := rfl
  have colon (rest : List Char) : char ':' (':' :: rest) = some ((), rest) := rfl
  have time (rest : List Char) : separator ('T' :: rest) = some rest := rfl
  have two {n : Nat} (small : n < 100) (rest : List Char) :
      number 2 2 (twoDigits n ++ rest) = some (n, rest) := number_twoDigits le_rfl small rest
  rw [readChars?]
  refine (bind_of_eq (number_yearChars plain _) _).trans ?_
  refine (bind_of_eq (dash _) _).trans ?_
  refine (bind_of_eq (two month_lt _) _).trans ?_
  refine (bind_of_eq (dash _) _).trans ?_
  refine (bind_of_eq (two day_lt _) _).trans ?_
  refine (bind_of_eq (time _) _).trans ?_
  refine (bind_of_eq (two hour_lt _) _).trans ?_
  refine (bind_of_eq (colon _) _).trans ?_
  refine (bind_of_eq (two minute_lt _) _).trans ?_
  refine (bind_of_eq (colon _) _).trans ?_
  refine (bind_of_eq (two second_lt _) _).trans ?_
  refine (bind_of_eq taken _).trans ?_
  refine (bind_of_eq zulu _).trans ?_
  simp only [List.isEmpty_nil, if_true, same]

variable {i : Instant}

/-- Three digits are the whole fraction of an instant of whole milliseconds. -/
theorem optionalFraction_milliseconds (milli : i.Millisecond) :
    optionalFraction ('.' :: fixedDigits 3 (i.timeOfDay.shownNanos / 1000000) ++ ['Z']) =
      some (some i.timeOfDay.shownNanos, ['Z']) := by
  have shown : i.timeOfDay.shownNanos = i.nanos % 1000000000 := rfl
  have whole := milli.whole
  have value : i.timeOfDay.shownNanos / 1000000 * 10 ^ (9 - 3) = i.timeOfDay.shownNanos := by omega
  rw [List.cons_append, optionalFraction,
    fraction_fixedDigits (by decide) (by decide) (by omega) (ends_cons rfl), value]
  rfl

/-- The exact reader gives an instant back from its text in a clause. -/
theorem read?_writeMillis (milli : i.Millisecond) : read? (writeMillis i) = some i := by
  obtain ⟨month, day, hour, minute, shown⟩ := milli.valid.fields_lt
  have fields := readChars?_spelled milli.year month day hour minute shown
    (optionalFraction_milliseconds milli)
  rw [Option.getD_some, instant?_fields milli.valid] at fields
  rw [read?, writeMillis, String.toList_ofList]
  simpa only [dateChars, timeChars, List.append_assoc, List.cons_append] using fields

/-- The last millisecond of a leap second. -/
example : read? (writeMillis ⟨1483228799, 1999000000⟩) = some ⟨1483228799, 1999000000⟩ := by
  decide +kernel

end Rfc3339

end GeoSearch.Time
