import GeoSearch.Proofs.Decimal.Layout
import GeoSearch.Proofs.Time.Calendar
import GeoSearch.Time.Rfc3339
/-!
Timestamps that are written and read. The lenient reader gives every instant back from its text, leap
seconds and years of more than four digits included.
-/
namespace GeoSearch

theorem Text.Ends.take {p : Char → Bool} {text : List Char} (ends : Ends p text) (n : Nat) :
    Ends p (text.take n) := by
  cases n with
  | zero => exact ends_nil
  | succ n =>
    cases text with
    | nil => exact ends_nil
    | cons c rest => exact ends_cons (ends c rest rfl)

namespace Time

open Decimal (Digits digitsOf natOfDigits)
open Text (Ends ends_cons isBlank)

namespace Scan

variable {digits rest : List Char} {least most : Nat}

theorem taken_append (all : Digits digits) (few : digits.length ≤ most)
    (ends : digits.length = most ∨ Ends Char.isDigit rest) :
    ((digits ++ rest).take most).takeWhile Char.isDigit = digits := by
  rw [List.take_append, List.take_of_length_le few]
  have stop : Ends Char.isDigit (rest.take (most - digits.length)) := by
    rcases ends with full | ends
    · rw [full, Nat.sub_self, List.take_zero]
      exact Text.ends_nil
    · exact ends.take _
  exact (Text.parts_append all stop).1

/-- A reader goes on with what its first part has read. -/
theorem bind_of_eq {α β : Type} {read : Option α} {a : α} (known : read = some a)
    (next : α → Option β) : (read >>= next) = next a := by
  rw [known]
  rfl

/-- A run of digits is a number, if there are enough of them and no further one is taken. -/
theorem number_append (all : Digits digits) (enough : least ≤ digits.length)
    (few : digits.length ≤ most) (ends : digits.length = most ∨ Ends Char.isDigit rest) :
    number least most (digits ++ rest) = some (natOfDigits digits, rest) := by
  unfold number
  dsimp only
  rw [taken_append all few ends, if_neg (Nat.not_lt.mpr enough), List.drop_left]

theorem digits_append (all : Digits digits) (any : digits ≠ []) (ends : Ends Char.isDigit rest) :
    Scan.digits (digits ++ rest) = some (natOfDigits digits, rest) := by
  unfold Scan.digits
  rw [Decimal.splitDigits_append all ends]
  simp [any]

theorem isBlank_of_isDigit {c : Char} (digit : c.isDigit = true) : isBlank c = false := by
  have range : 48 ≤ c.toNat ∧ c.toNat ≤ 57 := by
    simpa [Char.isDigit, UInt32.le_iff_toNat_le] using digit
  simp [isBlank, Text.blankRanges]
  omega

theorem skipBlanks_cons {c : Char} (shown : isBlank c = false) : skipBlanks (c :: rest) = c :: rest := by
  simp [skipBlanks, shown]

theorem skipBlanks_append (all : Digits digits) (any : digits ≠ []) :
    skipBlanks (digits ++ rest) = digits ++ rest := by
  cases digits with
  | nil => exact absurd rfl any
  | cons c others => exact skipBlanks_cons (isBlank_of_isDigit (all c (List.mem_cons_self ..)))

end Scan

namespace Rfc3339

open Scan

theorem digitChar_spec (n : Nat) :
    (digitChar n).isDigit = true ∧ Decimal.digitValue (digitChar n) = n % 10 := by
  have lt : n % 10 < 10 := Nat.mod_lt _ (by decide)
  unfold digitChar
  generalize n % 10 = m at lt
  interval_cases m <;> exact ⟨rfl, rfl⟩

@[simp] theorem length_fixedDigits (width n : Nat) : (fixedDigits width n).length = width := by
  induction width generalizing n with
  | zero => rfl
  | succ width ih => simp [fixedDigits, ih]

theorem digits_fixedDigits (width n : Nat) : Digits (fixedDigits width n) := by
  induction width generalizing n with
  | zero => simp [fixedDigits, Digits]
  | succ width ih =>
    refine (ih (n / 10)).append ?_
    intro c member
    rw [List.mem_singleton.mp member]
    exact (digitChar_spec n).1

/-- The digits of a fixed number of places say the number as far as it has places. -/
theorem natOfDigits_fixedDigits (width n : Nat) :
    natOfDigits (fixedDigits width n) = n % 10 ^ width := by
  induction width generalizing n with
  | zero => simp [fixedDigits, natOfDigits, Nat.mod_one]
  | succ width ih =>
    have last : natOfDigits [digitChar n] = n % 10 := by
      simp [natOfDigits, (digitChar_spec n).2]
    rw [fixedDigits, Decimal.natOfDigits_append, ih, last, List.length_singleton, pow_one, pow_succ',
      Nat.mod_mul, Nat.add_comm]

variable {rest : List Char} {n : Nat}

theorem number_twoDigits {least : Nat} (few : least ≤ 2) (small : n < 100) (rest : List Char) :
    number least 2 (twoDigits n ++ rest) = some (n, rest) := by
  rw [twoDigits, number_append (digits_fixedDigits 2 n) (by simpa using few) (by simp)
    (.inl (length_fixedDigits 2 n)), natOfDigits_fixedDigits, Nat.mod_eq_of_lt (by simpa using small)]

theorem field_twoDigits (small : n < 100) (rest : List Char) :
    field 2 (twoDigits n ++ rest) = some (n, rest) := by
  have any : fixedDigits 2 n ≠ [] := by
    rw [← List.length_pos_iff, length_fixedDigits]
    decide
  rw [field, twoDigits, skipBlanks_append (digits_fixedDigits 2 n) any]
  exact number_twoDigits (by decide) small rest

theorem spacedChar_cons {c : Char} (shown : isBlank c = false) (rest : List Char) :
    spacedChar c (c :: rest) = some ((), rest) := by
  rw [spacedChar, skipBlanks_cons shown, char, if_pos rfl]

/-- A year without a sign. -/
theorem signedYear_digits {digits : List Char} (all : Digits digits) (any : digits ≠ []) :
    signedYear (digits ++ rest) =
      (number 1 4 (digits ++ rest)).map fun (n, rest) => ((n : Int), rest) := by
  rw [signedYear, skipBlanks_append all any]
  cases digits with
  | nil => exact absurd rfl any
  | cons c others =>
    have digit := all c (List.mem_cons_self ..)
    split
    · next same =>
      cases same
      cases digit
    · next same =>
      cases same
      cases digit
    · rfl

/-- The digits of a year, four at least. They stand alone where four are enough, else behind a sign. -/
theorem yearChars_digits (year : Int) :
    ∃ digits, Digits digits ∧ digits ≠ [] ∧ natOfDigits digits = year.natAbs ∧
      (0 ≤ year ∧ year ≤ 9999 → digits.length = 4) ∧
      yearChars year = if 0 ≤ year ∧ year ≤ 9999 then digits
        else (if year < 0 then '-' else '+') :: digits := by
  refine ⟨List.replicate (4 - (digitsOf year.natAbs).length) '0' ++ digitsOf year.natAbs,
    (Decimal.digits_zeros _).append (Decimal.digits_digitsOf _), by simp [Decimal.digitsOf_ne_nil],
    by rw [Decimal.natOfDigits_leading, Decimal.natOfDigits_digitsOf], fun plain => ?_, rfl⟩
  have short : (digitsOf year.natAbs).length ≤ 4 := by
    rw [Decimal.digitsOf_eq]
    exact Nat.toDigits_length 10 _ 4 (by decide) (by omega)
  rw [List.length_append, List.length_replicate]
  omega

theorem signedYear_yearChars (year : Int) (ends : Ends Char.isDigit rest) :
    signedYear (yearChars year ++ rest) = some (year, rest) := by
  obtain ⟨digits, all, any, value, length, chars⟩ := yearChars_digits year
  rw [chars]
  split
  · next plain =>
    have four := length plain
    rw [signedYear_digits all any, number_append all (by omega) (by omega) (.inl four), value]
    simp [plain.1]
  · next signed =>
    have read := digits_append all any ends
    split
    · next negative =>
      rw [List.cons_append, signedYear, skipBlanks_cons rfl]
      simp [read, value, abs_of_neg negative]
    · next positive =>
      rw [List.cons_append, signedYear, skipBlanks_cons rfl]
      simp [read, value, abs_of_nonneg (not_lt.mp positive)]

/-- The digits of a fraction say as many nanoseconds as their places. -/
theorem fraction_fixedDigits {places : Nat} (any : 0 < places) (few : places ≤ 9)
    (small : n < 10 ^ places) (ends : Ends Char.isDigit rest) :
    fraction (fixedDigits places n ++ rest) = some (n * 10 ^ (9 - places), rest) := by
  have all := digits_fixedDigits places n
  have length := length_fixedDigits places n
  have few' : (fixedDigits places n).length ≤ 9 := by omega
  have none : ∀ c ∈ ([] : List Char), c.isDigit = true := nofun
  have left : rest.dropWhile Char.isDigit = rest := (Text.parts_append none ends).2
  rw [fraction]
  dsimp only
  rw [taken_append all few' (.inr ends), number_append all (by omega) few' (.inr ends),
    natOfDigits_fixedDigits, Nat.mod_eq_of_lt small, length]
  simp only [Option.bind_eq_bind, Option.bind_some, left]
  rfl

theorem optionalFraction_shortFraction {nanos : Nat} (small : nanos < nanosPerSecond)
    (ends : Ends Char.isDigit rest) (plain : Ends (· == '.') rest) :
    ∃ read, optionalFraction (shortFraction nanos ++ rest) = some (read, rest) ∧
      read.getD 0 = nanos := by
  unfold nanosPerSecond at small
  unfold shortFraction
  split
  · next zero =>
    refine ⟨none, ?_, zero.symm⟩
    rw [List.nil_append]
    unfold optionalFraction
    split
    · next other =>
      exact absurd (plain '.' other rfl) (by decide)
    · rfl
  · split
    · next milli =>
      refine ⟨some nanos, ?_, rfl⟩
      have value : nanos / 1000000 * 10 ^ (9 - 3) = nanos := by omega
      rw [List.cons_append, optionalFraction,
        fraction_fixedDigits (by decide) (by decide) (by omega) ends, value]
      rfl
    · split
      · next micro =>
        refine ⟨some nanos, ?_, rfl⟩
        have value : nanos / 1000 * 10 ^ (9 - 6) = nanos := by omega
        rw [List.cons_append, optionalFraction,
          fraction_fixedDigits (by decide) (by decide) (by omega) ends, value]
        rfl
      · refine ⟨some nanos, ?_, rfl⟩
        rw [List.cons_append, optionalFraction,
          fraction_fixedDigits (by decide) (by decide) (by omega) ends]
        simp

end Rfc3339

/-! ### Instants -/

namespace Instant

/-- An instant of the supported years; what reaches beyond a second is a leap second, at the end of a
minute. -/
structure Valid (i : Instant) : Prop where
  inRange : i.date.inRange = true
  nanos_lt : i.nanos < (if i.seconds % 60 = 59 then 2 * nanosPerSecond else nanosPerSecond)

variable {i : Instant}

theorem timeOfDay_fields (i : Instant) :
    ∃ second : Nat, (second : Int) = i.seconds % 86400 ∧ second < 86400 ∧
      i.timeOfDay = ⟨second / 3600, second / 60 % 60, second % 60, i.nanos⟩ := by
  refine ⟨(i.seconds % 86400).toNat, by omega, by omega, ?_⟩
  rw [timeOfDay, Int.fmod_eq_emod_of_nonneg _ (by decide)]

/-- The fields of an instant are read as its time of day. -/
theorem Valid.timeOfDay (valid : i.Valid) :
    TimeOfDay.of? i.timeOfDay.hour i.timeOfDay.minute i.timeOfDay.shownSecond i.timeOfDay.shownNanos =
      some i.timeOfDay := by
  obtain ⟨second, day, last, fields⟩ := timeOfDay_fields i
  have nanos := valid.nanos_lt
  have hour : second / 3600 < 24 := by omega
  have minute : second / 60 % 60 < 60 := by omega
  rw [fields, TimeOfDay.of?, TimeOfDay.shownSecond, TimeOfDay.shownNanos]
  dsimp only
  rw [if_pos ⟨hour, minute⟩]
  by_cases leap : nanosPerSecond ≤ i.nanos
  · have whole : i.nanos / nanosPerSecond = 1 := by unfold nanosPerSecond at *; split at nanos <;> omega
    have late : second % 60 = 59 := by split at nanos <;> omega
    have parts : nanosPerSecond + i.nanos % nanosPerSecond = i.nanos := by
      unfold nanosPerSecond at *
      omega
    rw [whole, late, parts]
    rfl
  · have short := not_le.mp leap
    rw [Nat.div_eq_of_lt short, Nat.mod_eq_of_lt short, Nat.add_zero, if_pos (Nat.mod_lt _ (by decide))]

/-- The date and the time of an instant say the instant. -/
theorem ofLocal?_self (valid : i.Valid) : ofLocal? i.date i.timeOfDay 0 = some i := by
  have whole : ofLocal i.date i.timeOfDay 0 = i := by
    obtain ⟨second, day, -, fields⟩ := timeOfDay_fields i
    have number : i.date.dayNumber = i.seconds / 86400 := by
      rw [date, Date.dayNumber_ofDayNumber, Int.fdiv_eq_ediv_of_nonneg _ (by decide)]
    have seconds : i.seconds / 86400 * 86400 +
        (second / 3600 * 3600 + second / 60 % 60 * 60 + second % 60 : Nat) - 0 = i.seconds := by omega
    rw [ofLocal, fields, number]
    dsimp only
    rw [seconds]
  rw [ofLocal?, whole, if_pos valid.inRange]

/-- Two places are enough for each field. -/
theorem Valid.fields_lt (valid : i.Valid) :
    i.date.month < 100 ∧ i.date.day < 100 ∧ i.timeOfDay.hour < 100 ∧ i.timeOfDay.minute < 100 ∧
      i.timeOfDay.shownSecond < 100 := by
  obtain ⟨second, -, last, fields⟩ := timeOfDay_fields i
  obtain ⟨-, month, -, day⟩ := Date.ofDayNumber_valid (i.seconds.fdiv 86400)
  have nanos := valid.nanos_lt
  refine ⟨month.trans_lt (by decide), (day.trans (Date.monthLength_le _ _)).trans_lt (by decide),
    ?_, ?_, ?_⟩
  · rw [fields]
    dsimp only
    omega
  · rw [fields]
    dsimp only
    omega
  · rw [fields, TimeOfDay.shownSecond]
    dsimp only
    unfold nanosPerSecond at *
    split at nanos <;> omega

end Instant

namespace Rfc3339

open Scan (bind_of_eq)

variable {i : Instant}

/-- Fields of two digits each, in their order, with a fraction and the sign of no offset. -/
theorem lenientFields_spelled {year : Int} {month day hour minute second : Nat} {nanos : Option Nat}
    {fraction : List Char} (month_lt : month < 100) (day_lt : day < 100) (hour_lt : hour < 100)
    (minute_lt : minute < 100) (second_lt : second < 100)
    (taken : Scan.optionalFraction (fraction ++ ['Z']) = some (nanos, ['Z'])) :
    lenientFields (yearChars year ++ '-' :: (twoDigits month ++ '-' :: (twoDigits day ++
      'T' :: (twoDigits hour ++ ':' :: (twoDigits minute ++ ':' :: (twoDigits second ++
        (fraction ++ ['Z']))))))) =
      some (⟨year, month, day, hour, minute, second, nanos, 0⟩, []) := by
  have dash : isBlank '-' = false := rfl
  have colon : isBlank ':' = false := rfl
  have date (rest : List Char) :
      signedYear (yearChars year ++ '-' :: rest) = some (year, '-' :: rest) :=
    signedYear_yearChars year (ends_cons rfl)
  have time (rest : List Char) : separator ('T' :: rest) = some rest := rfl
  rw [lenientFields]
  refine (bind_of_eq (date _) _).trans ?_
  refine (bind_of_eq (spacedChar_cons dash _) _).trans ?_
  refine (bind_of_eq (field_twoDigits month_lt _) _).trans ?_
  refine (bind_of_eq (spacedChar_cons dash _) _).trans ?_
  refine (bind_of_eq (field_twoDigits day_lt _) _).trans ?_
  refine (bind_of_eq (time _) _).trans ?_
  refine (bind_of_eq (field_twoDigits hour_lt _) _).trans ?_
  refine (bind_of_eq (spacedChar_cons colon _) _).trans ?_
  refine (bind_of_eq (field_twoDigits minute_lt _) _).trans ?_
  refine (bind_of_eq (spacedChar_cons colon _) _).trans ?_
  refine (bind_of_eq (field_twoDigits second_lt _) _).trans ?_
  exact (bind_of_eq taken _).trans rfl

/-- The fields of a written instant. -/
theorem lenientFields_chars (valid : i.Valid) :
    ∃ nanos, nanos.getD 0 = i.timeOfDay.shownNanos ∧
      lenientFields (chars i ['Z']) =
        some (⟨i.date.year, i.date.month, i.date.day, i.timeOfDay.hour, i.timeOfDay.minute,
          i.timeOfDay.shownSecond, nanos, 0⟩, []) := by
  obtain ⟨month, day, hour, minute, shown⟩ := valid.fields_lt
  have below : i.timeOfDay.shownNanos < nanosPerSecond := Nat.mod_lt _ (by decide)
  have zulu : Ends Char.isDigit ['Z'] := ends_cons rfl
  obtain ⟨read, taken, value⟩ := optionalFraction_shortFraction below zulu (ends_cons rfl)
  refine ⟨read, value, ?_⟩
  simp only [chars, dateChars, timeChars, List.append_assoc, List.cons_append]
  exact lenientFields_spelled month day hour minute shown taken

/-- The fields of an instant in universal time say the instant. -/
theorem instant?_fields (valid : i.Valid) :
    instant? (Date.of? i.date.year i.date.month i.date.day)
      (TimeOfDay.of? i.timeOfDay.hour i.timeOfDay.minute i.timeOfDay.shownSecond
        i.timeOfDay.shownNanos) 0 = some i := by
  have date : Date.of? i.date.year i.date.month i.date.day = some i.date :=
    Date.of?_ofDayNumber valid.inRange
  have zone : (-86400 : Int) < 0 ∧ (0 : Int) < 86400 := by decide
  rw [valid.timeOfDay, date, instant?, if_pos zone]
  exact Instant.ofLocal?_self valid

/-- The lenient reader gives an instant back. -/
theorem readLenient?_write (valid : i.Valid) : readLenient? (write i) = some i := by
  obtain ⟨nanos, read, fields⟩ := lenientFields_chars valid
  rw [readLenient?, write, String.toList_ofList, fields]
  simp only [Option.bind_eq_bind, Option.bind_some]
  change Fields.instant? _ = _
  rw [Fields.instant?, read]
  exact instant?_fields valid

end Rfc3339

end Time

end GeoSearch
