import GeoSearch.Time.Rfc3339
/-!
Date patterns: percent directives between literal text. A pattern writes an instant and reads a
text; reading gathers whatever fields the directives name, and the fields then have to settle a
date, or a date and a time, without contradiction.
-/
namespace GeoSearch.Time

inductive NumberField where
  | year
  | century
  | yearOfCentury
  | isoYear
  | isoYearOfCentury
  | quarter
  | month
  | day
  | weekFromSunday
  | weekFromMonday
  | isoWeek
  | weekdayFromSunday
  | weekdayFromMonday
  | ordinal
  | hour
  | hour12
  | minute
  | second
  | nanosecond
  | timestamp
  deriving Repr, DecidableEq

inductive Padding where
  | none
  | zero
  | blank
  deriving Repr, DecidableEq

/-- How an offset from universal time is written. -/
inductive ZoneStyle where
  /-- `+0000` -/
  | compact
  /-- `+00:00` -/
  | colon
  /-- `+00:00:00` -/
  | seconds
  /-- `+00` -/
  | hours
  deriving Repr, DecidableEq

namespace Pattern

inductive Item where
  | literal (c : Char)
  | blank (c : Char)
  | number (field : NumberField) (padding : Padding)
  | monthName (long : Bool)
  | weekdayName (long : Bool)
  | halfDay (upper : Bool)
  /-- a point and as many fraction digits as needed, or nothing -/
  | fraction
  /-- a point and this many fraction digits -/
  | pointed (places : Nat)
  /-- this many fraction digits -/
  | digits (places : Nat)
  | zoneName
  | zone (style : ZoneStyle)
  /-- an offset that can be read but not written -/
  | lenientZone
  | timestamp
  /-- no directive: neither written nor read -/
  | invalid
  deriving Repr, DecidableEq

/-! ### Directives -/

def zero (field : NumberField) : Item := .number field .zero

def clockItems : List Item := [zero .hour, .literal ':', zero .minute, .literal ':', zero .second]

def slashedDate : List Item :=
  [zero .month, .literal '/', zero .day, .literal '/', zero .yearOfCentury]

/-- The items of a one-letter directive. -/
def directive? : Char → Option (List Item)
  | 'A' => some [.weekdayName true]
  | 'B' => some [.monthName true]
  | 'C' => some [zero .century]
  | 'D' => some slashedDate
  | 'F' => some [zero .year, .literal '-', zero .month, .literal '-', zero .day]
  | 'G' => some [zero .isoYear]
  | 'H' => some [zero .hour]
  | 'I' => some [zero .hour12]
  | 'M' => some [zero .minute]
  | 'P' => some [.halfDay false]
  | 'R' => some [zero .hour, .literal ':', zero .minute]
  | 'S' => some [zero .second]
  | 'T' => some clockItems
  | 'U' => some [zero .weekFromSunday]
  | 'V' => some [zero .isoWeek]
  | 'W' => some [zero .weekFromMonday]
  | 'X' => some clockItems
  | 'Y' => some [zero .year]
  | 'Z' => some [.zoneName]
  | 'a' => some [.weekdayName false]
  | 'b' => some [.monthName false]
  | 'c' => some ([.weekdayName false, .blank ' ', .monthName false, .blank ' ', .number .day .blank,
      .blank ' '] ++ clockItems ++ [.blank ' ', zero .year])
  | 'd' => some [zero .day]
  | 'e' => some [.number .day .blank]
  | 'f' => some [zero .nanosecond]
  | 'g' => some [zero .isoYearOfCentury]
  | 'h' => some [.monthName false]
  | 'j' => some [zero .ordinal]
  | 'k' => some [.number .hour .blank]
  | 'l' => some [.number .hour12 .blank]
  | 'm' => some [zero .month]
  | 'n' => some [.blank '\n']
  | 'p' => some [.halfDay true]
  | 'q' => some [.number .quarter .none]
  | 'r' => some ([zero .hour12, .literal ':', zero .minute, .literal ':', zero .second, .blank ' ',
      .halfDay true])
  | 's' => some [.number .timestamp .none]
  | 't' => some [.blank '\t']
  | 'u' => some [.number .weekdayFromMonday .none]
  | 'v' => some [.number .day .blank, .literal '-', .monthName false, .literal '-', zero .year]
  | 'w' => some [.number .weekdayFromSunday .none]
  | 'x' => some slashedDate
  | 'y' => some [zero .yearOfCentury]
  | 'z' => some [.zone .compact]
  | '+' => some [.timestamp]
  | '%' => some [.literal '%']
  | _ => none

/-- A padding mark goes with a single number only. -/
def padded? (padding : Padding) (c : Char) : Option Item :=
  match directive? c with
  | some [.number field _] => some (.number field padding)
  | _ => none

/-- The items of a pattern. What follows a bad directive is not looked at. -/
def items : List Char → List Item
  | [] => []
  | '%' :: '-' :: c :: rest =>
    match padded? .none c with
    | some item => item :: items rest
    | none => [.invalid]
  | '%' :: '_' :: c :: rest =>
    match padded? .blank c with
    | some item => item :: items rest
    | none => [.invalid]
  | '%' :: '0' :: c :: rest =>
    match padded? .zero c with
    | some item => item :: items rest
    | none => [.invalid]
  | '%' :: '#' :: 'z' :: rest => .lenientZone :: items rest
  | '%' :: ':' :: 'z' :: rest => .zone .colon :: items rest
  | '%' :: ':' :: ':' :: 'z' :: rest => .zone .seconds :: items rest
  | '%' :: ':' :: ':' :: ':' :: 'z' :: rest => .zone .hours :: items rest
  | '%' :: '.' :: 'f' :: rest => .fraction :: items rest
  | '%' :: '.' :: '3' :: 'f' :: rest => .pointed 3 :: items rest
  | '%' :: '.' :: '6' :: 'f' :: rest => .pointed 6 :: items rest
  | '%' :: '.' :: '9' :: 'f' :: rest => .pointed 9 :: items rest
  | '%' :: '3' :: 'f' :: rest => .digits 3 :: items rest
  | '%' :: '6' :: 'f' :: rest => .digits 6 :: items rest
  | '%' :: '9' :: 'f' :: rest => .digits 9 :: items rest
  | '%' :: c :: rest =>
    match directive? c with
    | some found => found ++ items rest
    | none => [.invalid]
  | ['%'] => [.invalid]
  | c :: rest => (if Text.isBlank c then .blank c else .literal c) :: items rest

/-! ### Names -/

def months : List String :=
  ["January", "February", "March", "April", "May", "June", "July", "August", "September",
   "October", "November", "December"]

/-- From Monday. -/
def weekdays : List String :=
  ["Monday", "Tuesday", "Wednesday", "Thursday", "Friday", "Saturday", "Sunday"]

def nameChars (names : List String) (long : Bool) (index : Nat) : List Char :=
  let name := (names.getD index "").toList
  if long then name else name.take 3

/-! ### Writing -/

def padChars (padding : Padding) (width : Nat) (digits : List Char) : List Char :=
  match padding with
  | .none => digits
  | .zero => List.replicate (width - digits.length) '0' ++ digits
  | .blank => List.replicate (width - digits.length) ' ' ++ digits

/-- An integer in a field of `width`, its sign counted in and always shown if `signed`. -/
def padInteger (padding : Padding) (width : Nat) (signed : Bool) (n : Int) : List Char :=
  let digits := (toString n.natAbs).toList
  let sign := if n < 0 then ['-'] else if signed then ['+'] else []
  match padding with
  | .blank => padChars .blank width (sign ++ digits)
  | padding => sign ++ padChars padding (width - sign.length) digits

/-- Two places for a number below 100; above, the tens run on past the digit nine. -/
def padPair (padding : Padding) (n : Nat) : List Char :=
  let ones := Rfc3339.digitChar n
  if n < 10 then
    match padding with
    | .none => [ones]
    | .zero => ['0', ones]
    | .blank => [' ', ones]
  else [Char.ofNat ('0'.toNat + n / 10), ones]

def padYear (padding : Padding) (year : Int) : List Char :=
  if 0 ≤ year ∧ year < 10000 then padInteger padding 4 false year
  else padInteger padding 5 true year

def byte (n : Int) : Nat := (n.emod 256).toNat

def writeNumber (i : Instant) (field : NumberField) (padding : Padding) : List Char :=
  let d := i.date
  let t := i.timeOfDay
  match field with
  | .year => padYear padding d.year
  | .century => padPair padding (byte (d.year.fdiv 100))
  | .yearOfCentury => padPair padding (d.year.fmod 100).toNat
  | .isoYear => padYear padding d.isoWeek.1
  | .isoYearOfCentury => padPair padding (d.isoWeek.1.fmod 100).toNat
  | .quarter => [Rfc3339.digitChar d.quarter]
  | .month => padPair padding d.month
  | .day => padPair padding d.day
  | .weekFromSunday => padPair padding (d.weekFrom 6)
  | .weekFromMonday => padPair padding (d.weekFrom 0)
  | .isoWeek => padPair padding d.isoWeek.2
  | .weekdayFromSunday => [Rfc3339.digitChar ((d.weekday + 1) % 7)]
  | .weekdayFromMonday => [Rfc3339.digitChar (d.weekday + 1)]
  | .ordinal => padInteger padding 3 false d.ordinal
  | .hour => padPair padding t.hour
  | .hour12 => padPair padding t.hour12
  | .minute => padPair padding t.minute
  | .second => padPair padding t.shownSecond
  | .nanosecond => padInteger padding 9 false t.shownNanos
  | .timestamp => padInteger padding 9 false i.seconds

/-- The leading `places` of nine fraction digits. -/
def leadingDigits (places nanos : Nat) : List Char :=
  (Rfc3339.fixedDigits 9 nanos).take places

/-- Universal time is always zero ahead. -/
def zoneChars : ZoneStyle → List Char
  | .compact => ['+', '0', '0', '0', '0']
  | .colon => ['+', '0', '0', ':', '0', '0']
  | .seconds => ['+', '0', '0', ':', '0', '0', ':', '0', '0']
  | .hours => ['+', '0', '0']

/-- The text of an item, none if it cannot be written. -/
def writeItem (i : Instant) : Item → Option (List Char)
  | .literal c => some [c]
  | .blank c => some [c]
  | .number field padding => some (writeNumber i field padding)
  | .monthName long => some (nameChars months long (i.date.month - 1))
  | .weekdayName long => some (nameChars weekdays long i.date.weekday)
  | .halfDay upper =>
    let letter := if i.timeOfDay.afternoon then 'P' else 'A'
    some (if upper then [letter, 'M'] else [letter.toLower, 'm'])
  | .fraction => some (Rfc3339.shortFraction i.timeOfDay.shownNanos)
  | .pointed places => some ('.' :: leadingDigits places i.timeOfDay.shownNanos)
  | .digits places => some (leadingDigits places i.timeOfDay.shownNanos)
  | .zoneName => some ['U', 'T', 'C']
  | .zone style => some (zoneChars style)
  | .timestamp => some (Rfc3339.chars i (zoneChars .colon))
  | .lenientZone => none
  | .invalid => none

/-- The text of an instant in universal time, none if the pattern holds a bad directive. -/
def write? (pattern : String) (i : Instant) : Option String :=
  ((items pattern.toList).mapM (writeItem i)).map fun parts => String.ofList parts.flatten

/-! ### Fields that were read -/

structure Fields where
  year : Option Int := none
  century : Option Nat := none
  yearOfCentury : Option Nat := none
  isoYear : Option Int := none
  isoYearOfCentury : Option Nat := none
  quarter : Option Nat := none
  month : Option Nat := none
  day : Option Nat := none
  weekFromSunday : Option Nat := none
  weekFromMonday : Option Nat := none
  isoWeek : Option Nat := none
  /-- from Monday, 0 to 6 -/
  weekday : Option Nat := none
  ordinal : Option Nat := none
  afternoon : Option Bool := none
  /-- 0 to 11 -/
  hourOfHalf : Option Nat := none
  minute : Option Nat := none
  second : Option Nat := none
  nanos : Option Nat := none
  timestamp : Option Int := none
  offset : Option Int := none

/-- A field may be named twice if it reads the same. -/
def agree [BEq α] (old : Option α) (new : α) : Option (Option α) :=
  match old with
  | none => some (some new)
  | some value => if value == new then some old else none

def within (least most n : Nat) : Option Nat := if least ≤ n ∧ n ≤ most then some n else none

namespace Fields

def setYear (f : Fields) (n : Int) : Option Fields := do
  if -0x80000000 ≤ n ∧ n < 0x80000000 then some { f with year := ← agree f.year n } else none

def setIsoYear (f : Fields) (n : Int) : Option Fields := do
  if -0x80000000 ≤ n ∧ n < 0x80000000 then some { f with isoYear := ← agree f.isoYear n } else none

def setHour (f : Fields) (n : Nat) : Option Fields := do
  let n ← within 0 23 n
  some { f with
    afternoon := ← agree f.afternoon (12 ≤ n)
    hourOfHalf := ← agree f.hourOfHalf (n % 12) }

def setMinute (f : Fields) (n : Nat) : Option Fields := do
  some { f with minute := ← agree f.minute (← within 0 59 n) }

def setSecond (f : Fields) (n : Nat) : Option Fields := do
  some { f with second := ← agree f.second (← within 0 60 n) }

def setNanos (f : Fields) (n : Nat) : Option Fields := do
  some { f with nanos := ← agree f.nanos n }

def setMonth (f : Fields) (n : Nat) : Option Fields := do
  some { f with month := ← agree f.month (← within 1 12 n) }

def setDay (f : Fields) (n : Nat) : Option Fields := do
  some { f with day := ← agree f.day (← within 1 31 n) }

def setWeekday (f : Fields) (n : Nat) : Option Fields := do
  some { f with weekday := ← agree f.weekday n }

def setOrdinal (f : Fields) (n : Nat) : Option Fields := do
  some { f with ordinal := ← agree f.ordinal (← within 1 366 n) }

def setOffset (f : Fields) (n : Int) : Option Fields := do
  some { f with offset := ← agree f.offset n }

/-- Takes over an unsigned number. -/
def setNumber (f : Fields) (field : NumberField) (n : Nat) : Option Fields := do
  match field with
  | .year => f.setYear n
  | .century => some { f with century := ← agree f.century n }
  | .yearOfCentury => some { f with yearOfCentury := ← agree f.yearOfCentury (← within 0 99 n) }
  | .isoYear => f.setIsoYear n
  | .isoYearOfCentury =>
    some { f with isoYearOfCentury := ← agree f.isoYearOfCentury (← within 0 99 n) }
  | .quarter => some { f with quarter := ← agree f.quarter (← within 1 4 n) }
  | .month => f.setMonth n
  | .day => f.setDay n
  | .weekFromSunday => some { f with weekFromSunday := ← agree f.weekFromSunday (← within 0 53 n) }
  | .weekFromMonday => some { f with weekFromMonday := ← agree f.weekFromMonday (← within 0 53 n) }
  | .isoWeek => some { f with isoWeek := ← agree f.isoWeek (← within 1 53 n) }
  | .weekdayFromSunday => f.setWeekday (((← within 0 6 n) + 6) % 7)
  | .weekdayFromMonday => f.setWeekday ((← within 1 7 n) - 1)
  | .ordinal => f.setOrdinal n
  | .hour => f.setHour n
  | .hour12 => some { f with hourOfHalf := ← agree f.hourOfHalf ((← within 1 12 n) % 12) }
  | .minute => f.setMinute n
  | .second => f.setSecond n
  | .nanosecond => f.setNanos n
  | .timestamp => some { f with timestamp := ← agree f.timestamp (n : Int) }

end Fields

/-! ### Reading -/

open Scan

/-- The most digits a field takes; none for no limit. -/
def fieldWidth : NumberField → Option Nat
  | .year | .isoYear => some 4
  | .quarter | .weekdayFromSunday | .weekdayFromMonday => some 1
  | .ordinal => some 3
  | .nanosecond => some 9
  | .timestamp => none
  | _ => some 2

def readNumber (f : Fields) (field : NumberField) (text : List Char) : Option (Fields × List Char) := do
  if field = .year ∨ field = .isoYear then
    let (n, rest) ← Rfc3339.signedYear text
    let f ← if field = .year then f.setYear n else f.setIsoYear n
    some (f, rest)
  else
    let text := skipBlanks text
    let (n, rest) ← match fieldWidth field with
      | some width => number 1 width text
      | none => digits text
    some (← f.setNumber field n, rest)

def startsWith (text name : List Char) : Bool :=
  (text.take name.length).map Char.toLower == name.map Char.toLower

/-- The index of a name by its first three letters; with `long` the rest of it may follow. -/
def readName (names : List String) (long : Bool) (text : List Char) : Option (Nat × List Char) := do
  let index ← names.findIdx? fun name => startsWith text (name.toList.take 3)
  let name := (names.getD index "").toList
  if long ∧ startsWith text name then some (index, text.drop name.length)
  else some (index, text.drop 3)

def readHalfDay (text : List Char) : Option (Bool × List Char) :=
  match text with
  | a :: m :: rest =>
    if m.toLower ≠ 'm' then none
    else if a.toLower = 'a' then some (false, rest)
    else if a.toLower = 'p' then some (true, rest)
    else none
  | _ => none

def readZone (f : Fields) (lenient : Bool) (text : List Char) : Option (Fields × List Char) := do
  let (offset, rest) ← Scan.offset .free lenient lenient (skipBlanks text)
  some (← f.setOffset offset, rest)

def readTimestamp (f : Fields) (text : List Char) : Option (Fields × List Char) := do
  let (stamp, rest) ← Rfc3339.lenientFields text
  let f ← f.setYear stamp.year
  let f ← f.setMonth stamp.month
  let f ← f.setDay stamp.day
  let f ← f.setHour stamp.hour
  let f ← f.setMinute stamp.minute
  let f ← f.setSecond stamp.second
  let f ← match stamp.nanos with
    | some n => f.setNanos n
    | none => some f
  some (← f.setOffset stamp.offset, rest)

def readItem (f : Fields) (text : List Char) : Item → Option (Fields × List Char)
  | .literal c => (char c text).map fun (_, rest) => (f, rest)
  | .blank _ => some (f, skipBlanks text)
  | .number field _ => readNumber f field text
  | .monthName long => do
    let (index, rest) ← readName months long text
    some (← f.setMonth (index + 1), rest)
  | .weekdayName long => do
    let (index, rest) ← readName weekdays long text
    some (← f.setWeekday index, rest)
  | .halfDay _ => do
    let (afternoon, rest) ← readHalfDay text
    some ({ f with afternoon := ← agree f.afternoon afternoon }, rest)
  | .fraction => do
    match ← optionalFraction text with
    | (some n, rest) => some (← f.setNanos n, rest)
    | (none, rest) => some (f, rest)
  | .pointed places =>
    match text with
    | '.' :: rest => do
      let (n, rest) ← fixedFraction places rest
      some (← f.setNanos n, rest)
    | _ => some (f, text)
  | .digits places => do
    let (n, rest) ← fixedFraction places text
    some (← f.setNanos n, rest)
  | .zoneName => some (f, text.dropWhile fun c => !Text.isBlank c)
  | .zone _ => readZone f false text
  | .lenientZone => readZone f true text
  | .timestamp => readTimestamp f text
  | .invalid => none

/-- The fields of a text; the pattern has to account for all of it. -/
def readFields? (pattern text : String) : Option Fields := do
  let (f, rest) ← (items pattern.toList).foldlM (fun (f, rest) item => readItem f rest item)
    (({} : Fields), text.toList)
  if rest.isEmpty then some f else none

/-! ### From fields to a date and a time -/

/-- Why fields do not settle a value. -/
inductive Unsettled where
  /-- too few fields -/
  | incomplete
  /-- no such date, or fields that contradict one another -/
  | impossible

/-- A year from itself, its century, or its place in a century. -/
def settleYear (year : Option Int) (century place : Option Nat) : Except Unsettled (Option Int) :=
  match year, century, place with
  | year, none, none => .ok year
  | some y, century, place =>
    if y < 0 then .error .impossible
    else if century.all (fun (c : Nat) => y / 100 = c) && place.all (fun (p : Nat) => y % 100 = p) then .ok (some y)
    else .error .impossible
  | none, some c, some p => .ok (some (c * 100 + p))
  | none, none, some p => .ok (some (if p < 70 then 2000 + p else 1900 + p))
  | none, some _, none => .error .incomplete

namespace Fields

def admits [BEq α] (field : Option α) (value : α) : Bool := field.all (· == value)

/-- The parts of a year that a date shows; negative years have none. -/
def yearMatches (year : Option Int) (century place : Option Nat) (value : Int) : Bool :=
  admits year value &&
    (if 0 ≤ value then admits century (value / 100).toNat && admits place (value % 100).toNat
     else century.isNone && place.isNone)

def calendarMatches (f : Fields) (d : Date) : Bool :=
  yearMatches f.year f.century f.yearOfCentury d.year && admits f.month d.month && admits f.day d.day

def isoMatches (f : Fields) (d : Date) : Bool :=
  yearMatches f.isoYear none f.isoYearOfCentury d.isoWeek.1 && admits f.isoWeek d.isoWeek.2 &&
    admits f.weekday d.weekday

def ordinalMatches (f : Fields) (d : Date) : Bool :=
  admits f.ordinal d.ordinal && admits f.weekFromSunday (d.weekFrom 6) &&
    admits f.weekFromMonday (d.weekFrom 0)

def weekDate (year : Int) (week weekday start : Nat) : Except Unsettled Date :=
  if 53 < week then .error .impossible
  else
    let opening := Date.newYear year
    if !opening.inRange then .error .impossible
    else
      let ordinal : Int := 1 + Date.daysSince start opening.weekday + ((week : Int) - 1) * 7 +
        Date.daysSince weekday start
      match Date.ofOrdinal? year ordinal.toNat with
      | some d => .ok d
      | none => .error .impossible

def found (d : Option Date) : Except Unsettled Date :=
  match d with
  | some d => .ok d
  | none => .error .impossible

/-- The date that the fields settle: by month and day, by day of the year, or by a week. -/
def date (f : Fields) : Except Unsettled Date := do
  let year ← settleYear f.year f.century f.yearOfCentury
  let isoYear ← settleYear f.isoYear none f.isoYearOfCentury
  let candidate : Except Unsettled (Date × Bool) :=
    match year, f.month, f.day with
    | some y, some m, some d => do
      let d ← found (Date.of? y m d)
      .ok (d, f.isoMatches d && f.ordinalMatches d)
    | _, _, _ =>
    match year, f.ordinal with
    | some y, some n => do
      let d ← found (Date.ofOrdinal? y n)
      .ok (d, f.calendarMatches d && f.isoMatches d && f.ordinalMatches d)
    | _, _ =>
    match year, f.weekFromSunday, f.weekday with
    | some y, some w, some day => do
      let d ← weekDate y w day 6
      .ok (d, f.calendarMatches d && f.isoMatches d && f.ordinalMatches d)
    | _, _, _ =>
    match year, f.weekFromMonday, f.weekday with
    | some y, some w, some day => do
      let d ← weekDate y w day 0
      .ok (d, f.calendarMatches d && f.isoMatches d && f.ordinalMatches d)
    | _, _, _ =>
    match isoYear, f.isoWeek, f.weekday with
    | some y, some w, some day => do
      let d ← found (Date.ofIsoWeek? y w day)
      .ok (d, f.calendarMatches d && f.ordinalMatches d)
    | _, _, _ => .error .incomplete
  let (d, consistent) ← candidate
  if consistent && admits f.quarter d.quarter then .ok d else .error .impossible

/-- The time of day that the fields settle; the second may be missing, but not below a fraction. -/
def time (f : Fields) : Except Unsettled TimeOfDay :=
  match f.afternoon, f.hourOfHalf, f.minute with
  | some afternoon, some hour, some minute =>
    match f.second, f.nanos with
    | none, some _ => .error .incomplete
    | second, nanos =>
      match TimeOfDay.of? (hour + if afternoon then 12 else 0) minute (second.getD 0) (nanos.getD 0) with
      | some t => .ok t
      | none => .error .impossible
  | _, _, _ => .error .incomplete

/-- Fills the fields from the timestamp, where they do not contradict it. -/
def stamped (f : Fields) (seconds : Int) : Option (Date × TimeOfDay) := do
  let i : Instant := ⟨seconds, 0⟩
  if !i.date.inRange then none
  let shown := i.timeOfDay.second
  let (i, f) ←
    if f.second = some 60 then
      if shown = 59 then some (i, f)
      else if shown = 0 then some ((⟨seconds - 1, 0⟩ : Instant), f)
      else none
    else (f.setSecond shown).map fun f => (i, f)
  let f ← f.setYear i.date.year
  let f ← f.setOrdinal i.date.ordinal
  let f ← f.setHour i.timeOfDay.hour
  let f ← f.setMinute i.timeOfDay.minute
  some (← f.date.toOption, ← f.time.toOption)

/-- The date and time in universal time. A timestamp must agree with both, or complete them. -/
def dateTime? (f : Fields) : Option (Date × TimeOfDay) :=
  match f.date, f.time, f.timestamp with
  | .ok d, .ok t, none => some (d, t)
  | .ok d, .ok t, some given =>
    let seconds := (Instant.ofDate d t).seconds
    if given = seconds ∨ (nanosPerSecond ≤ t.nanos ∧ given = seconds + 1) then some (d, t) else none
  | .error .impossible, _, _ => none
  | _, .error .impossible, _ => none
  | _, _, some given => f.stamped given
  | _, _, none => none

end Fields

/-- The instant of a text, taken as universal time; a date alone is its midnight. -/
def read? (pattern text : String) : Option Instant := do
  let f ← readFields? pattern text
  match f.dateTime? with
  | some (d, t) => some (Instant.ofDate d t)
  | none => some (Instant.ofDate (← f.date.toOption) .midnight)

end Pattern

end GeoSearch.Time
