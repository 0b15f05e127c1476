import GeoSearch.Schema.Basic
import GeoSearch.Json.Basic
import GeoSearch.Time.Rfc3339
import GeoSearch.Time.Pattern
/-!
The order of stored values: numbers by value, timestamps as instants, other texts by character.
-/
namespace GeoSearch

/-- The order of two numbers, none where one of them is not a number. -/
def Binary64.order? (x y : Float) : Option Ordering :=
  if x < y then some .lt else if x == y then some .eq else if y < x then some .gt else none

namespace Document

/-- Texts that are both timestamps are ordered as instants. -/
def textOrder (a b : String) : Ordering :=
  match Time.Rfc3339.read? a, Time.Rfc3339.read? b with
  | some i, some j => i.compare j
  | _, _ => compare a b

/-- Values of different kinds are not ordered; neither are arrays, objects and nulls. -/
def order? : Json → Json → Option Ordering
  | .number a, .number b => Binary64.order? a.toFloat b.toFloat
  | .string a, .string b => some (textOrder a b)
  | .bool a, .bool b => some (compare a b)
  | _, _ => none

end Document

/-- A stored date: a timestamp, else a text in the attribute's pattern. -/
def Attribute.readDate? (a : Attribute) (value : Json) : Option Time.Instant := do
  let text ← value.asString?
  match Time.Rfc3339.read? text with
  | some i => some i
  | none => Time.Pattern.read? (← a.dateFormat) text

/-- A date as the attribute stores it, by default a timestamp with milliseconds. There is none when
the pattern cannot be written. -/
def Attribute.writeDate? (a : Attribute) (i : Time.Instant) : Option String :=
  match a.dateFormat with
  | some pattern => Time.Pattern.write? pattern i
  | none => some (Time.Rfc3339.writeMillis i)

end GeoSearch
