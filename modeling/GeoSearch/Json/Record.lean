import GeoSearch.Json.Basic
/-!
Records: documents with a fixed list of named members. A record is written as an object, whose
other members are ignored, or as an array of its members in their order. Names of a closed choice
are written as strings.
-/
namespace GeoSearch.Json

/-- The members of a record with these names. No name may occur twice, and an array may not hold
more items than there are names. -/
def record? (names : List String) : Json → Option Members
  | .object members =>
    if names.all fun name => (members.filter (·.1 == name)).length ≤ 1 then some members else none
  | .array items => if items.length ≤ names.length then some (names.zip items) else none
  | _ => none

namespace Members

def required (members : Members) (name : String) (read : Json → Option α) : Option α :=
  (members.get? name).bind read

/-- A member that may be left out; null is not the same as leaving it out. -/
def defaulted (members : Members) (name : String) (default : α) (read : Json → Option α) :
    Option α :=
  match members.get? name with
  | some value => read value
  | none => some default

end Members

/-- Null stands for no value. -/
def nullable (read : Json → Option α) : Json → Option (Option α)
  | .null => some none
  | value => (read value).map some

def asBool? : Json → Option Bool
  | .bool b => some b
  | _ => none

def items? (read : Json → Option α) : Json → Option (List α)
  | .array items => items.mapM read
  | _ => none

def asStrings? : Json → Option (List String) := items? asString?

/-- A string of exactly one character. -/
def asChar? : Json → Option Char
  | .string s =>
    match s.toList with
    | [c] => some c
    | _ => none
  | _ => none

/-- A name out of a closed choice: a string, or an object with null under the name alone. -/
def asName? : Json → Option String
  | .string s => some s
  | .object [(s, .null)] => some s
  | _ => none

def choice? (name : α → String) (choices : List α) (text : String) : Option α :=
  choices.find? fun c => name c == text

end GeoSearch.Json
