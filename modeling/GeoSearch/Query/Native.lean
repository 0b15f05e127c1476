import GeoSearch.Query.Clause
import GeoSearch.Json.Parser
import GeoSearch.Json.Record
/-!
Queries and aggregations that a caller writes in the language of the index itself. They arrive as
texts and go to the index as they are.
-/
namespace GeoSearch

/-- What stands in a message for the reason why a text is not the document it should be. -/
def Json.unreadable : String := "<reason>"

structure NativeQuery where
  query : Option String := none
  aggregations : Option String := none
  /-- the predicate beside it is left out -/
  exclusive : Bool := false
  deriving Repr, DecidableEq

namespace NativeQuery

inductive Part where
  | query
  | aggregations
  deriving Repr, DecidableEq

inductive Reason where
  | unreadable
  | notObject
  /-- an aggregation that is not an object of objects -/
  | entry (name : String)
  deriving Repr, DecidableEq

structure Error where
  part : Part
  reason : Reason
  deriving Repr, DecidableEq

namespace Error

def partText : Part → String
  | .query => "query"
  | .aggregations => "aggregations"

def reasonText : Reason → String
  | .unreadable => Json.unreadable
  | .notObject => "not a JSON object"
  | .entry name => "aggregation '" ++ name ++ "' is not an object of objects"

def code : String := "ESGEO_FILTER_CONFIG"

def message (e : Error) : String := "Invalid native " ++ partText e.part ++ ": " ++ reasonText e.reason

end Error

/-- A native query after its texts were read. -/
structure Parsed where
  /-- selects everything when no query is given -/
  query : Clause
  aggregations : Option Json.Members
  exclusive : Bool

def isObject : Json → Bool
  | .object _ => true
  | _ => false

def isObjectOfObjects : Json → Bool
  | .object members => members.all fun (_, value) => isObject value
  | _ => false

def parsePart (part : Part) (text : String) : Except Error Json.Members :=
  match Json.parse? text with
  | some (.object members) => .ok members
  | some _ => .error ⟨part, .notObject⟩
  | none => .error ⟨part, .unreadable⟩

def parseQuery : Option String → Except Error Clause
  | some text => (parsePart .query text).map fun members => .native (.object members)
  | none => .ok .matchAll

/-- Aggregations are named objects, each of objects by kind. -/
def parseAggregations : Option String → Except Error (Option Json.Members)
  | none => .ok none
  | some text => do
    let members ← parsePart .aggregations text
    match members.find? fun (_, entry) => !isObjectOfObjects entry with
    | some (name, _) => .error ⟨.aggregations, .entry name⟩
    | none => .ok (some members)

/-- The query is read before the aggregations. -/
def parse (q : NativeQuery) : Except Error Parsed := do
  let query ← parseQuery q.query
  let aggregations ← parseAggregations q.aggregations
  .ok ⟨query, aggregations, q.exclusive⟩

theorem parse_ok {q : NativeQuery} {parsed : Parsed} (read : q.parse = .ok parsed) :
    parseQuery q.query = .ok parsed.query ∧
      parseAggregations q.aggregations = .ok parsed.aggregations := by
  rw [parse] at read
  cases query : parseQuery q.query with
  | error e =>
    rw [query] at read
    cases read
  | ok clause =>
    cases aggregations : parseAggregations q.aggregations with
    | error e =>
      rw [query, aggregations] at read
      cases read
    | ok entries =>
      rw [query, aggregations] at read
      cases read
      exact ⟨rfl, rfl⟩

/-! ### As a document -/

def memberNames : List String := ["q", "a", "native_only"]

def document (q : NativeQuery) : Json :=
  .object
    [("q", Json.ofOption .string q.query), ("a", Json.ofOption .string q.aggregations),
     ("native_only", .bool q.exclusive)]

def ofDocument? (document : Json) : Option NativeQuery := do
  let members ← document.record? memberNames
  some {
    query := ← members.defaulted "q" none (Json.nullable Json.asString?)
    aggregations := ← members.defaulted "a" none (Json.nullable Json.asString?)
    exclusive := ← members.defaulted "native_only" false Json.asBool? }

end NativeQuery

end GeoSearch
