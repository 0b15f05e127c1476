import GeoSearch.Json.Basic
/-!
What is sent to the index: searches, continuations of scrolls and their release.
-/
namespace GeoSearch

/-- A time as the index states it, in whole seconds. -/
def keepAliveText (millis : Nat) : String := toString (millis / 1000) ++ "s"

/-- The greatest number that a count can be: no limit at all. -/
def greatestCount : Nat := UInt64.size - 1

structure SearchRequest where
  query : Json
  size : Nat
  start : Option Nat := none
  /-- the time for which a scroll is kept; a search with it opens a scroll -/
  scrollMillis : Option Nat := none
  sort : List Json := []
  sourceIncludes : List String := []
  storedFields : List String := []
  aggregations : Option Json.Members := none

namespace SearchRequest

def sortKey (field order : String) : Json :=
  .object [(field, .object [("order", .string order)])]

/-- A member that is left out when its list is empty. -/
def listed (name : String) (items : List Json) : Json.Members :=
  if items.isEmpty then [] else [(name, .array items)]

/-- A member that is left out when there is no value. -/
def given (name : String) (write : α → Json) (value : Option α) : Json.Members :=
  match value with
  | some v => [(name, write v)]
  | none => []

def body (r : SearchRequest) : Json :=
  .object
    (("size", .ofNat r.size) :: given "from" .ofNat r.start ++ listed "sort" r.sort ++
      listed "_source" (r.sourceIncludes.map .string) ++
      listed "stored_fields" (r.storedFields.map .string) ++ [("query", r.query)] ++
      given "aggs" .object r.aggregations)

/-- The parameter that opens a scroll. -/
def scrollText (r : SearchRequest) : Option String := r.scrollMillis.map keepAliveText

end SearchRequest

def continuationBody (scrollId : String) (millis : Nat) : Json :=
  .object [("scroll_id", .string scrollId), ("scroll", .string (keepAliveText millis))]

/-- The body of a release; the identifiers are in order. -/
def releaseBody (scrollIds : List String) : Json := .object [("scroll_id", Json.strings scrollIds)]

end GeoSearch
