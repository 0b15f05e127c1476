import GeoSearch.Query.Native
/-!
What comes back from the index: hits, the identifier of a scroll, aggregations.
-/
namespace GeoSearch

inductive BackendError where
  /-- the request failed -/
  | request (reason : String)
  /-- the answer is not one -/
  | response (reason : String)
  deriving Repr, DecidableEq

namespace BackendError

def code : BackendError → String
  | request _ => "ESGEO_BACKEND_IO"
  | response _ => "ESGEO_BACKEND_RESPONSE"

def message : BackendError → String
  | request reason => "Backend request failed: " ++ reason
  | response reason => "Malformed backend response: " ++ reason

end BackendError

structure Hit where
  id : String
  source : Json
  fields : Option Json.Members := none
  score : Option Float := none

namespace Hit

def memberNames : List String := ["_id", "_source", "fields", "_score"]

def document (h : Hit) : Json :=
  .object
    ([("_id", .string h.id), ("_source", h.source)] ++
      (match h.fields with
        | some fields => [("fields", .object fields)]
        | none => []) ++
      match h.score with
        | some score => [("_score", .ofFloat score)]
        | none => [])

def ofDocument? (document : Json) : Option Hit := do
  let members ← document.record? memberNames
  some {
    id := ← members.required "_id" Json.asString?
    source := ← members.defaulted "_source" .null some
    fields := ← members.defaulted "fields" none (Json.nullable Json.asObject?)
    score := ← members.defaulted "_score" none (Json.nullable Json.asFloat?) }

end Hit

structure SearchResponse where
  /-- all hits of the query, also those not sent -/
  total : Nat
  hits : List Hit
  scrollId : Option String := none
  aggregations : Option Json := none

namespace SearchResponse

/-- A total is a number, or an object with the number as its value. -/
def total? (hits : Json) : Option Nat :=
  match hits.member? "total" with
  | none => some 0
  | some (.object members) => (members.lookup "value").bind Json.asUnsigned?
  | some value => value.asUnsigned?

def hits? (hits : Json) : Option (List Hit) :=
  match hits.member? "hits" with
  | none => some []
  | some list => Json.items? Hit.ofDocument? list

def read (body : Json) : Except BackendError SearchResponse :=
  match body.member? "hits" with
  | none => .error (.response "missing hits")
  | some hits =>
    match total? hits with
    | none => .error (.response "invalid hits.total")
    | some total =>
      match hits? hits with
      | none => .error (.response Json.unreadable)
      | some found =>
        .ok {
          total
          hits := found
          scrollId := (body.member? "_scroll_id").bind Json.asString?
          aggregations := body.member? "aggregations" }

end SearchResponse

end GeoSearch
