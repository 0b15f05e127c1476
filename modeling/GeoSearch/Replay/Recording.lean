import GeoSearch.Search.Connection
/-!
An index that is made up: it serves given documents whatever is searched for, or gives answers that
were recorded, in their order.
-/
namespace GeoSearch.Replay

inductive Answer where
  | failure (error : BackendError)
  | body (document : Json)

def Answer.read : Answer → Except BackendError SearchResponse
  | failure e => .error e
  | body document => SearchResponse.read document

def draw : List Answer → Except BackendError SearchResponse × List Answer
  | [] => (.error (.request "script ended"), [])
  | answer :: rest => (answer.read, rest)

/-- Where the next batch of a scroll starts, and how many hits it has. -/
structure Place where
  start : Nat
  size : Nat

structure Recording where
  documents : List Hit := []
  /-- the answer to aggregations -/
  aggregations : Option Json := none
  scrolls : List (String × Place) := []
  /-- scroll identifiers given so far -/
  given : Nat := 0
  /-- scripts; calls without one are answered from the documents -/
  searches : Option (List Answer) := none
  resumptions : Option (List Answer) := none
  releases : Option (List Answer) := none

namespace Recording

/-- Documents without content but their rank. -/
def numbered (count : Nat) : List Hit :=
  (List.range count).map fun i =>
    { id := toString i, source := .object [("rank", .ofNat i)] }

def slice (r : Recording) (p : Place) : List Hit := (r.documents.drop p.start).take p.size

/-- A batch of a scroll, under an identifier of its own. -/
def batch (r : Recording) (p : Place) : SearchResponse × Recording :=
  let id := "scroll-" ++ toString (r.given + 1)
  let next : Place := { p with start := min (p.start + p.size) r.documents.length }
  ({ total := r.documents.length, hits := r.slice p, scrollId := some id },
    { r with scrolls := (id, next) :: r.scrolls, given := r.given + 1 })

def search (_index : String) (request : SearchRequest) (r : Recording) :
    Except BackendError SearchResponse × Recording :=
  match r.searches with
  | some script =>
    let (answer, rest) := draw script
    (answer, { r with searches := some rest })
  | none =>
    let place : Place := { start := request.start.getD 0, size := request.size }
    if request.scrollMillis.isSome then
      let (answer, r) := r.batch place
      (.ok answer, r)
    else
      (.ok {
        total := r.documents.length
        hits := r.slice place
        aggregations := request.aggregations.bind fun _ => r.aggregations }, r)

def resume (scrollId : String) (_millis : Nat) (r : Recording) :
    Except BackendError SearchResponse × Recording :=
  match r.resumptions with
  | some script =>
    let (answer, rest) := draw script
    (answer, { r with resumptions := some rest })
  | none =>
    match r.scrolls.lookup scrollId with
    | none => (.error (.request ("unknown scroll " ++ scrollId)), r)
    | some place =>
      let (answer, r) := r.batch place
      (.ok answer, r)

def release (scrollIds : List String) (r : Recording) : Except BackendError Unit × Recording :=
  match r.releases with
  | some script =>
    let (answer, rest) := draw script
    (answer.map fun _ => (), { r with releases := some rest })
  | none => (.ok (), { r with scrolls := r.scrolls.filter fun entry => !scrollIds.contains entry.1 })

end Recording

def recorded : Backend Recording where
  search := Recording.search
  resume := Recording.resume
  release := Recording.release

end GeoSearch.Replay
