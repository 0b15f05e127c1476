import GeoSearch.Paging.Run
/-!
What the moves of a run are answered with, as far as a session sees it.
-/
namespace GeoSearch.Paging

/-- A page, as its reader sees it. -/
structure Page.Face where
  start : Nat
  size : Nat
  /-- the hits that are still to be read -/
  hits : List Hit
  isFinal : Bool

def Page.face (page : Page) : Page.Face where
  start := page.start
  size := page.size
  hits := page.cursor.batch
  isFinal := page.cursor.isFinal

inductive Answer where
  | fresh
  | page (face : Page.Face)
  | failed (error : Error)
  | hit (hit? : Option Hit)
  /-- a page was closed or given up -/
  | done
  /-- a session left; whether a kept cursor was released -/
  | left (released : Bool)
  | nothing

def Opening.answer : Except Error Opening → Answer
  | .ok .fresh => .fresh
  | .ok (.resume page) => .page page.face
  | .error e => .failed e

namespace Run

def answer (b : Backend σ) (r : Run σ) : Move → Answer
  | .request q => Opening.answer (r.state.begin b q).1
  | .start q s =>
    if q ∈ r.granted then
      match Cursor.open? b s.keepMillis s.index s.request s.maxHits r.state.connection with
      | (.error e, _) => .failed (.backend e)
      | (.ok cursor, connection) => .page (State.start b { r.state with connection } q cursor).1.face
    else .nothing
  | .read position =>
    match r.pages[position]? with
    | none => .nothing
    | some page => .hit (page.cursor.next?.map (·.1))
  | .close position =>
    match r.pages[position]? with
    | none => .nothing
    | some page =>
      match (r.state.closePage b page).1 with
      | .ok _ => .done
      | .error e => .failed e
  | .drop position =>
    match r.pages[position]? with
    | none => .nothing
    | some _ => .done
  | .leave session => .left (r.state.releaseSession b session).1
  | .elapse _ => .nothing
  | .claim _ => .nothing
  | .ring _ => .nothing
  | .stop => .nothing

def answers (b : Backend σ) (r : Run σ) : List Move → List Answer
  | [] => []
  | move :: later => r.answer b move :: answers b (r.step b move) later

end Run

end GeoSearch.Paging
