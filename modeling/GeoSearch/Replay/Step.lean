import GeoSearch.Replay.World
/-!
The steps of a client, and what each comes to.
-/
namespace GeoSearch.Replay

inductive Step where
  | prepare (query : FeatureQuery) (scroll : Bool)
  | count (query : FeatureQuery)
  | aggregate (query : FeatureQuery)
  | read (id : String) (query : FeatureQuery)
  | openCursor (id index : String) (request : SearchRequest) (maxHits : Nat)
  | adopt (id : String) (answer : Answer) (budget : Nat)
  | advance (id : String)
  | release (id : String)
  | stream (id cursor : String)
  | beginPage (id : String) (request : Paging.PageRequest)
  | startPage (id cursor : String) (request : Paging.PageRequest)
  | next (id : String) (limit : Option Nat)
  | close (id : String)
  | discard (id : String)
  | describe (id : String)
  | sessions (names : List String)
  | releaseSession (session : String)
  | dropStore
  | schedule (id : String) (millis : Nat)
  | cancel (id : String)
  | claimed (id : String)
  | shutdown
  | metrics
  | tick (millis : Nat)
  | hold
  | unhold
  | pending

inductive Result where
  /-- there is no object of the kind under the name -/
  | missing
  | sourceFailed (error : FeatureSource.Error)
  | scrollFailed (error : Paging.Error)
  | prepared (search : PreparedSearch)
  | counted (count : Nat)
  | aggregated (aggregations : Option Json)
  | described (object : Object)
  | advanced (fetched : Bool) (cursor : Cursor)
  /-- a cursor is to be opened -/
  | fresh
  | taken (taken : Taken) (after : Object)
  | closed
  | dropped
  | sessions (live : Nat) (expected : List (Option Nat))
  | released (kept : Bool)
  | scheduled
  | cancelled (inTime claimed : Bool)
  | claimed (claimed : Bool)
  | shutDown
  | metrics (metrics : Metrics)
  /-- the timers heard of since the last time, and those still to come -/
  | fired (names : List String) (pending : Nat)

namespace World

/-! ### Sources -/

def withSource (w : World)
    (f : FeatureSource → Connection Recording → Except FeatureSource.Error α × Connection Recording)
    (result : α → Result) : Result × World :=
  match w.source with
  | none => (.missing, w)
  | some s =>
    match f s w.connection with
    | (.ok a, connection) => (result a, w.setConnection connection)
    | (.error e, connection) => (.sourceFailed e, w.setConnection connection)

def read (w : World) (id : String) (q : FeatureQuery) : Result × World :=
  match w.source with
  | none => (.missing, w)
  | some s =>
    match s.read recorded q w.desk with
    | (.ok reader, desk) => (.described (.reader reader), put { w with desk } id (.reader reader))
    | (.error e, desk) => (.sourceFailed e, { w with desk })

/-! ### Cursors -/

def openCursor (w : World) (id index : String) (request : SearchRequest) (maxHits : Nat) :
    Result × World :=
  match Cursor.open? recorded w.keepMillis index request maxHits w.connection with
  | (.ok c, connection) => (.described (.cursor c), (w.setConnection connection).put id (.cursor c))
  | (.error e, connection) => (.scrollFailed (.backend e), w.setConnection connection)

/-- A cursor from an answer that came some other way. -/
def adopt (w : World) (id : String) (answer : Answer) (budget : Nat) : Result × World :=
  match answer.read with
  | .ok r =>
    let c := Cursor.ofResponse w.keepMillis r budget
    (.described (.cursor c), w.put id (.cursor c))
  | .error e => (.scrollFailed (.backend e), w)

def advance (w : World) (id : String) : Result × World :=
  match w.object? id with
  | some (.cursor c) =>
    match c.advance recorded w.connection with
    | (.ok fetched, c, connection) =>
      (.advanced fetched c, (w.setConnection connection).set id (.cursor c))
    | (.error e, c, connection) =>
      (.scrollFailed (.backend e), (w.setConnection connection).set id (.cursor c))
  | _ => (.missing, w)

def release (w : World) (id : String) : Result × World :=
  match w.object? id with
  | some (.cursor c) =>
    match c.release recorded w.connection with
    | (c, connection) => (.described (.cursor c), (w.setConnection connection).set id (.cursor c))
  | _ => (.missing, w)

def stream (w : World) (id cursor : String) : Result × World :=
  match w.object? cursor with
  | some (.cursor c) =>
    let s : Object := .stream { cursor := c }
    (.described s, (w.remove cursor).put id s)
  | _ => (.missing, w)

/-! ### Pages -/

def beginPage (w : World) (id : String) (r : Paging.PageRequest) : Result × World :=
  match w.ownState? with
  | none => (.missing, w)
  | some p =>
    match p.begin recorded r with
    | (.ok .fresh, p) => (.fresh, w.setState p)
    | (.ok (.resume page), p) => (.described (.page page), (w.setState p).put id (.page page))
    | (.error e, p) => (.scrollFailed e, w.setState p)

def startPage (w : World) (id cursor : String) (r : Paging.PageRequest) : Result × World :=
  match w.ownState?, w.object? cursor with
  | some p, some (.cursor c) =>
    match p.start recorded r c with
    | (page, p) => (.described (.page page), ((w.remove cursor).setState p).put id (.page page))
  | _, _ => (.missing, w)

def sessions (w : World) (names : List String) : Result :=
  match w.ownState? with
  | none => .missing
  | some p => .sessions p.liveCount (names.map p.expectedIndex)

def releaseSession (w : World) (session : String) : Result × World :=
  match w.ownState? with
  | none => (.missing, w)
  | some p =>
    match p.releaseSession recorded session with
    | (kept, p) => (.released kept, w.setState p)

/-! ### Objects of any kind -/

def next (w : World) (id : String) (limit : Option Nat) : Result × World :=
  match w.object? id with
  | some (.reader r) =>
    match r.takeHits recorded limit w.connection with
    | (taken, r, connection) =>
      (.taken taken (.reader r), (w.setConnection connection).set id (.reader r))
  | some (.stream s) =>
    match s.takeHits recorded limit w.connection with
    | (taken, s, connection) =>
      (.taken taken (.stream s), (w.setConnection connection).set id (.stream s))
  | some (.cursor c) =>
    match c.takeHits limit with
    | (taken, c) => (.taken taken (.cursor c), w.set id (.cursor c))
  | some (.page p) =>
    match p.cursor.takeHits limit with
    | (taken, cursor) =>
      (.taken taken (.page { p with cursor }), w.set id (.page { p with cursor }))
  | _ => (.missing, w)

/-- Finishes a page that is no longer among the named objects. -/
def closePage (w : World) (p : Paging.Page) (failed : Paging.Error → Result) : Result × World :=
  match w.state? with
  | none => (.missing, w)
  | some state =>
    match state.closePage recorded p with
    | (.ok _, state) => (.closed, w.setState state)
    | (.error e, state) => (failed e, w.setState state)

def closeObject (w : World) : Object → Result × World
  | .page p => w.closePage p .scrollFailed
  | .reader r =>
    match r.access with
    | .page p => w.closePage p fun e => .sourceFailed (.paging e)
    | _ => (.closed, w.discard (.reader r))
  | o => (.closed, w.discard o)

/-- Closes an object. It is gone, even if that fails. -/
def close (w : World) (id : String) : Result × World :=
  match w.object? id with
  | none => (.missing, w)
  | some o =>
    match (w.remove id).closeObject o with
    | (result, w) => (result, w.sweep)

def drop (w : World) (id : String) : Result × World :=
  match w.object? id with
  | none => (.missing, w)
  | some o => (.dropped, ((w.remove id).discard o).sweep)

def describe (w : World) (id : String) : Result :=
  match w.object? id with
  | none => .missing
  | some (.timer _) => .missing
  | some o => .described o

/-! ### Timers -/

def schedule (w : World) (id : String) (millis : Nat) : Result × World :=
  match w.desk.timers.schedule millis (.named id) with
  | (timer, timers) => (.scheduled, (w.setTimers timers).put id (.timer timer))

def cancel (w : World) (id : String) : Result × World :=
  match w.object? id with
  | some (.timer timer) =>
    match w.desk.timers.cancel timer with
    | (inTime, timers) => (.cancelled inTime (timers.isClaimed timer), w.setTimers timers)
  | _ => (.missing, w)

def claimed (w : World) (id : String) : Result :=
  match w.object? id with
  | some (.timer timer) => .claimed (w.desk.timers.isClaimed timer)
  | _ => .missing

def shutdown (w : World) : Result × World :=
  match w.desk.timers.stop with
  | (none, timers) => (.shutDown, w.setTimers timers)
  | (some aborted, timers) =>
    (.shutDown,
      (w.setTimers timers).setConnection (w.connection.report (.schedulerShutdown aborted)))

/-- Which timers were heard of since this was last asked. -/
def hear (w : World) : Result × World :=
  (.fired (w.heard.mergeSort fun a b => a ≤ b) w.desk.timers.pending, { w with heard := [] })

def holdBack (w : World) (held : Bool) : World := w.setTimers { w.desk.timers with held }

/-! ### Steps -/

def perform (w : World) : Step → Result × World
  | .prepare q scroll => w.withSource (fun s => s.prepare q scroll) .prepared
  | .count q => w.withSource (fun s => s.count recorded q) .counted
  | .aggregate q => w.withSource (fun s => s.aggregate recorded q) .aggregated
  | .read id q => w.read id q
  | .openCursor id index request maxHits => w.openCursor id index request maxHits
  | .adopt id answer budget => w.adopt id answer budget
  | .advance id => w.advance id
  | .release id => w.release id
  | .stream id cursor => w.stream id cursor
  | .beginPage id r => w.beginPage id r
  | .startPage id cursor r => w.startPage id cursor r
  | .next id limit => w.next id limit
  | .close id => w.close id
  | .discard id => w.drop id
  | .describe id => (w.describe id, w)
  | .sessions names => (w.sessions names, w)
  | .releaseSession session => w.releaseSession session
  | .dropStore => (.dropped, sweep { w with source := none })
  | .schedule id millis => w.schedule id millis
  | .cancel id => w.cancel id
  | .claimed id => (w.claimed id, w)
  | .shutdown => w.shutdown
  | .metrics => (.metrics w.connection.metrics, w)
  | .tick millis => (w.setTimers (w.desk.timers.elapse millis)).settle.hear
  | .hold => (w.holdBack true).hear
  | .unhold => (w.holdBack false).settle.hear
  | .pending => w.hear

/-- What a step came to, which calls it made and what it reported. -/
structure Record where
  result : Result
  calls : List Call
  events : List Log.Event

def forget (w : World) : World := w.setConnection { w.connection with calls := [], events := [] }

/-- Timers due by now come before the step. -/
def step (w : World) (s : Step) : Record × World :=
  match w.forget.settle.perform s with
  | (result, w) => ({ result, calls := w.connection.calls, events := w.connection.events }, w)

def run (w : World) : List Step → List Record × World
  | [] => ([], w)
  | s :: rest =>
    let (record, w) := w.step s
    let (records, w) := w.run rest
    (record :: records, w)

/-- Lets held actions go, then gives up all objects in the order of their names, and the source and
its store at last. -/
def finish (w : World) : World :=
  let w := (w.forget.holdBack false).settle
  let objects := w.objects.mergeSort fun a b => a.1 ≤ b.1
  let w := objects.foldl (fun w entry => ((w.remove entry.1).discard entry.2).sweep) w
  sweep { w with source := none }

end World

end GeoSearch.Replay
