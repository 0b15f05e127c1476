import GeoSearch.Replay.Recording
import GeoSearch.Source.Read
/-!
What a client has in its hands between two steps: a source with its store of pagers, timers, and
named objects. Time passes only when it is told to.
-/
namespace GeoSearch.Replay

open FeatureSource (Desk)

inductive Object where
  | reader (reader : FeatureReader)
  | cursor (cursor : Cursor)
  | stream (stream : HitStream)
  | page (page : Paging.Page)
  /-- a timer, by its number -/
  | timer (id : Nat)

/-- The object is a page, and so holds on to the store. -/
def Object.isPaged : Object → Bool
  | reader r => r.isPaged
  | page _ => true
  | _ => false

structure World where
  /-- the source, until it is given up together with its store -/
  source : Option FeatureSource
  desk : Desk Recording
  /-- for cursors that are opened without a source -/
  keepMillis : Nat := 60000
  objects : List (String × Object) := []
  /-- names of timers that fell due and were not asked about yet -/
  heard : List String := []

namespace World

def connection (w : World) : Connection Recording := w.desk.connection

def setConnection (w : World) (connection : Connection Recording) : World :=
  { w with desk := { w.desk with connection } }

def setState (w : World) (p : Paging.State Recording) : World := { w with desk := .ofState p }

/-- The store and all it works with, as long as somebody holds it. -/
def state? (w : World) : Option (Paging.State Recording) := w.desk.state?

/-- The store, as long as the client itself holds it. -/
def ownState? (w : World) : Option (Paging.State Recording) :=
  if w.source.isSome then w.state? else none

def changeState (w : World) (f : Paging.State Recording → Paging.State Recording) : World :=
  match w.state? with
  | some p => w.setState (f p)
  | none => w

def setTimers (w : World) (timers : Timers Paging.Alarm) : World :=
  { w with desk := { w.desk with timers } }

/-! ### Giving things up -/

/-- The store is given up once nobody holds it: neither the client nor a page that is out. -/
def sweep (w : World) : World :=
  if w.source.isNone && !w.objects.any (fun entry => entry.2.isPaged) then
    match w.state? with
    | some p =>
      let p := p.releaseAll recorded
      { w with desk := { connection := p.connection, timers := p.timers, store := none } }
    | none => w
  else w

def releaseCursor (w : World) (c : Cursor) : World :=
  w.setConnection (c.release recorded w.connection).2

/-- Gives an object up that is no longer among the named ones. -/
def discard (w : World) : Object → World
  | .reader r =>
    match r.access with
    | .stream s => w.releaseCursor s.cursor
    | .page p => w.changeState fun state => state.dropPage recorded p
    | _ => w
  | .cursor c => w.releaseCursor c
  | .stream s => w.releaseCursor s.cursor
  | .page p => w.changeState fun state => state.dropPage recorded p
  | .timer _ => w

/-! ### Objects -/

def object? (w : World) (id : String) : Option Object := w.objects.lookup id

def remove (w : World) (id : String) : World :=
  { w with objects := w.objects.filter fun entry => entry.1 != id }

/-- Changes an object, or names a new one. -/
def set (w : World) (id : String) (o : Object) : World :=
  { w with objects := (id, o) :: (w.remove id).objects }

/-- Names an object. What had the name before is given up. -/
def put (w : World) (id : String) (o : Object) : World :=
  match w.object? id with
  | some old => ((w.set id o).discard old).sweep
  | none => w.set id o

/-! ### Time -/

def ring (w : World) : Paging.Alarm → World
  | .idle session pager => w.changeState fun state => state.expire recorded session pager
  | .named name => { w with heard := w.heard ++ [name] }

/-- Timers that are due claim their actions, and the actions that are not held back are run. -/
def settle (w : World) : World :=
  let (alarms, timers) := w.desk.timers.claimDue.takeClaimed
  alarms.foldl ring (w.setTimers timers)

end World

end GeoSearch.Replay
