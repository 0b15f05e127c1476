import GeoSearch.Paging.Basic
/-!
Reading pages. A request for a page is fresh when a cursor is still to be opened for it, resumes the
session's cursor when it asks for exactly the page that is next, and is rejected otherwise. A
rejected request changes nothing but counters and log.
-/
namespace GeoSearch.Paging

/-- What a request for a page comes to, by the slot of its session alone. -/
inductive Verdict where
  | fresh
  | resume (binding : Binding)
  | reject (error : Error)

/-- A kept cursor serves the next page of its own query only. The first page of another query takes
the session over. -/
def Binding.verdict (binding : Binding) (r : PageRequest) : Verdict :=
  if binding.key ≠ r.key then
    if r.start = 0 then .fresh else .reject (.index 0 r.start)
  else if r.start ≠ binding.next then .reject (.index binding.next r.start)
  else if r.size ≠ binding.size then .reject (.size binding.size r.size)
  else .resume binding

def Slot.verdict (r : PageRequest) : Option Slot → Verdict
  | none => if r.start = 0 then .fresh else .reject (.index 0 r.start)
  | some .expired => if r.start = 0 then .fresh else .reject (.notFound r.session)
  | some (.busy _ key start) =>
    if r.start = 0 ∧ key ≠ r.key then .fresh else .reject (.inProgress start)
  | some (.live binding) => binding.verdict r

inductive Opening where
  /-- a cursor is to be opened, and the first page to be started with it -/
  | fresh
  | resume (page : Page)

namespace State

/-- Empties the slot of a session and releases the cursor that was kept in it. -/
def clear (b : Backend σ) (p : State σ) (session : String) : State σ :=
  let cleared := p.setSlots (p.store.slots.erase session)
  match p.slot? session with
  | some (.live binding) => (cleared.cancel binding.timer).releaseCursor b binding.cursor
  | _ => cleared

/-- The timer of the binding got to it first: its cursor is no longer kept. -/
def lose (b : Backend σ) (p : State σ) (session : String) (binding : Binding) : State σ :=
  ((p.setSlots (p.store.slots.put session .expired)).count fun m =>
    { m with pagerExpiries := m.pagerExpiries + 1 }).releaseCursor b binding.cursor

def handOut (p : State σ) (session : String) (binding : Binding) : Page × State σ :=
  ({ session, pager := binding.pager, key := binding.key, start := binding.next,
     size := binding.size, cursor := binding.cursor },
    p.setSlots (p.store.slots.put session (.busy binding.pager binding.key binding.next)))

/-- Answers a request, without a word about it. -/
def consider (b : Backend σ) (p : State σ) (r : PageRequest) : Except Error Opening × State σ :=
  match Slot.verdict r (p.slot? r.session) with
  | .fresh => (.ok .fresh, p.clear b r.session)
  | .reject e => (.error e, p)
  | .resume binding =>
    match p.timers.cancel binding.timer with
    | (false, _) => (.error (.notFound r.session), p.lose b r.session binding)
    | (true, timers) =>
      let (page, p) := handOut { p with timers } r.session binding
      (.ok (.resume page), p)

def begin (b : Backend σ) (p : State σ) (r : PageRequest) : Except Error Opening × State σ :=
  match p.consider b r with
  | (.ok .fresh, p) => (.ok .fresh, p)
  | (.ok (.resume page), p) =>
    (.ok (.resume page), p.report (.pagerRetrieved r.session r.start))
  | (.error e, p) =>
    (.error e,
      (p.count fun m => { m with pagerRejections := m.pagerRejections + 1 }).report
        (.pagerRejected r.session r.start e.message))

/-- Starts a pager with the first page of a cursor. What the session held before is given up. -/
def start (b : Backend σ) (p : State σ) (r : PageRequest) (cursor : Cursor) : Page × State σ :=
  let pager := p.store.issued
  let started : State σ :=
    { p with
      store := { p.store with
        slots := p.store.slots.put r.session (.busy pager r.key r.start), issued := pager + 1 } }
  ({ session := r.session, pager, key := r.key, start := r.start, size := r.size, cursor },
    match p.slot? r.session with
    | some (.live binding) => (started.cancel binding.timer).releaseCursor b binding.cursor
    | _ => started)

/-- The session's place is free again, if the page still holds it. -/
def vacate (p : State σ) (page : Page) : State σ :=
  if p.isBusyWith page.session page.pager then p.setSlots (p.store.slots.erase page.session) else p

/-- Keeps the cursor of a page for the page after it. If the page lost its place to another, the
cursor is released. -/
def keep (b : Backend σ) (p : State σ) (page : Page) (cursor : Cursor) : State σ :=
  if p.isBusyWith page.session page.pager then
    let (timer, timers) :=
      p.timers.schedule p.store.ttlMillis (.idle page.session page.pager)
    let binding : Binding :=
      { pager := page.pager, key := page.key, next := page.next, size := page.size, cursor, timer }
    (({ p with timers }).setSlots (p.store.slots.put page.session (.live binding))).report
      (.pagerCached page.session page.next)
  else p.releaseCursor b cursor

/-- Finishes a page. The cursor of the last page is released; any other moves on to the next batch
and is kept for the next page. -/
def closePage (b : Backend σ) (p : State σ) (page : Page) : Except Error Unit × State σ :=
  if page.cursor.isFinal then
    (.ok (),
      ((p.vacate page).releaseCursor b page.cursor).report (.pagerFinished page.session page.start))
  else
    match page.cursor.advance b p.connection with
    | (.ok _, cursor, connection) => (.ok (), keep b { p with connection } page cursor)
    | (.error e, cursor, connection) =>
      (.error (.backend e), ((vacate { p with connection } page).releaseCursor b cursor))

def dropPage (b : Backend σ) (p : State σ) (page : Page) : State σ :=
  (p.vacate page).releaseCursor b page.cursor

/-- Ends the keeping of a pager's cursor, if it is still kept. -/
def expire (b : Backend σ) (p : State σ) (session : String) (pager : Nat) : State σ :=
  match p.slot? session with
  | some (.live binding) =>
    if binding.pager = pager then
      (((p.setSlots (p.store.slots.put session .expired)).count fun m =>
        { m with pagerExpiries := m.pagerExpiries + 1 }).report
          (.pagerExpired session binding.next)).releaseCursor b binding.cursor
    else p
  | _ => p

/-- Gives up whatever a session holds. Whether a kept cursor was released. -/
def releaseSession (b : Backend σ) (p : State σ) (session : String) : Bool × State σ :=
  ((p.expectedIndex session).isSome, p.clear b session)

def releaseAll (b : Backend σ) (p : State σ) : State σ :=
  p.store.slots.bindings.foldl (fun p binding => p.releaseCursor b binding.cursor) (p.setSlots [])

end State

end GeoSearch.Paging
