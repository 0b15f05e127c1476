import GeoSearch.Scroll.Cursor
import GeoSearch.Timers
/-!
Pagers. A session reads the pages of one query in sequence from one cursor. Between two pages its
cursor is kept, for some time; while a page is out, the session's place is taken by that page.
-/
namespace GeoSearch.Paging

inductive Error where
  | backend (error : BackendError)
  /-- the page starts elsewhere than the one that is next -/
  | index (expected requested : Nat)
  /-- the page has another size than the ones before -/
  | size (expected requested : Nat)
  /-- the page before is still out -/
  | inProgress (start : Nat)
  /-- the session's cursor is no longer kept -/
  | notFound (session : String)
  deriving Repr, DecidableEq

namespace Error

def code : Error → String
  | backend e => e.code
  | index .. => "ESGEO_PAGER_INCONSISTENT"
  | size .. => "ESGEO_PAGER_INCONSISTENT"
  | inProgress _ => "ESGEO_PAGER_INCONSISTENT"
  | notFound _ => "ESGEO_CURSOR_NOT_FOUND"

def message : Error → String
  | backend e => e.message
  | index expected requested => "Pager is at " ++ toString expected ++ " not " ++ toString requested
  | size expected requested => "Page size is " ++ toString expected ++ " not " ++ toString requested
  | inProgress start => "Page at " ++ toString start ++ " is still open"
  | notFound session => "No cached pager for session '" ++ session ++ "'"

/-- Failures of the index may pass; the others will not. -/
def isFatal : Error → Bool
  | backend _ => false
  | _ => true

/-- The request is out of sequence. -/
def isInconsistent : Error → Bool
  | index .. => true
  | size .. => true
  | inProgress _ => true
  | _ => false

end Error

structure PageRequest where
  session : String
  /-- identifies the query whose pages are read -/
  key : String
  start : Nat
  size : Nat
  deriving Repr, DecidableEq

/-- A cursor that is kept for the next page of its session. -/
structure Binding where
  pager : Nat
  key : String
  /-- where the next page starts -/
  next : Nat
  size : Nat
  cursor : Cursor
  /-- the timer that ends the keeping -/
  timer : Nat

/-- A page in the hands of its reader. Its hits are those of the cursor's batch. -/
structure Page where
  session : String
  pager : Nat
  key : String
  start : Nat
  size : Nat
  cursor : Cursor

namespace Page

/-- Where the page after this one starts. Indexes have 64 bits: past the greatest they begin again at
zero. -/
def next (page : Page) : Nat := (page.start + page.size) % UInt64.size

theorem next_of_lt {page : Page} (fits : page.start + page.size < UInt64.size) :
    page.next = page.start + page.size := Nat.mod_eq_of_lt fits

end Page

inductive Slot where
  | live (binding : Binding)
  /-- a page is out -/
  | busy (pager : Nat) (key : String) (start : Nat)
  /-- the cursor was kept too long -/
  | expired

/-- Slots by session, at most one for each. -/
abbrev Slots := List (String × Slot)

namespace Slots

def get? (slots : Slots) (session : String) : Option Slot := slots.lookup session

def erase (slots : Slots) (session : String) : Slots := slots.filter fun entry => entry.1 != session

def put (slots : Slots) (session : String) (slot : Slot) : Slots :=
  (session, slot) :: slots.erase session

def bindings (slots : Slots) : List Binding :=
  slots.filterMap fun entry =>
    match entry.2 with
    | .live binding => some binding
    | _ => none

end Slots

/-- What the timers do when they fall due. -/
inductive Alarm where
  /-- the pager was idle for too long -/
  | idle (session : String) (pager : Nat)
  /-- nothing but to be heard of -/
  | named (name : String)
  deriving Repr, DecidableEq

structure Store where
  /-- how long an idle cursor is kept -/
  ttlMillis : Nat
  slots : Slots := []
  /-- pagers so far; the next one has this number -/
  issued : Nat := 0

/-- A store of pagers with the index and the timers it works with. -/
structure State (σ : Type) where
  connection : Connection σ
  timers : Timers Alarm
  store : Store

namespace State

def slot? (p : State σ) (session : String) : Option Slot := p.store.slots.get? session

def setSlots (p : State σ) (slots : Slots) : State σ := { p with store := { p.store with slots } }

def report (p : State σ) (e : Log.Event) : State σ :=
  { p with connection := p.connection.report e }

def count (p : State σ) (f : Metrics → Metrics) : State σ :=
  { p with connection := p.connection.count f }

/-- Cancels a timer, whether or not that comes in time. -/
def cancel (p : State σ) (timer : Nat) : State σ := { p with timers := (p.timers.cancel timer).2 }

/-- Releases a cursor that nobody holds any more. -/
def releaseCursor (b : Backend σ) (p : State σ) (c : Cursor) : State σ :=
  { p with connection := (c.release b p.connection).2 }

def isBusyWith (p : State σ) (session : String) (pager : Nat) : Bool :=
  match p.slot? session with
  | some (.busy holder _ _) => holder == pager
  | _ => false

/-- Where the next page of a session starts, if its cursor is kept. -/
def expectedIndex (p : State σ) (session : String) : Option Nat :=
  match p.slot? session with
  | some (.live binding) => some binding.next
  | _ => none

def liveCount (p : State σ) : Nat := p.store.slots.bindings.length

end State

end GeoSearch.Paging
