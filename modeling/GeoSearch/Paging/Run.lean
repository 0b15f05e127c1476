import GeoSearch.Paging.Pages
/-!
Runs of a pager store. Any number of sessions ask for pages, start pagers, read, close and drop
pages and give their place up, in any order, while timers fall due and ring whenever they like. A run
keeps account of every cursor that was opened: who holds it, or that nobody does any more.
-/
namespace GeoSearch.Paging

structure Search where
  keepMillis : Nat
  index : String
  request : SearchRequest
  maxHits : Nat

inductive Move where
  | request (request : PageRequest)
  /-- opens a cursor and starts a pager with it, if the same request was answered with fresh -/
  | start (request : PageRequest) (search : Search)
  /-- reads one hit of a page, by the position of the page -/
  | read (position : Nat)
  | close (position : Nat)
  | drop (position : Nat)
  /-- the session gives up what it holds -/
  | leave (session : String)
  | elapse (millis : Nat)
  /-- a timer that is due claims its action -/
  | claim (timer : Nat)
  /-- the claimed action of a timer is run -/
  | ring (timer : Nat)
  /-- the timers are stopped -/
  | stop

structure Run (σ : Type) where
  state : State σ
  /-- the requests that were answered with fresh -/
  granted : List PageRequest := []
  /-- the pages that are out -/
  pages : List Page := []
  /-- the first page of each pager, as it was handed out -/
  firsts : List Page := []
  /-- the pager of each page that was closed, and the connection it was closed on -/
  closed : List (Nat × Connection σ) := []
  /-- the cursors that nobody holds any more, each with its pager and as it was last held -/
  gone : List (Nat × Cursor) := []

/-- The cursors that are kept, each with its pager. -/
def Slots.kept (slots : Slots) : List (Nat × Cursor) :=
  slots.bindings.map fun binding => (binding.pager, binding.cursor)

/-- How a page that is out takes the place of its session. -/
def Page.slot (page : Page) : Slot := .busy page.pager page.key page.start

def Slot.isBusy : Slot → Bool
  | .busy .. => true
  | _ => false

namespace Run

def initial (ttlMillis : Nat) (timers : Timers Alarm) (index : σ) : Run σ where
  state := { connection := { state := index }, timers, store := { ttlMillis } }

def out (r : Run σ) : List (Nat × Cursor) := r.pages.map fun page => (page.pager, page.cursor)

/-- The cursors that somebody holds, each with its pager. -/
def held (r : Run σ) : List (Nat × Cursor) := r.state.store.slots.kept ++ r.out

/-- The connections on which pages of a pager were closed, in order. -/
def closes (r : Run σ) (pager : Nat) : List (Connection σ) :=
  (r.closed.filter fun close => close.1 == pager).map (·.2)

def setState (r : Run σ) (state : State σ) : Run σ := { r with state }

def request (b : Backend σ) (r : Run σ) (q : PageRequest) : Run σ :=
  match r.state.begin b q with
  | (.ok .fresh, state) => { r with state, granted := q :: r.granted }
  | (.ok (.resume page), state) => { r with state, pages := page :: r.pages }
  | (.error _, state) => r.setState state

def start (b : Backend σ) (r : Run σ) (q : PageRequest) (s : Search) : Run σ :=
  if q ∈ r.granted then
    match Cursor.open? b s.keepMillis s.index s.request s.maxHits r.state.connection with
    | (.error _, connection) => r.setState { r.state with connection }
    | (.ok cursor, connection) =>
      match State.start b { r.state with connection } q cursor with
      | (page, state) => { r with state, pages := page :: r.pages, firsts := r.firsts ++ [page] }
  else r

def setCursor (r : Run σ) (position : Nat) (page : Page) (cursor : Cursor) : Run σ :=
  { r with pages := r.pages.set position { page with cursor } }

def read (r : Run σ) (position : Nat) : Run σ :=
  match r.pages[position]? with
  | none => r
  | some page =>
    match page.cursor.next? with
    | none => r
    | some (_, cursor) => r.setCursor position page cursor

def close (b : Backend σ) (r : Run σ) (position : Nat) : Run σ :=
  match r.pages[position]? with
  | none => r
  | some page =>
    { r with
      state := (r.state.closePage b page).2
      pages := r.pages.eraseIdx position
      closed := r.closed ++ [(page.pager, r.state.connection)] }

def drop (b : Backend σ) (r : Run σ) (position : Nat) : Run σ :=
  match r.pages[position]? with
  | none => r
  | some page =>
    { r with state := r.state.dropPage b page, pages := r.pages.eraseIdx position }

def ring (b : Backend σ) (r : Run σ) (timer : Nat) : Run σ :=
  match r.state.timers.take? timer with
  | (some (.idle session pager), timers) =>
    r.setState (State.expire b { r.state with timers } session pager)
  | (_, timers) => r.setState { r.state with timers }

def act (b : Backend σ) (r : Run σ) : Move → Run σ
  | .request q => r.request b q
  | .start q s => r.start b q s
  | .read position => r.read position
  | .close position => r.close b position
  | .drop position => r.drop b position
  | .leave session => r.setState (r.state.releaseSession b session).2
  | .elapse millis => r.setState { r.state with timers := r.state.timers.elapse millis }
  | .claim timer => r.setState { r.state with timers := r.state.timers.claim timer }
  | .ring timer => r.ring b timer
  | .stop => r.setState { r.state with timers := r.state.timers.stop.2 }

/-- The cursors that somebody holds when a move decides about them. One in a page that is read or
closed has moved on by then. -/
def found (b : Backend σ) (r : Run σ) : Move → List (Nat × Cursor)
  | .read position => (r.read position).held
  | .close position =>
    match r.pages[position]? with
    | none => r.held
    | some page =>
      (r.setCursor position page (page.cursor.advance b r.state.connection).2.1).held
  | _ => r.held

def holds (r : Run σ) (pager : Nat) : Bool := r.held.any fun cursor => cursor.1 == pager

/-- The cursors among these that nobody holds. -/
def parted (r : Run σ) (found : List (Nat × Cursor)) : List (Nat × Cursor) :=
  found.filter fun cursor => !r.holds cursor.1

def step (b : Backend σ) (r : Run σ) (move : Move) : Run σ :=
  let after := r.act b move
  { after with gone := r.gone ++ after.parted (r.found b move) }

def run (b : Backend σ) (r : Run σ) (moves : List Move) : Run σ := moves.foldl (step b) r

end Run

end GeoSearch.Paging
