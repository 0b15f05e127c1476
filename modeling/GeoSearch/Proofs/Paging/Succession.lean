import GeoSearch.Proofs.Paging.Operations
import GeoSearch.Proofs.Scroll.Batches
/-!
The pages of one session in succession, over an index that serves a list of hits. The page that is
out holds the place of its session; when it is closed, the place goes to what is left of the hits, or
is free again when nothing is left.
-/
namespace GeoSearch

theorem Cursor.exchange_release (b : Backend σ) (c : Cursor) (k : Connection σ) :
    k.Exchange b (c.release b k).2 (c.owed.map .release) := by
  unfold release owed
  split
  · exact .refl b k
  · exact Connection.exchange_release b k c.ids

namespace Paging

structure Turn (b : Backend σ) (p after : State σ) (session : String) (slot : Option Slot)
    (made : List Call) : Prop where
  own : after.slot? session = slot
  exchange : p.connection.Exchange b after.connection made
  ttl : after.store.ttlMillis = p.store.ttlMillis

namespace Turn

variable {b : Backend σ} {p q after : State σ} {session : String} {slot other : Option Slot}
  {made more : List Call} {l : Connection σ}

theorem trans (first : Turn b p q session other made) (second : Turn b q after session slot more) :
    Turn b p after session slot (made ++ more) :=
  ⟨second.own, first.exchange.trans second.exchange, second.ttl.trans first.ttl⟩

/-- Calls that have nothing to do with the store. -/
theorem connect (p : State σ) (session : String) (exchange : p.connection.Exchange b l made) :
    Turn b p { p with connection := l } session (p.slot? session) made := ⟨rfl, exchange, rfl⟩

theorem release (turn : Turn b p after session slot made) (c : Cursor) :
    Turn b p (after.releaseCursor b c) session slot (made ++ c.owed.map .release) where
  own := turn.own
  exchange := turn.exchange.trans (c.exchange_release b after.connection)
  ttl := turn.ttl

theorem report (turn : Turn b p after session slot made) (e : Log.Event) :
    Turn b p (after.report e) session slot made := ⟨turn.own, turn.exchange.report e, turn.ttl⟩

theorem cancel (turn : Turn b p after session slot made) (timer : Nat) :
    Turn b p (after.cancel timer) session slot made := ⟨turn.own, turn.exchange, turn.ttl⟩

theorem erase (b : Backend σ) (p : State σ) (session : String) :
    Turn b p (p.setSlots (p.store.slots.erase session)) session none [] :=
  ⟨Slots.get?_erase_self .., .refl b p.connection, rfl⟩

theorem put (b : Backend σ) (p : State σ) (session : String) (slot : Slot) :
    Turn b p (p.setSlots (p.store.slots.put session slot)) session (some slot) [] :=
  ⟨Slots.get?_put_self .., .refl b p.connection, rfl⟩

end Turn

def Slot.releases (slot : Option Slot) : List Call :=
  (Slot.kept slot).flatMap fun cursor => cursor.2.owed.map .release

namespace State

variable {b : Backend σ} {p : State σ} {r : PageRequest} {page : Page}

theorem turn_clear (b : Backend σ) (p : State σ) (session : String) :
    Turn b p (p.clear b session) session none (Slot.releases (p.slot? session)) := by
  have erased := Turn.erase b p session
  unfold clear
  dsimp only
  split
  · next binding found =>
    have released := (erased.cancel binding.timer).release binding.cursor
    simpa [Slot.releases, Slot.kept, found] using released
  · next unkept =>
    rw [Slot.releases, kept_eq_nil unkept]
    exact erased

/-- A fresh request is for the first page. What the session kept is given up for it. -/
theorem turn_fresh (fresh : Slot.verdict r (p.slot? r.session) = .fresh) :
    ∃ after, p.begin b r = (.ok .fresh, after) ∧
      Turn b p after r.session none (Slot.releases (p.slot? r.session)) :=
  ⟨_, by simp only [begin, consider, fresh], turn_clear b p r.session⟩

theorem turn_start (b : Backend σ) (cursor : Cursor) (empty : p.slot? r.session = none) :
    ∃ after, p.start b r cursor = (r.firstPage p.store.issued cursor, after) ∧
      Turn b p after r.session (some (r.firstPage p.store.issued cursor).slot) [] := by
  refine ⟨_, by simp only [start, empty]; rfl, ?_⟩
  exact ⟨Slots.get?_put_self .., .refl b p.connection, rfl⟩

/-- A kept cursor is handed out to the request for the page that is next, if its timer can still be
cancelled. -/
theorem turn_resume {binding : Binding} (b : Backend σ)
    (kept : p.slot? r.session = some (.live binding)) (key : binding.key = r.key)
    (next : binding.next = r.start) (size : binding.size = r.size)
    (timely : (p.timers.cancel binding.timer).1 = true) :
    ∃ after, p.begin b r = (.ok (.resume (binding.page r.session)), after) ∧
      Turn b p after r.session (some (binding.page r.session).slot) [] := by
  have verdict : Slot.verdict r (p.slot? r.session) = .resume binding := by
    simp [kept, Slot.verdict, Binding.verdict, key, next, size]
  rcases cancelled : p.timers.cancel binding.timer with ⟨_ | _, timers⟩
  · simp [cancelled] at timely
  · refine ⟨_, by simp only [begin, consider, verdict, cancelled, handOut]; rfl, ?_⟩
    have put := Turn.put b { p with timers } r.session (binding.page r.session).slot
    exact ⟨put.own, put.exchange.report _, rfl⟩

theorem isBusyWith_of_slot (holds : p.slot? page.session = some page.slot) :
    p.isBusyWith page.session page.pager = true := by
  simp [isBusyWith, holds, Page.slot]

/-- Closing the last page leaves nothing to the session. -/
theorem turn_finish (b : Backend σ) (holds : p.slot? page.session = some page.slot)
    (final : page.cursor.isFinal = true) :
    ∃ after, p.closePage b page = (.ok (), after) ∧
      Turn b p after page.session none (page.cursor.owed.map .release) := by
  refine ⟨_, by rw [closePage, if_pos final], ?_⟩
  have vacated : p.vacate page = p.setSlots (p.store.slots.erase page.session) :=
    if_pos (isBusyWith_of_slot holds)
  rw [vacated]
  exact ((Turn.erase b p page.session).release page.cursor).report _

def left (p : State σ) (page : Page) (cursor : Cursor) : Binding where
  pager := page.pager
  key := page.key
  next := page.next
  size := page.size
  cursor := cursor
  timer := (p.timers.schedule p.store.ttlMillis (.idle page.session page.pager)).1

/-- Closing any other page leaves the advanced cursor to the session, for as long as the timer says. -/
theorem turn_leave {fetched : Bool} {cursor : Cursor} {l : Connection σ} {made : List Call}
    (holds : p.slot? page.session = some page.slot) (active : page.cursor.isFinal = false)
    (advanced : page.cursor.advance b p.connection = (.ok fetched, cursor, l))
    (exchange : p.connection.Exchange b l made) :
    ∃ after, p.closePage b page = (.ok (), after) ∧
      Turn b p after page.session (some (.live (p.left page cursor))) made ∧
      after.connection.state = l.state ∧
      after.timers = (p.timers.schedule p.store.ttlMillis (.idle page.session page.pager)).2 := by
  have busy : ({ p with connection := l } : State σ).isBusyWith page.session page.pager = true :=
    isBusyWith_of_slot holds
  refine ⟨_, by rw [closePage, if_neg (by simp [active]), advanced], ?_⟩
  rw [keep, if_pos busy]
  exact ⟨⟨Slots.get?_put_self .., exchange.report _, rfl⟩, rfl, rfl⟩

end State

/-- A page is the one of a request, and gives the first of these hits. What follows them is ahead of
its cursor. -/
structure Page.Gives {b : Backend σ} (scrolling : Scrolling b) (state : σ) (r : PageRequest)
    (keepMillis : Nat) (given : List String) (hits : List Hit) (page : Page) : Prop where
  session : page.session = r.session
  key : page.key = r.key
  start : page.start = r.start
  size : page.size = r.size
  fetch : page.cursor.Fetches scrolling state r.size keepMillis given (hits.drop r.size)

namespace Page.Gives

variable {b : Backend σ} {scrolling : Scrolling b} {p : State σ} {r : PageRequest}
  {keepMillis : Nat} {given : List String} {hits : List Hit} {page : Page}

theorem read {state : σ} (gives : page.Gives scrolling state r keepMillis given hits)
    (batch : List Hit) :
    ({ page with cursor := { page.cursor with batch } } : Page).Gives scrolling state r keepMillis
      given hits :=
  { gives with fetch := gives.fetch.read batch }

/-- A page after which nothing is left gives all identifiers back at once. -/
theorem finish (gives : page.Gives scrolling p.connection.state r keepMillis given hits)
    (holds : p.slot? page.session = some page.slot) (last : hits.drop r.size = []) :
    ∃ after, p.closePage b page = (.ok (), after) ∧
      Turn b p after r.session none [.release page.cursor.ids] ∧ page.cursor.Knows given := by
  have final : page.cursor.isFinal = true := gives.fetch.ahead.isFinal_iff.mpr last
  obtain ⟨after, closed, turn⟩ := State.turn_finish b holds final
  have owed : page.cursor.owed = [page.cursor.ids] := by
    simp [Cursor.owed, gives.fetch.ahead.unreleased, gives.fetch.known]
  rw [owed, gives.session] at turn
  exact ⟨after, closed, turn, gives.fetch.knows⟩

/-- A page after which something is left leaves it to the page that is next. -/
theorem leave (gives : page.Gives scrolling p.connection.state r keepMillis given hits)
    (holds : p.slot? page.session = some page.slot) (positive : 0 < r.size)
    (more : hits.drop r.size ≠ []) (fits : r.start + r.size < UInt64.size) :
    ∃ after binding scrollId, p.closePage b page = (.ok (), after) ∧
      Turn b p after r.session (some (.live binding)) [.resume scrollId keepMillis] ∧
      (binding.page r.session).cursor.batch = (hits.drop r.size).take r.size ∧
      (binding.page r.session).Gives scrolling after.connection.state
        { r with start := r.start + r.size } keepMillis
        (given ++ b.givenIds [.resume scrollId keepMillis] p.connection.state) (hits.drop r.size) ∧
      ∀ pause, Timers.Spares p.store.ttlMillis pause →
        ((pause after.timers).cancel binding.timer).1 = true := by
  have active : page.cursor.isFinal = false := by
    rw [Bool.eq_false_iff]
    exact fun final => more (gives.fetch.ahead.isFinal_iff.mp final)
  obtain ⟨cursor, l, scrollId, advanced, batch, exchange, fetch⟩ :=
    gives.fetch.advance positive more
  obtain ⟨after, closed, turn, state, timers⟩ := State.turn_leave holds active advanced exchange
  rw [gives.session] at turn
  refine ⟨after, _, scrollId, closed, turn, batch, ?_, ?_⟩
  · rw [state]
    have next : page.next = r.start + r.size := by
      rw [← gives.start, ← gives.size] at fits ⊢
      exact Page.next_of_lt fits
    exact ⟨rfl, gives.key, next, gives.size, fetch⟩
  · intro pause spares
    rw [timers]
    exact spares p.timers _

end Page.Gives

end Paging

end GeoSearch
