import GeoSearch.Paging.Answer
import GeoSearch.Proofs.Paging.Operations
import GeoSearch.Proofs.Search.Exchange
/-!
States that are alike but for what was reported and counted. They answer every move alike and stay
alike. A rejected request leaves a state that is alike to the one before, so that nobody will notice
it later.
-/
namespace GeoSearch

/-- The index was called alike, and is in one state. Reports and counters may differ. -/
structure Connection.Alike (k l : Connection σ) : Prop where
  state : k.state = l.state
  calls : k.calls = l.calls

namespace Connection.Alike

variable {b : Backend σ} {k l : Connection σ}

theorem refl (k : Connection σ) : k.Alike k := ⟨rfl, rfl⟩

theorem report (alike : k.Alike l) (e : Log.Event) : (k.report e).Alike (l.report e) :=
  ⟨alike.state, alike.calls⟩

theorem search (alike : k.Alike l) (b : Backend σ) (index : String) (request : SearchRequest) :
    (k.search b index request).1 = (l.search b index request).1 ∧
      (k.search b index request).2.Alike (l.search b index request).2 := by
  obtain ⟨answer, state, calls⟩ := k.search_answer b index request
  obtain ⟨answer', state', calls'⟩ := l.search_answer b index request
  refine ⟨?_, ?_, ?_⟩
  · rw [answer, answer', alike.state]
  · rw [state, state', alike.state]
  · rw [calls, calls', alike.calls]

theorem resume (alike : k.Alike l) (b : Backend σ) (scrollId : String) (millis : Nat) :
    (k.resume b scrollId millis).1 = (l.resume b scrollId millis).1 ∧
      (k.resume b scrollId millis).2.Alike (l.resume b scrollId millis).2 := by
  obtain ⟨answer, state, calls⟩ := k.resume_answer b scrollId millis
  obtain ⟨answer', state', calls'⟩ := l.resume_answer b scrollId millis
  refine ⟨?_, ?_, ?_⟩
  · rw [answer, answer', alike.state]
  · rw [state, state', alike.state]
  · rw [calls, calls', alike.calls]

theorem release (alike : k.Alike l) (b : Backend σ) (c : Cursor) :
    (c.release b k).2.Alike (c.release b l).2 := by
  obtain ⟨state, calls⟩ := k.release_answer b c.ids
  obtain ⟨state', calls'⟩ := l.release_answer b c.ids
  unfold Cursor.release
  split
  · exact alike
  · refine ⟨?_, ?_⟩
    · rw [state, state', alike.state]
    · rw [calls, calls', alike.calls]

theorem open? (alike : k.Alike l) (b : Backend σ) (keepMillis : Nat) (index : String)
    (request : SearchRequest) (maxHits : Nat) :
    (Cursor.open? b keepMillis index request maxHits k).1 =
        (Cursor.open? b keepMillis index request maxHits l).1 ∧
      (Cursor.open? b keepMillis index request maxHits k).2.Alike
        (Cursor.open? b keepMillis index request maxHits l).2 := by
  obtain ⟨same, later⟩ := alike.search b index request
  unfold Cursor.open?
  generalize k.search b index request = found at same later ⊢
  generalize l.search b index request = found' at same later ⊢
  obtain ⟨e | r, m⟩ := found <;> obtain ⟨e' | r', n⟩ := found' <;> cases same <;> exact ⟨rfl, later⟩

theorem advance (alike : k.Alike l) (b : Backend σ) (c : Cursor) :
    (c.advance b k).1 = (c.advance b l).1 ∧ (c.advance b k).2.1 = (c.advance b l).2.1 ∧
      (c.advance b k).2.2.Alike (c.advance b l).2.2 := by
  unfold Cursor.advance
  split
  · exact ⟨rfl, rfl, alike⟩
  · cases c.nextId with
    | none => exact ⟨rfl, rfl, alike⟩
    | some id =>
      obtain ⟨same, later⟩ := alike.resume b id c.keepMillis
      dsimp only
      generalize k.resume b id c.keepMillis = fetched at same later ⊢
      generalize l.resume b id c.keepMillis = fetched' at same later ⊢
      obtain ⟨e | r, m⟩ := fetched <;> obtain ⟨e' | r', n⟩ := fetched' <;> cases same
      · exact ⟨rfl, rfl, later⟩
      · exact ⟨rfl, rfl, later.report _⟩

end Connection.Alike

namespace Paging

structure State.Alike (p q : State σ) : Prop where
  connection : p.connection.Alike q.connection
  timers : p.timers = q.timers
  store : p.store = q.store

namespace State.Alike

variable {b : Backend σ} {p q : State σ}

theorem refl (p : State σ) : p.Alike p := ⟨.refl _, rfl, rfl⟩

theorem slot? (alike : p.Alike q) (session : String) : p.slot? session = q.slot? session := by
  rw [State.slot?, alike.store, State.slot?]

theorem report (alike : p.Alike q) (e : Log.Event) : (p.report e).Alike (q.report e) :=
  ⟨alike.connection.report e, alike.timers, alike.store⟩

theorem releaseCursor (alike : p.Alike q) (b : Backend σ) (c : Cursor) :
    (p.releaseCursor b c).Alike (q.releaseCursor b c) :=
  ⟨alike.connection.release b c, alike.timers, alike.store⟩

theorem setSlots (alike : p.Alike q) (f : Slots → Slots) :
    (p.setSlots (f p.store.slots)).Alike (q.setSlots (f q.store.slots)) :=
  ⟨alike.connection, alike.timers, by simp [State.setSlots, alike.store]⟩

theorem setTimers (alike : p.Alike q) (timers : Timers Alarm) :
    State.Alike { p with timers } { q with timers } := ⟨alike.connection, rfl, alike.store⟩

theorem cancel (alike : p.Alike q) (timer : Nat) : (p.cancel timer).Alike (q.cancel timer) :=
  ⟨alike.connection, by simp [State.cancel, alike.timers], alike.store⟩

theorem setConnection (alike : p.Alike q) {k l : Connection σ} (connections : k.Alike l) :
    State.Alike { p with connection := k } { q with connection := l } :=
  ⟨connections, alike.timers, alike.store⟩

theorem count (alike : p.Alike q) (f : Metrics → Metrics) : (p.count f).Alike (q.count f) :=
  ⟨⟨alike.connection.state, alike.connection.calls⟩, alike.timers, alike.store⟩

theorem clear (alike : p.Alike q) (b : Backend σ) (session : String) :
    (p.clear b session).Alike (q.clear b session) := by
  have erased := alike.setSlots (·.erase session)
  unfold State.clear
  dsimp only
  rw [← alike.slot? session]
  split
  · exact (erased.cancel _).releaseCursor b _
  · exact erased

theorem consider (alike : p.Alike q) (b : Backend σ) (r : PageRequest) :
    (p.consider b r).1 = (q.consider b r).1 ∧ (p.consider b r).2.Alike (q.consider b r).2 := by
  unfold State.consider
  rw [← alike.slot? r.session, ← alike.timers]
  cases Slot.verdict r (p.slot? r.session) with
  | fresh => exact ⟨rfl, alike.clear b r.session⟩
  | reject e => exact ⟨rfl, alike⟩
  | resume binding =>
    dsimp only
    rcases p.timers.cancel binding.timer with ⟨_ | _, timers⟩
    · have expired := (alike.setSlots (·.put r.session .expired)).count fun m =>
        { m with pagerExpiries := m.pagerExpiries + 1 }
      exact ⟨rfl, expired.releaseCursor b binding.cursor⟩
    · exact ⟨rfl, (alike.setTimers timers).setSlots
        (·.put r.session (.busy binding.pager binding.key binding.next))⟩

theorem begin (alike : p.Alike q) (b : Backend σ) (r : PageRequest) :
    (p.begin b r).1 = (q.begin b r).1 ∧ (p.begin b r).2.Alike (q.begin b r).2 := by
  obtain ⟨same, later⟩ := alike.consider b r
  unfold State.begin
  generalize p.consider b r = answer at same later ⊢
  generalize q.consider b r = answer' at same later ⊢
  obtain ⟨e | opening, after⟩ := answer <;> obtain ⟨e' | opening', after'⟩ := answer' <;> cases same
  · exact ⟨rfl, (later.count _).report _⟩
  · cases opening with
    | fresh => exact ⟨rfl, later⟩
    | resume page => exact ⟨rfl, later.report _⟩

theorem start (alike : p.Alike q) (b : Backend σ) (r : PageRequest) (cursor : Cursor) :
    (State.start b p r cursor).1 = (State.start b q r cursor).1 ∧
      (State.start b p r cursor).2.Alike (State.start b q r cursor).2 := by
  unfold State.start
  dsimp only
  rw [← alike.slot? r.session, ← alike.store]
  refine ⟨rfl, ?_⟩
  split
  · refine State.Alike.releaseCursor ?_ b _
    exact ⟨alike.connection, by simp [State.cancel, alike.timers], rfl⟩
  · exact ⟨alike.connection, alike.timers, rfl⟩

theorem isBusyWith (alike : p.Alike q) (session : String) (pager : Nat) :
    p.isBusyWith session pager = q.isBusyWith session pager := by
  rw [State.isBusyWith, alike.slot? session, State.isBusyWith]

theorem vacate (alike : p.Alike q) (page : Page) : (p.vacate page).Alike (q.vacate page) := by
  unfold State.vacate
  rw [← alike.isBusyWith]
  split
  · exact alike.setSlots (·.erase page.session)
  · exact alike

theorem keep (alike : p.Alike q) (b : Backend σ) (page : Page) (cursor : Cursor) :
    (p.keep b page cursor).Alike (q.keep b page cursor) := by
  unfold State.keep
  rw [← alike.isBusyWith, ← alike.store, ← alike.timers]
  split
  · refine State.Alike.report ?_ _
    exact ⟨alike.connection, rfl, rfl⟩
  · exact alike.releaseCursor b cursor

theorem closePage (alike : p.Alike q) (b : Backend σ) (page : Page) :
    (p.closePage b page).1 = (q.closePage b page).1 ∧
      (p.closePage b page).2.Alike (q.closePage b page).2 := by
  unfold State.closePage
  split
  · exact ⟨rfl, ((alike.vacate page).releaseCursor b page.cursor).report _⟩
  · obtain ⟨same, moved, later⟩ := alike.connection.advance b page.cursor
    generalize page.cursor.advance b p.connection = advanced at same moved later ⊢
    generalize page.cursor.advance b q.connection = advanced' at same moved later ⊢
    obtain ⟨e | fetched, c, m⟩ := advanced <;> obtain ⟨e' | fetched', c', m'⟩ := advanced' <;>
      cases same <;> cases moved
    all_goals have reached := alike.setConnection later
    · exact ⟨rfl, (reached.vacate page).releaseCursor b c⟩
    · exact ⟨rfl, reached.keep b page c⟩

theorem dropPage (alike : p.Alike q) (b : Backend σ) (page : Page) :
    (p.dropPage b page).Alike (q.dropPage b page) :=
  (alike.vacate page).releaseCursor b page.cursor

theorem expire (alike : p.Alike q) (b : Backend σ) (session : String) (pager : Nat) :
    (State.expire b p session pager).Alike (State.expire b q session pager) := by
  unfold State.expire
  rw [← alike.slot? session]
  split
  · split
    · exact (((alike.setSlots (·.put session .expired)).count _).report _).releaseCursor b _
    · exact alike
  · exact alike

theorem releaseSession (alike : p.Alike q) (b : Backend σ) (session : String) :
    (p.releaseSession b session).1 = (q.releaseSession b session).1 ∧
      (p.releaseSession b session).2.Alike (q.releaseSession b session).2 := by
  refine ⟨?_, alike.clear b session⟩
  simp only [State.releaseSession, State.expectedIndex, alike.slot? session]

end State.Alike

structure Run.Alike (r s : Run σ) : Prop where
  state : r.state.Alike s.state
  granted : r.granted = s.granted
  pages : r.pages = s.pages
  firsts : r.firsts = s.firsts
  closed : r.closed.map (·.1) = s.closed.map (·.1)
  gone : r.gone = s.gone

namespace Run.Alike

variable {b : Backend σ} {r s : Run σ}

theorem setState (alike : r.Alike s) {p q : State σ} (states : p.Alike q) :
    (r.setState p).Alike (s.setState q) :=
  ⟨states, alike.granted, alike.pages, alike.firsts, alike.closed, alike.gone⟩

/-! What a move is answered with, and what it leaves. -/

theorem request (alike : r.Alike s) (b : Backend σ) (q : PageRequest) :
    Opening.answer (r.state.begin b q).1 = Opening.answer (s.state.begin b q).1 ∧
      (r.request b q).Alike (s.request b q) := by
  obtain ⟨same, later⟩ := alike.state.begin b q
  refine ⟨by rw [same], ?_⟩
  unfold Run.request
  generalize r.state.begin b q = answer at same later ⊢
  generalize s.state.begin b q = answer' at same later ⊢
  obtain ⟨e | opening, after⟩ := answer <;> obtain ⟨e' | opening', after'⟩ := answer' <;> cases same
  · exact alike.setState later
  · cases opening with
    | fresh => exact { alike.setState later with granted := congrArg (q :: ·) alike.granted }
    | resume page => exact { alike.setState later with pages := congrArg (page :: ·) alike.pages }

theorem start (alike : r.Alike s) (b : Backend σ) (q : PageRequest) (search : Search) :
    r.answer b (.start q search) = s.answer b (.start q search) ∧
      (r.start b q search).Alike (s.start b q search) := by
  unfold Run.answer Run.start
  dsimp only
  rw [← alike.granted]
  split
  · obtain ⟨same, later⟩ := alike.state.connection.open? b search.keepMillis search.index
      search.request search.maxHits
    generalize Cursor.open? b search.keepMillis search.index search.request search.maxHits
      r.state.connection = opened at same later ⊢
    generalize Cursor.open? b search.keepMillis search.index search.request search.maxHits
      s.state.connection = opened' at same later ⊢
    obtain ⟨e | cursor, k⟩ := opened <;> obtain ⟨e' | cursor', l⟩ := opened' <;> cases same
    all_goals have reached := alike.state.setConnection later
    · exact ⟨rfl, alike.setState reached⟩
    · obtain ⟨page, started⟩ := reached.start b q cursor
      refine ⟨congrArg (fun page => Answer.page page.face) page, ?_⟩
      dsimp only
      rw [page, alike.pages, alike.firsts]
      exact { alike.setState started with granted := rfl, pages := rfl, firsts := rfl }
  · exact ⟨rfl, alike⟩

theorem read (alike : r.Alike s) (position : Nat) :
    (r.read position).Alike (s.read position) := by
  unfold Run.read Run.setCursor
  rw [← alike.pages]
  split
  · exact alike
  · split
    · exact alike
    · exact { alike with pages := rfl }

theorem close (alike : r.Alike s) (b : Backend σ) (position : Nat) :
    r.answer b (.close position) = s.answer b (.close position) ∧
      (r.close b position).Alike (s.close b position) := by
  unfold Run.answer Run.close
  dsimp only
  rw [← alike.pages]
  cases r.pages[position]? with
  | none => exact ⟨rfl, alike⟩
  | some page =>
    obtain ⟨same, later⟩ := alike.state.closePage b page
    dsimp only
    refine ⟨by rw [same], ?_⟩
    exact { alike.setState later with pages := rfl, closed := by simp [alike.closed] }

theorem drop (alike : r.Alike s) (b : Backend σ) (position : Nat) :
    (r.drop b position).Alike (s.drop b position) := by
  unfold Run.drop
  rw [← alike.pages]
  split
  · exact alike
  · next page found => exact { alike.setState (alike.state.dropPage b page) with pages := rfl }

theorem ring (alike : r.Alike s) (b : Backend σ) (timer : Nat) :
    (r.ring b timer).Alike (s.ring b timer) := by
  unfold Run.ring
  rw [← alike.state.timers]
  rcases r.state.timers.take? timer with ⟨_ | ⟨session, pager⟩ | name, timers⟩
  · exact alike.setState (alike.state.setTimers timers)
  · exact alike.setState ((alike.state.setTimers timers).expire b session pager)
  · exact alike.setState (alike.state.setTimers timers)

theorem act (alike : r.Alike s) (b : Backend σ) (move : Move) :
    r.answer b move = s.answer b move ∧ (r.act b move).Alike (s.act b move) := by
  have timed (f : Timers Alarm → Timers Alarm) :
      (r.setState { r.state with timers := f r.state.timers }).Alike
        (s.setState { s.state with timers := f s.state.timers }) :=
    alike.setState ⟨alike.state.connection, congrArg f alike.state.timers, alike.state.store⟩
  cases move with
  | request q => exact alike.request b q
  | start q search => exact alike.start b q search
  | read position => exact ⟨by simp only [Run.answer, alike.pages], alike.read position⟩
  | close position => exact alike.close b position
  | drop position => exact ⟨by simp only [Run.answer, alike.pages], alike.drop b position⟩
  | leave session =>
    obtain ⟨same, later⟩ := alike.state.releaseSession b session
    exact ⟨congrArg Answer.left same, alike.setState later⟩
  | elapse millis => exact ⟨rfl, timed (·.elapse millis)⟩
  | claim timer => exact ⟨rfl, timed (·.claim timer)⟩
  | ring timer => exact ⟨rfl, alike.ring b timer⟩
  | stop => exact ⟨rfl, timed (·.stop.2)⟩

/-! The account of the cursors. -/

theorem held (alike : r.Alike s) : r.held = s.held := by
  rw [Run.held, Run.out, alike.state.store, alike.pages, Run.held, Run.out]

theorem parted (alike : r.Alike s) (found : List (Nat × Cursor)) :
    r.parted found = s.parted found := by
  simp only [Run.parted, Run.holds, alike.held]

theorem found (alike : r.Alike s) (b : Backend σ) (move : Move) :
    r.found b move = s.found b move := by
  cases move with
  | read position => exact (alike.read position).held
  | close position =>
    unfold Run.found
    dsimp only
    rw [← alike.pages]
    split
    · exact alike.held
    · next page found =>
      obtain ⟨-, moved, -⟩ := alike.state.connection.advance b page.cursor
      rw [← moved]
      simp only [Run.held, Run.out, Run.setCursor, alike.state.store, alike.pages]
  | _ => exact alike.held

theorem step (alike : r.Alike s) (b : Backend σ) (move : Move) :
    (r.step b move).Alike (s.step b move) := by
  have after := (alike.act b move).2
  refine ⟨after.state, after.granted, after.pages, after.firsts, after.closed, ?_⟩
  change r.gone ++ (r.act b move).parted (r.found b move) =
    s.gone ++ (s.act b move).parted (s.found b move)
  rw [alike.gone, alike.found b move, after.parted]

theorem run (alike : r.Alike s) (b : Backend σ) (moves : List Move) :
    (r.run b moves).Alike (s.run b moves) := by
  induction moves generalizing r s with
  | nil => exact alike
  | cons move later ih => exact ih (alike.step b move)

theorem answers (alike : r.Alike s) (b : Backend σ) (moves : List Move) :
    r.answers b moves = s.answers b moves := by
  induction moves generalizing r s with
  | nil => rfl
  | cons move later ih => exact congrArg₂ List.cons (alike.act b move).1 (ih (alike.step b move))

end Run.Alike

end Paging

end GeoSearch
