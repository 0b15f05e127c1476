import GeoSearch.Proofs.Paging.Operations
/-!
What a move does to a run: one case for each way it can end, with what decided about it. Whatever
moves preserve is proved over these cases.
-/
namespace GeoSearch.Paging

/-- A pager is started with a cursor that was opened just before. Opening one releases none. -/
theorem State.change_opened {b : Backend σ} {p : State σ} {s : Search} {cursor : Cursor}
    {connection : Connection σ}
    (opening : Cursor.open? b s.keepMillis s.index s.request s.maxHits p.connection =
      (.ok cursor, connection)) (q : PageRequest) :
    Change p (State.start b { p with connection } q cursor).2 1 q.session
      (some (q.firstPage p.store.issued cursor).slot) (Slot.kept (p.slot? q.session)) := by
  obtain ⟨-, same⟩ := Cursor.open?_ok opening
  obtain ⟨after, started, change⟩ := State.change_start b { p with connection } q cursor
  rw [started]
  exact change.later rfl same.symm

namespace Run

/-- How a move can end, and with what run. -/
inductive Effect (b : Backend σ) (r : Run σ) : Move → Run σ → Prop
  | rejected {q : PageRequest} {e : Error} {state : State σ}
      (answer : r.state.begin b q = (.error e, state)) :
      Effect b r (.request q) (r.setState state)
  | granted {q : PageRequest} {state : State σ}
      (answer : r.state.begin b q = (.ok .fresh, state)) :
      Effect b r (.request q) { r with state, granted := q :: r.granted }
  | resumed {q : PageRequest} {page : Page} {state : State σ}
      (answer : r.state.begin b q = (.ok (.resume page), state)) :
      Effect b r (.request q) { r with state, pages := page :: r.pages }
  | ungranted {q : PageRequest} {s : Search} (ungranted : q ∉ r.granted) :
      Effect b r (.start q s) r
  | unopened {q : PageRequest} {s : Search} {e : BackendError} {connection : Connection σ}
      (granted : q ∈ r.granted)
      (opening : Cursor.open? b s.keepMillis s.index s.request s.maxHits r.state.connection =
        (.error e, connection)) :
      Effect b r (.start q s) (r.setState { r.state with connection })
  | started {q : PageRequest} {s : Search} {cursor : Cursor} {connection : Connection σ}
      (granted : q ∈ r.granted)
      (opening : Cursor.open? b s.keepMillis s.index s.request s.maxHits r.state.connection =
        (.ok cursor, connection)) :
      Effect b r (.start q s)
        { r with state := (State.start b { r.state with connection } q cursor).2
                 pages := q.firstPage r.state.store.issued cursor :: r.pages
                 firsts := r.firsts ++ [q.firstPage r.state.store.issued cursor] }
  /-- there is no such page, or it has no further hit -/
  | unread {position : Nat}
      (nothing : ∀ page, r.pages[position]? = some page → page.cursor.next? = none) :
      Effect b r (.read position) r
  | read {position : Nat} {page : Page} {hit : Hit} {cursor : Cursor}
      (found : r.pages[position]? = some page) (next : page.cursor.next? = some (hit, cursor)) :
      Effect b r (.read position) (r.setCursor position page cursor)
  | unclosed {position : Nat} (absent : r.pages[position]? = none) :
      Effect b r (.close position) r
  | closed {position : Nat} {page : Page} (found : r.pages[position]? = some page) :
      Effect b r (.close position)
        { r with state := (r.state.closePage b page).2
                 pages := r.pages.eraseIdx position
                 closed := r.closed ++ [(page.pager, r.state.connection)] }
  | undropped {position : Nat} (absent : r.pages[position]? = none) :
      Effect b r (.drop position) r
  | dropped {position : Nat} {page : Page} (found : r.pages[position]? = some page) :
      Effect b r (.drop position)
        { r with state := r.state.dropPage b page, pages := r.pages.eraseIdx position }
  | left (session : String) :
      Effect b r (.leave session) (r.setState (r.state.clear b session))
  | elapsed (millis : Nat) :
      Effect b r (.elapse millis)
        (r.setState { r.state with timers := r.state.timers.elapse millis })
  | claimed (timer : Nat) :
      Effect b r (.claim timer) (r.setState { r.state with timers := r.state.timers.claim timer })
  /-- no action is taken, or one that concerns no session -/
  | silent {timer : Nat}
      (silent : ∀ session pager, (r.state.timers.take? timer).1 ≠ some (.idle session pager)) :
      Effect b r (.ring timer)
        (r.setState { r.state with timers := (r.state.timers.take? timer).2 })
  | rang {timer : Nat} {session : String} {pager : Nat}
      (taken : (r.state.timers.take? timer).1 = some (.idle session pager)) :
      Effect b r (.ring timer)
        (r.setState (State.expire b { r.state with timers := (r.state.timers.take? timer).2 }
          session pager))
  | stopped : Effect b r .stop (r.setState { r.state with timers := r.state.timers.stop.2 })

/-- Each move has one of these effects. -/
theorem effect (b : Backend σ) (r : Run σ) (move : Move) : Effect b r move (r.act b move) := by
  unfold Run.act
  cases move with
  | request q =>
    dsimp only [Run.request]
    rcases answer : r.state.begin b q with ⟨e | _ | page, state⟩
    · exact .rejected answer
    · exact .granted answer
    · exact .resumed answer
  | start q s =>
    dsimp only [Run.start]
    by_cases granted : q ∈ r.granted
    · rw [if_pos granted]
      rcases opening : Cursor.open? b s.keepMillis s.index s.request s.maxHits r.state.connection
        with ⟨e | cursor, connection⟩
      · exact .unopened granted opening
      · exact .started granted opening
    · rw [if_neg granted]
      exact .ungranted granted
  | read position =>
    dsimp only [Run.read]
    split
    · next absent => exact .unread fun page found => nomatch absent.symm.trans found
    · next page found =>
      split
      · next last =>
        refine .unread fun other too => ?_
        cases found.symm.trans too
        exact last
      · next hit cursor next => exact .read found next
  | close position =>
    dsimp only [Run.close]
    split
    · next absent => exact .unclosed absent
    · next page found => exact .closed found
  | drop position =>
    dsimp only [Run.drop]
    split
    · next absent => exact .undropped absent
    · next page found => exact .dropped found
  | leave session => exact .left session
  | elapse millis => exact .elapsed millis
  | claim timer => exact .claimed timer
  | ring timer =>
    dsimp only [Run.ring]
    rcases taking : r.state.timers.take? timer with ⟨_ | ⟨session, pager⟩ | name, timers⟩
    · have silent : Effect b r (.ring timer) _ := .silent (by simp [taking])
      rwa [taking] at silent
    · have rang : Effect b r (.ring timer) _ := .rang (congrArg Prod.fst taking)
      rwa [taking] at rang
    · have silent : Effect b r (.ring timer) _ := .silent (by simp [taking])
      rwa [taking] at silent
  | stop => exact .stopped

end Run

end GeoSearch.Paging
