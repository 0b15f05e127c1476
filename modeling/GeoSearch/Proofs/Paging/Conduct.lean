import GeoSearch.Proofs.Paging.Ownership
import GeoSearch.Proofs.Paging.Succession
import GeoSearch.Proofs.Scroll.Cursors
/-!
The moves of a run, case by case: what each is answered with, what it leaves, and how it uses the
cursors. To the index a run is no more than many cursors that are opened, read, advanced and released
side by side.
-/
namespace GeoSearch.Paging

namespace State.Alike

variable {p q : State σ}

/-! Reports and counters make no difference. -/

theorem of_report (alike : p.Alike q) (e : Log.Event) : (p.report e).Alike q :=
  ⟨⟨alike.connection.state, alike.connection.calls⟩, alike.timers, alike.store⟩

theorem of_count (alike : p.Alike q) (f : Metrics → Metrics) : (p.count f).Alike q :=
  ⟨⟨alike.connection.state, alike.connection.calls⟩, alike.timers, alike.store⟩

end State.Alike

def Search.use (s : Search) : Cursor.Use := .open s.keepMillis s.index s.request s.maxHits

/-- The cursor of a pager has an even number. One that could not be opened has an odd one. -/
def releases (cursors : List (Nat × Cursor)) : List (Nat × Cursor.Use) :=
  cursors.map fun cursor => (2 * cursor.1, .release)

namespace Run

def uses (b : Backend σ) (r : Run σ) (unused : Nat) : Move → List (Nat × Cursor.Use)
  | .request q =>
    match Slot.verdict q (r.state.slot? q.session) with
    | .fresh => releases (Slot.kept (r.state.slot? q.session))
    | .reject _ => []
    | .resume binding =>
      if (r.state.timers.cancel binding.timer).1 then [] else [(2 * binding.pager, .release)]
  | .start q s =>
    if q ∈ r.granted then
      match (Cursor.open? b s.keepMillis s.index s.request s.maxHits r.state.connection).1 with
      | .ok _ =>
        (2 * r.state.store.issued, s.use) :: releases (Slot.kept (r.state.slot? q.session))
      | .error _ => [(2 * unused + 1, s.use)]
    else []
  | .read position =>
    match r.pages[position]? with
    | none => []
    | some page => [(2 * page.pager, .read)]
  | .close position =>
    match r.pages[position]? with
    | none => []
    | some page =>
      if page.cursor.isFinal then [(2 * page.pager, .release)]
      else
        match (page.cursor.advance b r.state.connection).1 with
        | .ok _ =>
          if r.state.isBusyWith page.session page.pager then [(2 * page.pager, .advance)]
          else [(2 * page.pager, .advance), (2 * page.pager, .release)]
        | .error _ => [(2 * page.pager, .advance), (2 * page.pager, .release)]
  | .drop position =>
    match r.pages[position]? with
    | none => []
    | some page => [(2 * page.pager, .release)]
  | .leave session => releases (Slot.kept (r.state.slot? session))
  | .ring timer =>
    match (r.state.timers.take? timer).1 with
    | some (.idle session pager) =>
      match r.state.slot? session with
      | some (.live binding) => if binding.pager = pager then [(2 * pager, .release)] else []
      | _ => []
    | _ => []
  | _ => []

structure Comes (b : Backend σ) (r : Run σ) (unused : Nat) (move : Move) (answer : Answer)
    (after : Run σ) (uses : List (Nat × Cursor.Use)) : Prop where
  answer : r.answer b move = answer
  act : (r.act b move).Alike after
  uses : r.uses b unused move = uses

variable {b : Backend σ} {r : Run σ}

theorem Alike.refl (r : Run σ) : r.Alike r := ⟨.refl _, rfl, rfl, rfl, rfl, rfl⟩

theorem Alike.of_state {p q : State σ} (alike : p.Alike q) (r : Run σ) :
    (r.setState p).Alike (r.setState q) := ⟨alike, rfl, rfl, rfl, rfl, rfl⟩

/-! ### Requests -/

section

variable {q : PageRequest} {binding : Binding}

theorem comes_fresh (b : Backend σ) (unused : Nat)
    (verdict : Slot.verdict q (r.state.slot? q.session) = .fresh) :
    Comes b r unused (.request q) .fresh
      { r with state := r.state.clear b q.session, granted := q :: r.granted }
      (releases (Slot.kept (r.state.slot? q.session))) := by
  have answer : r.state.begin b q = (.ok .fresh, r.state.clear b q.session) := by
    simp only [State.begin, State.consider, verdict]
  refine ⟨?_, ?_, ?_⟩
  · simp only [Run.answer, answer, Opening.answer]
  · simp only [Run.act, Run.request, answer]
    exact .refl _
  · simp only [Run.uses, verdict]

theorem comes_reject {e : Error} (b : Backend σ) (unused : Nat)
    (verdict : Slot.verdict q (r.state.slot? q.session) = .reject e) :
    Comes b r unused (.request q) (.failed e) r [] := by
  have answer : (r.state.begin b q).1 = .error e := by
    simp only [State.begin, State.consider, verdict]
  refine ⟨?_, ?_, ?_⟩
  · simp only [Run.answer, answer, Opening.answer]
  · simp only [Run.act, Run.request, State.begin, State.consider, verdict]
    exact .of_state (((State.Alike.refl r.state).of_count _).of_report _) r
  · simp only [Run.uses, verdict]

theorem comes_late (b : Backend σ) (unused : Nat)
    (verdict : Slot.verdict q (r.state.slot? q.session) = .resume binding)
    (late : (r.state.timers.cancel binding.timer).1 = false) :
    Comes b r unused (.request q) (.failed (.notFound q.session))
      (r.setState ((r.state.setSlots (r.state.store.slots.put q.session .expired)).releaseCursor b
        binding.cursor)) [(2 * binding.pager, .release)] := by
  rcases cancelled : r.state.timers.cancel binding.timer with ⟨_ | _, timers⟩
  · refine ⟨?_, ?_, ?_⟩
    · simp only [Run.answer, State.begin, State.consider, verdict, cancelled, Opening.answer]
    · simp only [Run.act, Run.request, State.begin, State.consider, verdict, cancelled]
      have expired :=
        State.Alike.refl (r.state.setSlots (r.state.store.slots.put q.session .expired))
      have released := (expired.of_count fun m =>
        { m with pagerExpiries := m.pagerExpiries + 1 }).releaseCursor b binding.cursor
      exact .of_state ((released.of_count _).of_report _) r
    · simp [Run.uses, verdict, cancelled]
  · simp [cancelled] at late

theorem comes_resume (b : Backend σ) (unused : Nat)
    (verdict : Slot.verdict q (r.state.slot? q.session) = .resume binding)
    (timely : (r.state.timers.cancel binding.timer).1 = true) :
    Comes b r unused (.request q) (.page (binding.page q.session).face)
      { r with
        state := (r.state.cancel binding.timer).setSlots
          (r.state.store.slots.put q.session (binding.page q.session).slot)
        pages := binding.page q.session :: r.pages } [] := by
  rcases cancelled : r.state.timers.cancel binding.timer with ⟨_ | _, timers⟩
  · simp [cancelled] at timely
  · refine ⟨?_, ?_, ?_⟩
    · simp only [Run.answer, State.begin, State.consider, verdict, cancelled, Opening.answer]
      rfl
    · simp only [Run.act, Run.request, State.begin, State.consider, verdict, cancelled]
      exact ⟨⟨⟨rfl, rfl⟩, by simp only [State.cancel, cancelled]; rfl, rfl⟩, rfl, rfl, rfl, rfl, rfl⟩
    · simp [Run.uses, verdict, cancelled]

end

/-! ### First pages -/

section

variable {q : PageRequest} {s : Search} {connection : Connection σ}

theorem comes_ungranted (b : Backend σ) (unused : Nat) (s : Search) (ungranted : q ∉ r.granted) :
    Comes b r unused (.start q s) .nothing r [] := by
  refine ⟨if_neg ungranted, ?_, if_neg ungranted⟩
  simp only [Run.act, Run.start, if_neg ungranted]
  exact .refl r

theorem comes_unopened {e : BackendError} (unused : Nat) (granted : q ∈ r.granted)
    (failed : Cursor.open? b s.keepMillis s.index s.request s.maxHits r.state.connection =
      (.error e, connection)) :
    Comes b r unused (.start q s) (.failed (.backend e))
      (r.setState { r.state with connection }) [(2 * unused + 1, s.use)] := by
  refine ⟨?_, ?_, ?_⟩
  · simp only [Run.answer, if_pos granted, failed]
  · simp only [Run.act, Run.start, if_pos granted, failed]
    exact .refl _
  · simp only [Run.uses, if_pos granted, failed]

theorem comes_started {cursor : Cursor} (unused : Nat) (granted : q ∈ r.granted)
    (opened : Cursor.open? b s.keepMillis s.index s.request s.maxHits r.state.connection =
      (.ok cursor, connection)) :
    Comes b r unused (.start q s) (.page (q.firstPage r.state.store.issued cursor).face)
      { r with
        state := (State.start b { r.state with connection } q cursor).2
        pages := q.firstPage r.state.store.issued cursor :: r.pages
        firsts := r.firsts ++ [q.firstPage r.state.store.issued cursor] }
      ((2 * r.state.store.issued, s.use) :: releases (Slot.kept (r.state.slot? q.session))) := by
  refine ⟨?_, ?_, ?_⟩
  · simp only [Run.answer, if_pos granted, opened]
    rfl
  · simp only [Run.act, Run.start, if_pos granted, opened]
    exact .refl _
  · simp only [Run.uses, if_pos granted, opened]

end

/-! ### Pages -/

section

variable {position : Nat} {page : Page} {cursor : Cursor} {connection : Connection σ}

theorem comes_unread (b : Backend σ) (unused : Nat) (absent : r.pages[position]? = none) :
    Comes b r unused (.read position) .nothing r [] := by
  refine ⟨by simp only [Run.answer, absent], ?_, by simp only [Run.uses, absent]⟩
  simp only [Run.act, Run.read, absent]
  exact .refl r

theorem comes_read (b : Backend σ) (unused : Nat) (found : r.pages[position]? = some page) :
    Comes b r unused (.read position) (.hit page.cursor.batch.head?)
      (r.setCursor position page { page.cursor with batch := page.cursor.batch.tail })
      [(2 * page.pager, .read)] := by
  refine ⟨?_, ?_, by simp only [Run.uses, found]⟩
  · simp only [Run.answer, found]
    cases batch : page.cursor.batch <;> simp [Cursor.next?, batch]
  · simp only [Run.act, Run.read, found]
    cases batch : page.cursor.batch with
    | nil =>
      -- the page stays as it is
      have same : r.pages.set position page = r.pages := by
        obtain ⟨inside, rfl⟩ := List.getElem?_eq_some_iff.mp found
        exact List.set_getElem_self inside
      simp only [Cursor.next?, batch, List.tail_nil]
      refine ⟨.refl _, rfl, ?_, rfl, rfl, rfl⟩
      change r.pages = r.pages.set position { page with cursor := { page.cursor with batch := [] } }
      rw [← batch]
      exact same.symm
    | cons hit rest =>
      simp only [Cursor.next?, batch, List.tail_cons]
      exact .refl _

theorem comes_unclosed (b : Backend σ) (unused : Nat) (absent : r.pages[position]? = none) :
    Comes b r unused (.close position) .nothing r [] := by
  refine ⟨by simp only [Run.answer, absent], ?_, by simp only [Run.uses, absent]⟩
  simp only [Run.act, Run.close, absent]
  exact .refl r

def takeOut (r : Run σ) (position : Nat) (page : Page) (state : State σ) : Run σ :=
  { r with
    state
    pages := r.pages.eraseIdx position
    closed := r.closed ++ [(page.pager, r.state.connection)] }

theorem act_close (found : r.pages[position]? = some page) :
    r.act b (.close position) = r.takeOut position page (r.state.closePage b page).2 := by
  simp only [Run.act, Run.close, found]
  rfl

theorem Alike.of_takeOut {p q : State σ} (alike : p.Alike q) (r : Run σ) (position : Nat)
    (page : Page) : (r.takeOut position page p).Alike (r.takeOut position page q) :=
  ⟨alike, rfl, rfl, rfl, rfl, rfl⟩

theorem comes_finished (b : Backend σ) (unused : Nat) (found : r.pages[position]? = some page)
    (final : page.cursor.isFinal = true) :
    Comes b r unused (.close position) .done
      (r.takeOut position page ((r.state.vacate page).releaseCursor b page.cursor))
      [(2 * page.pager, .release)] := by
  have close : r.state.closePage b page = (.ok (),
      ((r.state.vacate page).releaseCursor b page.cursor).report
        (.pagerFinished page.session page.start)) := by
    rw [State.closePage, if_pos final]
  refine ⟨by simp only [Run.answer, found, close], ?_, by simp only [Run.uses, found, if_pos final]⟩
  rw [act_close found, close]
  exact .of_takeOut ((State.Alike.refl _).of_report _) r position page

theorem comes_stuck {e : BackendError} (unused : Nat) (found : r.pages[position]? = some page)
    (active : page.cursor.isFinal = false)
    (failed : page.cursor.advance b r.state.connection = (.error e, cursor, connection)) :
    Comes b r unused (.close position) (.failed (.backend e))
      (r.takeOut position page
        ((State.vacate { r.state with connection } page).releaseCursor b cursor))
      [(2 * page.pager, .advance), (2 * page.pager, .release)] := by
  have close : r.state.closePage b page = (.error (.backend e),
      (State.vacate { r.state with connection } page).releaseCursor b cursor) := by
    rw [State.closePage, if_neg (by simp [active]), failed]
  refine ⟨by simp only [Run.answer, found, close], ?_, by simp [Run.uses, found, active, failed]⟩
  rw [act_close found, close]
  exact .refl _

theorem comes_kept {fetched : Bool} (unused : Nat) (found : r.pages[position]? = some page)
    (active : page.cursor.isFinal = false)
    (advanced : page.cursor.advance b r.state.connection = (.ok fetched, cursor, connection))
    (holds : r.state.isBusyWith page.session page.pager = true) :
    Comes b r unused (.close position) .done
      (r.takeOut position page
        (State.setSlots
          { r.state with
            connection
            timers := (r.state.timers.schedule r.state.store.ttlMillis
              (.idle page.session page.pager)).2 }
          (r.state.store.slots.put page.session (.live (r.state.left page cursor)))))
      [(2 * page.pager, .advance)] := by
  have busy : State.isBusyWith { r.state with connection } page.session page.pager = true := holds
  have close : r.state.closePage b page =
      (.ok (), State.keep b { r.state with connection } page cursor) := by
    rw [State.closePage, if_neg (by simp [active]), advanced]
  refine ⟨by simp only [Run.answer, found, close], ?_, by simp [Run.uses, found, active, advanced, holds]⟩
  rw [act_close found, close, State.keep, if_pos busy]
  exact .of_takeOut ((State.Alike.refl _).of_report _) r position page

theorem comes_outlived {fetched : Bool} (unused : Nat) (found : r.pages[position]? = some page)
    (active : page.cursor.isFinal = false)
    (advanced : page.cursor.advance b r.state.connection = (.ok fetched, cursor, connection))
    (lost : r.state.isBusyWith page.session page.pager = false) :
    Comes b r unused (.close position) .done
      (r.takeOut position page (State.releaseCursor b { r.state with connection } cursor))
      [(2 * page.pager, .advance), (2 * page.pager, .release)] := by
  have free : ¬ State.isBusyWith { r.state with connection } page.session page.pager = true := by
    change ¬ r.state.isBusyWith page.session page.pager = true
    simp [lost]
  have close : r.state.closePage b page =
      (.ok (), State.keep b { r.state with connection } page cursor) := by
    rw [State.closePage, if_neg (by simp [active]), advanced]
  refine ⟨by simp only [Run.answer, found, close], ?_, by simp [Run.uses, found, active, advanced, lost]⟩
  rw [act_close found, close, State.keep, if_neg free]
  exact .refl _

theorem comes_undropped (b : Backend σ) (unused : Nat) (absent : r.pages[position]? = none) :
    Comes b r unused (.drop position) .nothing r [] := by
  refine ⟨by simp only [Run.answer, absent], ?_, by simp only [Run.uses, absent]⟩
  simp only [Run.act, Run.drop, absent]
  exact .refl r

theorem comes_dropped (b : Backend σ) (unused : Nat) (found : r.pages[position]? = some page) :
    Comes b r unused (.drop position) .done
      { r with state := r.state.dropPage b page, pages := r.pages.eraseIdx position }
      [(2 * page.pager, .release)] := by
  refine ⟨by simp only [Run.answer, found], ?_, by simp only [Run.uses, found]⟩
  simp only [Run.act, Run.drop, found]
  exact .refl _

end

/-! ### Sessions and timers -/

theorem comes_left (b : Backend σ) (r : Run σ) (unused : Nat) (session : String) :
    Comes b r unused (.leave session) (.left (r.state.expectedIndex session).isSome)
      (r.setState (r.state.clear b session)) (releases (Slot.kept (r.state.slot? session))) :=
  ⟨rfl, .refl _, rfl⟩

/-- The timer has no action to run, or there is nothing for it to end. -/
theorem comes_unheard (b : Backend σ) (unused : Nat) {timer : Nat}
    (silent : ¬ ∃ session binding, r.state.slot? session = some (.live binding) ∧
      (r.state.timers.take? timer).1 = some (.idle session binding.pager)) :
    Comes b r unused (.ring timer) .nothing
      (r.setState { r.state with timers := (r.state.timers.take? timer).2 }) [] := by
  have void (session : String) (pager : Nat)
      (taken : (r.state.timers.take? timer).1 = some (.idle session pager)) (binding : Binding)
      (live : r.state.slot? session = some (.live binding)) : binding.pager ≠ pager := by
    rintro rfl
    exact silent ⟨session, binding, live, taken⟩
  rcases taken : r.state.timers.take? timer with ⟨_ | ⟨session, pager⟩ | name, timers⟩
  · refine ⟨rfl, ?_, by simp only [Run.uses, taken]⟩
    simp only [Run.act, Run.ring, taken]
    exact .refl _
  · rw [taken] at void
    refine ⟨rfl, ?_, ?_⟩
    · have idle : State.expire b { r.state with timers } session pager = { r.state with timers } :=
        State.expire_eq b (void session pager rfl)
      simp only [Run.act, Run.ring, taken, idle]
      exact .refl _
    · rcases live : r.state.slot? session with _ | binding | _ | _
      · simp only [Run.uses, taken, live]
      · simp only [Run.uses, taken, live, if_neg (void session pager rfl binding live)]
      · simp only [Run.uses, taken, live]
      · simp only [Run.uses, taken, live]
  · refine ⟨rfl, ?_, by simp only [Run.uses, taken]⟩
    simp only [Run.act, Run.ring, taken]
    exact .refl _

theorem comes_rang (b : Backend σ) (unused : Nat) {timer : Nat} {session : String} {binding : Binding}
    (taken : (r.state.timers.take? timer).1 = some (.idle session binding.pager))
    (live : r.state.slot? session = some (.live binding)) :
    Comes b r unused (.ring timer) .nothing
      (r.setState (State.releaseCursor b
        { r.state with
          timers := (r.state.timers.take? timer).2
          store := { r.state.store with slots := r.state.store.slots.put session .expired } }
        binding.cursor)) [(2 * binding.pager, .release)] := by
  rcases took : r.state.timers.take? timer with ⟨action, timers⟩
  rw [took] at taken
  subst taken
  have found : State.slot? { r.state with timers } session = some (.live binding) := live
  refine ⟨rfl, ?_, by simp only [Run.uses, took, live, if_pos]⟩
  simp only [Run.act, Run.ring, took, State.expire, found, if_pos]
  have expired := State.Alike.refl
    (State.setSlots { r.state with timers } (r.state.store.slots.put session .expired))
  exact .of_state (((expired.of_count _).of_report _).releaseCursor b binding.cursor) r

end Run

end GeoSearch.Paging
