import GeoSearch.Proofs.Paging.Operations
import GeoSearch.Proofs.Timers.Lookup
/-!
What the operations of a pager store do to timers, and which timers may still end the keeping of a
cursor.
-/
namespace GeoSearch.Paging

/-! ### What the operations do to timers -/

/-- The timers, without the one of the cursor that is kept for a session. -/
def State.unset (p : State σ) (session : String) : Timers Alarm :=
  match p.slot? session with
  | some (.live binding) => (p.timers.cancel binding.timer).2
  | _ => p.timers

namespace State

variable {b : Backend σ} {p after : State σ} {r : PageRequest} {page : Page} {session : String}
  {pager : Nat}

theorem timers_clear (b : Backend σ) (p : State σ) (session : String) :
    (p.clear b session).timers = p.unset session := by
  unfold clear unset
  rcases p.slot? session with _ | _ | _ | _ <;> rfl

theorem timers_start (b : Backend σ) (p : State σ) (r : PageRequest) (cursor : Cursor) :
    (State.start b p r cursor).2.timers = p.unset r.session := by
  unfold State.start unset
  rcases p.slot? r.session with _ | _ | _ | _ <;> rfl

theorem timers_fresh (answer : p.begin b r = (.ok .fresh, after)) :
    after.timers = p.unset r.session := by
  have reply := reply b p r
  rw [answer] at reply
  cases reply with
  | fresh => exact timers_clear b p r.session

theorem timers_error {error : Error} (answer : p.begin b r = (.error error, after)) :
    after.timers = p.timers := by
  have reply := reply b p r
  rw [answer] at reply
  cases reply with
  | reject | lose => rfl

/-- A page is handed out when the timer of its cursor can still be cancelled. -/
theorem timers_resume (answer : p.begin b r = (.ok (.resume page), after)) :
    ∃ binding, p.slot? r.session = some (.live binding) ∧
      p.timers.cancel binding.timer = (true, after.timers) := by
  have reply := reply b p r
  rw [answer] at reply
  cases reply with
  | resume verdict timely => exact ⟨_, (Slot.verdict_resume verdict).1, timely⟩

theorem timers_vacate (p : State σ) (page : Page) : (p.vacate page).timers = p.timers := by
  unfold vacate
  split <;> rfl

/-- A page that is closed sets a timer if its cursor is kept, and touches none otherwise. -/
theorem closePage_cases (b : Backend σ) (p : State σ) (page : Page) :
    ((p.closePage b page).2.slot? page.session = p.vacated page ∧
      (p.closePage b page).2.timers = p.timers) ∨
    ∃ binding, p.isBusyWith page.session page.pager = true ∧
      (p.closePage b page).2.slot? page.session = some (.live binding) ∧
      binding.pager = page.pager ∧ binding.timer = p.timers.all.length ∧
      (p.closePage b page).2.timers =
        (p.timers.schedule p.store.ttlMillis (.idle page.session page.pager)).2 := by
  have left (q : State σ) (store : q.store = p.store) (timers : q.timers = p.timers) :
      (q.vacate page).slot? page.session = p.vacated page ∧
        (q.vacate page).timers = p.timers := by
    have own := (change_vacate q page).own
    refine ⟨?_, (timers_vacate q page).trans timers⟩
    rw [own, vacated, vacated, isBusyWith, isBusyWith, slot?, slot?, store]
  unfold closePage
  split
  · exact .inl (left p rfl rfl)
  · rcases page.cursor.advance b p.connection with ⟨e | fetched, cursor, connection⟩
    · exact .inl (left { p with connection } rfl rfl)
    · by_cases holds : p.isBusyWith page.session page.pager = true
      · right
        have busy : State.isBusyWith { p with connection } page.session page.pager = true := holds
        dsimp only
        rw [keep, if_pos busy]
        exact ⟨_, holds, Slots.get?_put_self .., rfl, p.timers.id_schedule _ _, rfl⟩
      · left
        have lost : ¬ State.isBusyWith { p with connection } page.session page.pager = true := holds
        have same : p.vacated page = p.slot? page.session := if_neg holds
        dsimp only
        rw [keep, if_neg lost, same]
        exact ⟨rfl, rfl⟩

/-- An alarm ends the keeping of its own pager's cursor, and does nothing else. -/
theorem expire_eq (b : Backend σ)
    (unkept : ∀ binding, p.slot? session = some (.live binding) → binding.pager ≠ pager) :
    State.expire b p session pager = p := by
  unfold State.expire
  split
  · next binding live => exact if_neg (unkept binding live)
  · rfl

theorem slot_expire (b : Backend σ) {binding : Binding}
    (live : p.slot? session = some (.live binding)) :
    (State.expire b p session binding.pager).slot? session = some .expired := by
  unfold State.expire
  rw [live]
  dsimp only
  rw [if_pos rfl]
  exact Slots.get?_put_self ..

theorem timers_expire (b : Backend σ) (p : State σ) (session : String) (pager : Nat) :
    (State.expire b p session pager).timers = p.timers := by
  unfold State.expire
  split
  · split <;> rfl
  · rfl

/-! No operation changes the time for which cursors are kept. -/

section

variable (b : Backend σ) (p : State σ)

theorem ttl_clear (session : String) : (p.clear b session).store.ttlMillis = p.store.ttlMillis := by
  unfold clear
  rcases p.slot? session with _ | _ | _ | _ <;> rfl

theorem ttl_begin (q : PageRequest) : (p.begin b q).2.store.ttlMillis = p.store.ttlMillis := by
  have reply := reply b p q
  generalize p.begin b q = answer at reply ⊢
  cases reply with
  | fresh => exact ttl_clear b p q.session
  | reject | lose | resume => rfl

theorem ttl_start (q : PageRequest) (cursor : Cursor) :
    (State.start b p q cursor).2.store.ttlMillis = p.store.ttlMillis := by
  unfold State.start
  rcases p.slot? q.session with _ | _ | _ | _ <;> rfl

theorem ttl_vacate (page : Page) : (p.vacate page).store.ttlMillis = p.store.ttlMillis := by
  unfold vacate
  split <;> rfl

theorem ttl_closePage (page : Page) :
    (p.closePage b page).2.store.ttlMillis = p.store.ttlMillis := by
  unfold closePage
  split
  · exact ttl_vacate p page
  · rcases page.cursor.advance b p.connection with ⟨e | fetched, cursor, connection⟩
    · exact ttl_vacate { p with connection } page
    · unfold keep
      dsimp only
      split <;> rfl

theorem ttl_expire (session : String) (pager : Nat) :
    (State.expire b p session pager).store.ttlMillis = p.store.ttlMillis := by
  unfold State.expire
  split
  · split <;> rfl
  · rfl

end

end State

/-! ### Timers that are not finished -/

/-- The timer is not finished, and ends the keeping of the pager's cursor. -/
def Watches (t : Timers Alarm) (id : Nat) (session : String) (pager : Nat) : Prop :=
  ∃ timer, t.timer? id = some timer ∧ timer.stage ≠ .finished ∧ timer.action = .idle session pager

namespace Watches

variable {t after : Timers Alarm} {id other : Nat} {session : String} {pager : Nat}

theorem agree {owner : String} {holder : Nat} (watches : Watches t id session pager)
    (too : Watches t id owner holder) : session = owner ∧ pager = holder := by
  obtain ⟨timer, found, -, action⟩ := watches
  obtain ⟨same, again, -, action'⟩ := too
  cases found.symm.trans again
  cases action.symm.trans action'
  exact ⟨rfl, rfl⟩

theorem of_map (watches : Watches after id session pager) {f : Timer Alarm → Timer Alarm}
    (now : after.timer? id = (t.timer? id).map f) (action : ∀ x, (f x).action = x.action)
    (finished : ∀ x, x.stage = .finished → (f x).stage = .finished) :
    Watches t id session pager := by
  obtain ⟨timer, found, unfinished, does⟩ := watches
  obtain ⟨before, was, rfl⟩ := Option.map_eq_some_iff.mp (now.symm.trans found)
  exact ⟨before, was, fun done => unfinished (finished before done), (action before).symm.trans does⟩

theorem map (watches : Watches t id session pager) {f : Timer Alarm → Timer Alarm}
    (now : after.timer? id = (t.timer? id).map f) (action : ∀ x, (f x).action = x.action)
    (unfinished : ∀ x, x.stage ≠ .finished → (f x).stage ≠ .finished) :
    Watches after id session pager := by
  obtain ⟨timer, found, running, does⟩ := watches
  exact ⟨f timer, by rw [now, found]; rfl, unfinished timer running, (action timer).trans does⟩

theorem of_same (same : after.timer? id = t.timer? id) :
    Watches after id session pager ↔ Watches t id session pager := by
  unfold Watches
  rw [same]

theorem elapse (millis : Nat) :
    Watches (t.elapse millis) id session pager ↔ Watches t id session pager :=
  of_same (t.timer?_elapse id millis)

theorem claim : Watches (t.claim other) id session pager ↔ Watches t id session pager := by
  have action (x : Timer Alarm) : (x.claimAt t.now).action = x.action := by
    unfold Timer.claimAt
    split <;> rfl
  have finished (x : Timer Alarm) : (x.claimAt t.now).stage = .finished ↔ x.stage = .finished := by
    by_cases due : x.stage = .waiting ∧ x.due ≤ t.now <;> simp [Timer.claimAt, due]
  have now := t.timer?_claim id other
  by_cases own : id = other
  · rw [if_pos own] at now
    constructor
    · exact fun watches => watches.of_map now action fun x => (finished x).mpr
    · exact fun watches => watches.map now action fun x => (finished x).not.mpr
  · rw [if_neg own] at now
    exact of_same now

theorem stop : Watches t.stop.2 id session pager ↔ Watches t id session pager := by
  have finished (x : Timer Alarm) : x.stop.stage = .finished ↔ x.stage = .finished := by
    by_cases waiting : x.stage = .waiting <;> simp [Timer.stop, waiting]
  have now := t.timer?_stop id
  split at now
  · exact of_same now
  · constructor
    · exact fun watches => watches.of_map now (fun _ => rfl) fun x => (finished x).mpr
    · exact fun watches => watches.map now (fun _ => rfl) fun x => (finished x).not.mpr

theorem schedule {delay : Nat} {action : Alarm} :
    Watches (t.schedule delay action).2 id session pager ↔
      (id = t.all.length ∧ action = .idle session pager) ∨ Watches t id session pager := by
  have now := t.timer?_schedule id delay action
  by_cases new : id = t.all.length
  · have unset : ¬ Watches t id session pager := by
      rintro ⟨timer, found, -⟩
      exact absurd (Timers.lt_of_timer? found) (by omega)
    rw [if_pos new] at now
    constructor
    · rintro ⟨timer, found, -, does⟩
      cases now.symm.trans found
      exact .inl ⟨new, does⟩
    · rintro (⟨-, rfl⟩ | watches)
      · refine ⟨_, now, ?_, rfl⟩
        dsimp only
        split <;> simp
      · exact absurd watches unset
  · rw [if_neg new] at now
    rw [of_same now]
    simp [new]

theorem action_finish (x : Timer Alarm) : x.finish.action = x.action := by
  unfold Timer.finish
  split <;> rfl

theorem of_cancel (watches : Watches (t.cancel other).2 id session pager) :
    Watches t id session pager := by
  have now := t.timer?_cancel id other
  split at now
  · refine watches.of_map now action_finish fun x done => ?_
    unfold Timer.finish
    split
    · exact done
    · rfl
  · exact (of_same now).mp watches

theorem cancel (watches : Watches t id session pager) (apart : id ≠ other) :
    Watches (t.cancel other).2 id session pager := by
  have now := t.timer?_cancel id other
  rw [if_neg apart] at now
  exact (of_same now).mpr watches

/-- A timer that was cancelled in time is finished. -/
theorem not_cancelled (timely : t.cancel id = (true, after)) : ¬ Watches after id session pager := by
  rintro ⟨timer, found, unfinished, -⟩
  have now := t.timer?_cancel id id
  have unclaimed := t.cancel_fst id
  rw [timely, if_pos rfl] at now
  rw [timely] at unclaimed
  obtain ⟨before, was, rfl⟩ := Option.map_eq_some_iff.mp (now.symm.trans found)
  rw [was] at unclaimed
  have free : ¬ before.isClaimed = true := by simpa using unclaimed
  exact unfinished (by rw [Timer.finish, if_neg free])

theorem action_run (x : Timer Alarm) : x.run.action = x.action := by
  unfold Timer.run
  split <;> rfl

theorem of_take? (watches : Watches (t.take? other).2 id session pager) :
    Watches t id session pager := by
  have now := t.timer?_take? id other
  split at now
  · refine watches.of_map now action_run fun x done => ?_
    simp [Timer.run, done]
  · exact (of_same now).mp watches

/-- A timer whose action is not taken watches on. -/
theorem take? (watches : Watches t id session pager)
    (untaken : (t.take? other).1 ≠ some (.idle session pager)) :
    Watches (t.take? other).2 id session pager := by
  have now := t.timer?_take? id other
  split at now
  · next own =>
    obtain ⟨timer, found, unfinished, action⟩ := watches
    have unclaimed : timer.stage ≠ .claimed := fun claimed =>
      untaken ((t.take?_eq_some_iff other).mpr ⟨timer, own ▸ found, claimed, action⟩)
    have same : timer.run = timer := if_neg unclaimed
    exact ⟨timer, by rw [now, found, Option.map_some, same], unfinished, action⟩
  · exact (of_same now).mpr watches

theorem of_taken (taken : (t.take? id).1 = some (.idle session pager)) :
    Watches t id session pager := by
  obtain ⟨timer, found, claimed, action⟩ := (t.take?_eq_some_iff id).mp taken
  exact ⟨timer, found, by simp [claimed], action⟩

end Watches

/-- The timer of the session's own cursor is the only one that is cancelled. -/
theorem State.watches_of_unset {p : State σ} {owner session : String} {id pager : Nat}
    (watches : Watches (p.unset owner) id session pager) : Watches p.timers id session pager := by
  unfold State.unset at watches
  split at watches
  · exact watches.of_cancel
  · exact watches

end GeoSearch.Paging
