import GeoSearch.Proofs.Paging.Slots
import GeoSearch.Proofs.Scroll.Cursor
/-!
What each operation of a pager store does: it changes the slot of one session at most, and releases
certain cursors. Timers and log are not told apart.
-/
namespace GeoSearch.Paging

/-- From one state to another only the slot of one session changed, to the given one, so many pagers
were issued, and just these cursors were released. -/
structure Change (p after : State σ) (issued : Nat) (session : String) (slot : Option Slot)
    (released : List (Nat × Cursor)) : Prop where
  own : after.slot? session = slot
  others : ∀ other, other ≠ session → after.slot? other = p.slot? other
  distinct : p.store.slots.Distinct → after.store.slots.Distinct
  issued : after.store.issued = p.store.issued + issued
  releases : after.connection.releases =
    p.connection.releases ++ released.flatMap fun cursor => cursor.2.owed

namespace Change

variable {p q : State σ} {issued : Nat} {session : String} {slot : Option Slot}
  {released : List (Nat × Cursor)}

theorem refl (p : State σ) (session : String) : Change p p 0 session (p.slot? session) [] :=
  ⟨rfl, fun _ _ => rfl, id, rfl, by simp⟩

theorem erase (p : State σ) (session : String) :
    Change p (p.setSlots (p.store.slots.erase session)) 0 session none [] where
  own := Slots.get?_erase_self ..
  others _ distinct := Slots.get?_erase_of_ne _ distinct
  distinct before := Slots.distinct_erase before session
  issued := rfl
  releases := by simp [State.setSlots]

theorem put (p : State σ) (session : String) (slot : Slot) :
    Change p (p.setSlots (p.store.slots.put session slot)) 0 session (some slot) [] where
  own := Slots.get?_put_self ..
  others _ distinct := Slots.get?_put_of_ne _ slot distinct
  distinct before := Slots.distinct_put before session slot
  issued := rfl
  releases := by simp [State.setSlots]

/-! What a session holds afterwards was put into the slot, or was held before. -/

section

variable {other : String} {held : Slot} {binding : Binding}

theorem held_cases (change : Change p q issued session slot released)
    (found : q.slot? other = some held) :
    other = session ∧ slot = some held ∨ other ≠ session ∧ p.slot? other = some held := by
  by_cases own : other = session
  · subst own
    exact .inl ⟨rfl, change.own.symm.trans found⟩
  · exact .inr ⟨own, (change.others other own).symm.trans found⟩

theorem live_elsewhere (change : Change p q issued session slot released)
    (unkept : ∀ binding, slot ≠ some (.live binding))
    (live : q.slot? other = some (.live binding)) :
    other ≠ session ∧ p.slot? other = some (.live binding) :=
  (change.held_cases live).resolve_left fun put => unkept binding put.2

theorem live_before (change : Change p q issued session slot released)
    (unkept : ∀ binding, slot = some (.live binding) → p.slot? session = some (.live binding))
    (live : q.slot? other = some (.live binding)) : p.slot? other = some (.live binding) := by
  rcases change.held_cases live with ⟨rfl, put⟩ | ⟨-, before⟩
  · exact unkept binding put
  · exact before

end

/-- Timers, log and counters may change as well. -/
theorem aside (change : Change p q issued session slot released) {after : State σ}
    (store : after.store = q.store)
    (releases : after.connection.releases = q.connection.releases) :
    Change p after issued session slot released where
  own := by rw [← change.own, State.slot?, store]; rfl
  others other distinct := by rw [← change.others other distinct, State.slot?, store]; rfl
  distinct before := store ▸ change.distinct before
  issued := store ▸ change.issued
  releases := releases.trans change.releases

theorem report (change : Change p q issued session slot released) (e : Log.Event) :
    Change p (q.report e) issued session slot released := change.aside rfl rfl

theorem count (change : Change p q issued session slot released) (f : Metrics → Metrics) :
    Change p (q.count f) issued session slot released := change.aside rfl rfl

theorem cancel (change : Change p q issued session slot released) (timer : Nat) :
    Change p (q.cancel timer) issued session slot released := change.aside rfl rfl

/-- Timers, log and counters may have changed before. -/
theorem later (change : Change q p issued session slot released) {before : State σ}
    (store : before.store = q.store)
    (releases : before.connection.releases = q.connection.releases) :
    Change before p issued session slot released where
  own := change.own
  others other distinct := by rw [change.others other distinct, State.slot?, ← store]; rfl
  distinct same := change.distinct (store ▸ same)
  issued := by rw [store]; exact change.issued
  releases := by rw [releases]; exact change.releases

theorem release (change : Change p q issued session slot released) (b : Backend σ) (pager : Nat)
    (cursor : Cursor) :
    Change p (q.releaseCursor b cursor) issued session slot (released ++ [(pager, cursor)]) where
  own := change.own
  others := change.others
  distinct := change.distinct
  issued := change.issued
  releases := by simp [State.releaseCursor, change.releases, List.append_assoc]

end Change

inductive Lapse (p after : State σ) (session : String) : Prop
  | kept (change : Change p after 0 session (p.slot? session) [])
  | expired {binding : Binding} (live : p.slot? session = some (.live binding))
      (change : Change p after 0 session (some .expired) [(binding.pager, binding.cursor)])

namespace Lapse

variable {p after : State σ} {session other : String} {binding : Binding}

theorem others (lapse : Lapse p after session) :
    ∀ other, other ≠ session → after.slot? other = p.slot? other := by
  cases lapse with
  | kept change => exact change.others
  | expired live change => exact change.others

theorem issued (lapse : Lapse p after session) : after.store.issued = p.store.issued := by
  cases lapse with
  | kept change => exact change.issued
  | expired live change => exact change.issued

theorem live_before (lapse : Lapse p after session)
    (live : after.slot? other = some (.live binding)) : p.slot? other = some (.live binding) := by
  cases lapse with
  | kept change => exact change.live_before (fun _ same => same) live
  | expired held change => exact change.live_before (fun _ is => nomatch is) live

end Lapse

theorem Binding.verdict_resume {binding other : Binding} {r : PageRequest}
    (verdict : binding.verdict r = .resume other) :
    other = binding ∧ r.key = binding.key ∧ r.start = binding.next ∧ r.size = binding.size := by
  unfold Binding.verdict at verdict
  split at verdict
  · split at verdict <;> cases verdict
  · next key =>
    split at verdict
    · cases verdict
    · next start =>
      split at verdict
      · cases verdict
      · next size =>
        cases verdict
        exact ⟨rfl, (not_not.mp key).symm, not_not.mp start, not_not.mp size⟩

def Binding.page (binding : Binding) (session : String) : Page where
  session := session
  pager := binding.pager
  key := binding.key
  start := binding.next
  size := binding.size
  cursor := binding.cursor

def PageRequest.firstPage (r : PageRequest) (pager : Nat) (cursor : Cursor) : Page where
  session := r.session
  pager := pager
  key := r.key
  start := r.start
  size := r.size
  cursor := cursor

namespace Slot

variable {slot : Option Slot} {binding : Binding} {r : PageRequest}

theorem verdict_resume (verdict : Slot.verdict r slot = .resume binding) :
    slot = some (.live binding) ∧
      r.key = binding.key ∧ r.start = binding.next ∧ r.size = binding.size := by
  unfold Slot.verdict at verdict
  split at verdict
  · split at verdict <;> cases verdict
  · split at verdict <;> cases verdict
  · split at verdict <;> cases verdict
  · next kept =>
    obtain ⟨rfl, agrees⟩ := kept.verdict_resume verdict
    exact ⟨rfl, agrees⟩

theorem verdict_fresh (verdict : Slot.verdict r slot = .fresh) : r.start = 0 := by
  unfold Slot.verdict at verdict
  split at verdict
  · split at verdict
    · assumption
    · cases verdict
  · split at verdict
    · assumption
    · cases verdict
  · split at verdict
    · next first => exact first.1
    · cases verdict
  · unfold Binding.verdict at verdict
    split at verdict
    · split at verdict
      · assumption
      · cases verdict
    · split at verdict
      · cases verdict
      · split at verdict <;> cases verdict

end Slot

namespace State

variable {b : Backend σ} {p after : State σ} {r : PageRequest} {page : Page}

theorem kept_eq_nil {slot : Option Slot} (unkept : ∀ binding, slot ≠ some (.live binding)) :
    Slot.kept slot = [] := by
  unfold Slot.kept
  split
  · next binding => exact absurd rfl (unkept binding)
  · rfl

/-- The emptied slot's cursor is released. -/
theorem change_clear (b : Backend σ) (p : State σ) (session : String) :
    Change p (p.clear b session) 0 session none (Slot.kept (p.slot? session)) := by
  have erased := Change.erase p session
  unfold clear
  dsimp only
  split
  · next binding found =>
    rw [found]
    exact (erased.cancel binding.timer).release b binding.pager binding.cursor
  · next unkept =>
    rw [kept_eq_nil unkept]
    exact erased

inductive Reply (b : Backend σ) (p : State σ) (r : PageRequest) :
    Except Error Opening × State σ → Prop
  | fresh (verdict : Slot.verdict r (p.slot? r.session) = .fresh) :
      Reply b p r (.ok .fresh, p.clear b r.session)
  | reject {e : Error} (verdict : Slot.verdict r (p.slot? r.session) = .reject e) :
      Reply b p r (.error e,
        (p.count fun m => { m with pagerRejections := m.pagerRejections + 1 }).report
          (.pagerRejected r.session r.start e.message))
  /-- the timer got to the cursor first -/
  | lose {binding : Binding} (verdict : Slot.verdict r (p.slot? r.session) = .resume binding)
      (late : (p.timers.cancel binding.timer).1 = false) :
      Reply b p r (.error (.notFound r.session),
        ((p.lose b r.session binding).count fun m =>
          { m with pagerRejections := m.pagerRejections + 1 }).report
            (.pagerRejected r.session r.start (Error.notFound r.session).message))
  | resume {binding : Binding} {timers : Timers Alarm}
      (verdict : Slot.verdict r (p.slot? r.session) = .resume binding)
      (timely : p.timers.cancel binding.timer = (true, timers)) :
      Reply b p r (.ok (.resume (binding.page r.session)),
        (State.setSlots { p with timers } (p.store.slots.put r.session
          (binding.page r.session).slot)).report (.pagerRetrieved r.session r.start))

theorem reply (b : Backend σ) (p : State σ) (r : PageRequest) : Reply b p r (p.begin b r) := by
  unfold begin consider
  cases verdict : Slot.verdict r (p.slot? r.session) with
  | fresh => exact .fresh verdict
  | reject e => exact .reject verdict
  | resume binding =>
    dsimp only
    rcases cancelled : p.timers.cancel binding.timer with ⟨_ | _, timers⟩
    · exact .lose verdict (congrArg Prod.fst cancelled)
    · exact .resume verdict cancelled

/-- A request is answered with fresh if it is for a first page. The session then holds nothing. -/
theorem begin_fresh (answer : p.begin b r = (.ok .fresh, after)) :
    r.start = 0 ∧ Change p after 0 r.session none (Slot.kept (p.slot? r.session)) := by
  have reply := reply b p r
  rw [answer] at reply
  cases reply with
  | fresh verdict => exact ⟨Slot.verdict_fresh verdict, change_clear b p r.session⟩

/-- A request that is resumed asks for exactly the page that is next in the session's slot. That page
takes the slot. -/
theorem begin_resume (answer : p.begin b r = (.ok (.resume page), after)) :
    ∃ binding, p.slot? r.session = some (.live binding) ∧
      r.key = binding.key ∧ r.start = binding.next ∧ r.size = binding.size ∧
      page = binding.page r.session ∧
      Change p after 0 r.session (some page.slot) [] := by
  have reply := reply b p r
  rw [answer] at reply
  cases reply with
  | resume verdict timely =>
    obtain ⟨kept, key, start, size⟩ := Slot.verdict_resume verdict
    exact ⟨_, kept, key, start, size, rfl, (Change.put p r.session _).aside rfl rfl⟩

/-- A rejected request changes nothing, unless the timer got to the cursor first. -/
theorem begin_error {error : Error} (answer : p.begin b r = (.error error, after)) :
    Lapse p after r.session := by
  have reply := reply b p r
  rw [answer] at reply
  cases reply with
  | reject verdict => exact .kept ((Change.refl p r.session).aside rfl rfl)
  | @lose binding verdict late =>
    have expired := (Change.put p r.session .expired).count fun m =>
      { m with pagerExpiries := m.pagerExpiries + 1 }
    exact .expired (Slot.verdict_resume verdict).1
      (((expired.release b binding.pager binding.cursor).count _).report _)

/-- A pager is issued, and its first page takes the slot. The cursor kept there is released. -/
theorem change_start (b : Backend σ) (p : State σ) (r : PageRequest) (cursor : Cursor) :
    ∃ after, p.start b r cursor = (r.firstPage p.store.issued cursor, after) ∧
      Change p after 1 r.session (some (r.firstPage p.store.issued cursor).slot)
        (Slot.kept (p.slot? r.session)) := by
  refine ⟨_, rfl, ?_⟩
  have put := Change.put p r.session (r.firstPage p.store.issued cursor).slot
  have issued : Change p
      { p with
        store := { p.store with
          slots := p.store.slots.put r.session (r.firstPage p.store.issued cursor).slot
          issued := p.store.issued + 1 } } 1 r.session
      (some (r.firstPage p.store.issued cursor).slot) [] :=
    { put with issued := rfl }
  split
  · next binding found =>
    rw [found]
    exact (issued.cancel binding.timer).release b binding.pager binding.cursor
  · next unkept =>
    rw [kept_eq_nil unkept]
    exact issued

def vacated (p : State σ) (page : Page) : Option Slot :=
  if p.isBusyWith page.session page.pager then none else p.slot? page.session

theorem change_vacate (p : State σ) (page : Page) :
    Change p (p.vacate page) 0 page.session (p.vacated page) [] := by
  unfold vacate vacated
  split
  · exact Change.erase p page.session
  · exact Change.refl p page.session

theorem busy_of_isBusyWith {session : String} {pager : Nat}
    (holds : p.isBusyWith session pager = true) :
    ∃ key start, p.slot? session = some (.busy pager key start) := by
  unfold isBusyWith at holds
  split at holds
  · next holder key start found =>
    exact ⟨key, start, by rw [found, eq_of_beq holds]⟩
  · cases holds

/-- Giving a page up does not touch a cursor that is kept for the session. -/
theorem kept_vacated (p : State σ) (page : Page) :
    Slot.kept (p.vacated page) = Slot.kept (p.slot? page.session) := by
  unfold vacated
  split
  · next holds =>
    obtain ⟨key, start, found⟩ := busy_of_isBusyWith holds
    rw [found]
    rfl
  · rfl

/-- A slot that is left is not the one of the page. -/
theorem vacated_eq_some {slot : Slot} (left : p.vacated page = some slot) :
    p.slot? page.session = some slot ∧ slot ≠ page.slot := by
  unfold vacated at left
  split at left
  · cases left
  · next lost =>
    refine ⟨left, ?_⟩
    rintro rfl
    simp [isBusyWith, left, Page.slot] at lost

theorem change_dropPage (b : Backend σ) (p : State σ) (page : Page) :
    Change p (p.dropPage b page) 0 page.session (p.vacated page) [(page.pager, page.cursor)] :=
  (change_vacate p page).release b page.pager page.cursor

/-- A page that still has its place leaves its advanced cursor there. -/
theorem change_keep (cursor : Cursor) (holds : p.isBusyWith page.session page.pager = true) :
    ∃ timer, Change p (p.keep b page cursor) 0 page.session
      (some (.live { pager := page.pager, key := page.key, next := page.next,
                     size := page.size, cursor, timer })) [] := by
  unfold keep
  rw [if_pos holds]
  rcases p.timers.schedule p.store.ttlMillis (.idle page.session page.pager) with ⟨timer, timers⟩
  exact ⟨timer, (Change.put p page.session _).aside rfl rfl⟩

/-- The cursor of a page that lost its place to another is released. -/
theorem change_keep_lost (cursor : Cursor) (lost : p.isBusyWith page.session page.pager = false) :
    Change p (p.keep b page cursor) 0 page.session (p.vacated page) [(page.pager, cursor)] := by
  have left : p.vacated page = p.slot? page.session := by simp [vacated, lost]
  unfold keep
  rw [lost, left]
  exact (Change.refl p page.session).release b page.pager cursor

/-- A page that is closed gives its cursor to the slot it holds, advanced once. If there is nothing
to advance to, the advance fails, or the slot is no longer its own, the cursor is released. -/
theorem change_closePage (b : Backend σ) (p : State σ) (page : Page) :
    (∃ fetched cursor connection timer,
      p.isBusyWith page.session page.pager = true ∧ page.cursor.isFinal = false ∧
      page.cursor.advance b p.connection = (.ok fetched, cursor, connection) ∧
      Change p (p.closePage b page).2 0 page.session
        (some (.live { pager := page.pager, key := page.key, next := page.next,
                       size := page.size, cursor, timer })) []) ∨
    Change p (p.closePage b page).2 0 page.session (p.vacated page)
      [(page.pager, (page.cursor.advance b p.connection).2.1)] := by
  unfold closePage
  cases final : page.cursor.isFinal with
  | true =>
    have unmoved : (page.cursor.advance b p.connection).2.1 = page.cursor := by
      simp [Cursor.advance, final]
    rw [if_pos rfl, unmoved]
    exact .inr (((change_vacate p page).release b page.pager page.cursor).report _)
  | false =>
    rw [if_neg Bool.false_ne_true]
    have same := Cursor.releases_advance b page.cursor p.connection
    rcases advanced : page.cursor.advance b p.connection with ⟨e | fetched, cursor, connection⟩
    · have vacated := (change_vacate { p with connection } page).release b page.pager cursor
      rw [advanced] at same
      exact .inr (vacated.later rfl same.symm)
    · rw [advanced] at same
      cases holds : p.isBusyWith page.session page.pager with
      | true =>
        obtain ⟨timer, kept⟩ := change_keep (b := b) (p := { p with connection }) cursor holds
        exact .inl ⟨fetched, cursor, connection, timer, rfl, rfl, rfl, kept.later rfl same.symm⟩
      | false =>
        have released := change_keep_lost (b := b) (p := { p with connection }) cursor holds
        exact .inr (released.later rfl same.symm)

theorem changes_closePage (b : Backend σ) (p : State σ) (page : Page) :
    ∃ slot released, Change p (p.closePage b page).2 0 page.session slot released := by
  rcases change_closePage b p page with ⟨_, _, _, _, _, _, _, change⟩ | change <;>
    exact ⟨_, _, change⟩

/-- An expired slot's cursor is released. Any other slot is let alone. -/
theorem change_expire (b : Backend σ) (p : State σ) (timers : Timers Alarm) (session : String)
    (pager : Nat) :
    Lapse p (State.expire b { p with timers } session pager) session := by
  have same : Change p { p with timers } 0 session (p.slot? session) [] :=
    (Change.refl p session).aside rfl rfl
  unfold expire
  split
  · next binding found =>
    split
    · have expired := (Change.put { p with timers } session .expired).count fun m =>
        { m with pagerExpiries := m.pagerExpiries + 1 }
      have reported := expired.report (.pagerExpired session binding.next)
      have released := reported.release b binding.pager binding.cursor
      exact .expired found (released.later rfl rfl)
    · exact .kept same
  · exact .kept same

end State

end GeoSearch.Paging
