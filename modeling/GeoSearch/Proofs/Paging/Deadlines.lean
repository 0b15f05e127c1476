import GeoSearch.Proofs.Paging.Alarms
import GeoSearch.Proofs.Paging.Position
/-!
Timers of kept cursors. A timer names no more than a session and a pager, and a pager has a new timer
for each of its pages. But a page is handed out only when the timer of its cursor is cancelled, so a
timer that is not finished is the one of the cursor that is kept now, or its pager is given up.
-/
namespace GeoSearch.Paging

namespace Run

variable {b : Backend σ} {r after : Run σ} {session : String} {slot : Option Slot}
  {released : List (Nat × Cursor)} {issued : Nat}

/-- The timer of a kept cursor is set, and there is no other for its pager. While a page of a pager is
out there is none. -/
structure Timed (r : Run σ) : Prop where
  kept : ∀ session binding, r.state.slot? session = some (.live binding) →
    Watches r.state.timers binding.timer session binding.pager
  own : ∀ id session pager, Watches r.state.timers id session pager →
    pager < r.state.store.issued ∧ (∀ page ∈ r.pages, page.pager ≠ pager) ∧
      ∀ other binding, r.state.slot? other = some (.live binding) → binding.pager = pager →
        binding.timer = id

namespace Timed

/-- A move that sets no timer, keeps no further cursor, and hands out pages of new pagers at most. -/
theorem loosen (timed : Timed r)
    (timers : ∀ id session pager, Watches after.state.timers id session pager →
      Watches r.state.timers id session pager)
    (issued : r.state.store.issued ≤ after.state.store.issued)
    (pages : ∀ page ∈ after.pages,
      (∃ old ∈ r.pages, old.pager = page.pager) ∨ r.state.store.issued ≤ page.pager)
    (slots : ∀ session binding, after.state.slot? session = some (.live binding) →
      r.state.slot? session = some (.live binding) ∧
        Watches after.state.timers binding.timer session binding.pager) : Timed after where
  kept session binding live := (slots session binding live).2
  own id session pager watches := by
    obtain ⟨before, apart, only⟩ := timed.own id session pager (timers id session pager watches)
    refine ⟨by omega, ?_, ?_⟩
    · intro page member same
      rcases pages page member with ⟨old, was, pager⟩ | new
      · exact apart old was (pager.trans same)
      · omega
    · exact fun other binding live => only other binding (slots other binding live).1

theorem watches_unset (timed : Timed r) {other : String} {binding : Binding}
    (live : r.state.slot? other = some (.live binding)) (apart : other ≠ session) :
    Watches (r.state.unset session) binding.timer other binding.pager := by
  have watches := timed.kept other binding live
  unfold State.unset
  split
  · next held found =>
    refine watches.cancel fun same => apart ?_
    exact (watches.agree (same ▸ timed.kept session held found)).1
  · exact watches

/-- The session gives up what it holds. -/
theorem giveUp (timed : Timed r)
    (change : Change r.state after.state issued session slot released)
    (unkept : ∀ binding, slot ≠ some (.live binding))
    (timers : after.state.timers = r.state.unset session)
    (pages : ∀ page ∈ after.pages,
      (∃ old ∈ r.pages, old.pager = page.pager) ∨ r.state.store.issued ≤ page.pager) :
    Timed after := by
  refine timed.loosen ?_ (by rw [change.issued]; omega) pages ?_
  · intro id session pager watches
    rw [timers] at watches
    exact State.watches_of_unset watches
  · intro other binding live
    obtain ⟨apart, before⟩ := change.live_elsewhere unkept live
    exact ⟨before, timers ▸ timed.watches_unset before apart⟩

/-- Nothing happens to the timers. -/
theorem ease (timed : Timed r)
    (change : Change r.state after.state issued session slot released)
    (unkept : ∀ binding, slot = some (.live binding) →
      r.state.slot? session = some (.live binding))
    (timers : ∀ id session pager, Watches after.state.timers id session pager ↔
      Watches r.state.timers id session pager)
    (pages : ∀ page ∈ after.pages, ∃ old ∈ r.pages, old.pager = page.pager) : Timed after := by
  refine timed.loosen (fun id session pager => (timers id session pager).mp)
    (by rw [change.issued]; omega) (fun page member => .inl (pages page member)) ?_
  intro other binding live
  have before := change.live_before unkept live
  exact ⟨before, (timers _ _ _).mpr (timed.kept other binding before)⟩

/-- A rejected request touches no timer, though the cursor of one that was late is kept no more. -/
theorem reject (timed : Timed r) {q : PageRequest} {e : Error} {state : State σ}
    (answer : r.state.begin b q = (.error e, state)) : Timed (r.setState state) := by
  have timers := State.timers_error answer
  have lapse := State.begin_error answer
  refine timed.loosen (fun _ _ _ watches => ?_) (Nat.le_of_eq lapse.issued.symm)
    (fun page member => .inl ⟨page, member, rfl⟩) fun session binding live => ?_
  · exact timers ▸ watches
  · have before := lapse.live_before live
    exact ⟨before, timers ▸ timed.kept session binding before⟩

/-- A page is handed out once the timer of its cursor is cancelled. -/
theorem resume (timed : Timed r) {q : PageRequest} {page : Page} {state : State σ}
    (answer : r.state.begin b q = (.ok (.resume page), state)) :
    Timed { r with state, pages := page :: r.pages } := by
  obtain ⟨binding, live, -, -, -, rfl, change⟩ := State.begin_resume answer
  obtain ⟨held, kept, cancelled⟩ := State.timers_resume answer
  cases live.symm.trans kept
  have timers : state.timers = r.state.unset q.session := by
    simp only [State.unset, live, cancelled]
  have others (other : String) (now : Binding)
      (found : state.slot? other = some (.live now)) :
      other ≠ q.session ∧ r.state.slot? other = some (.live now) :=
    change.live_elsewhere (fun _ is => nomatch is) found
  refine ⟨?_, ?_⟩
  · intro other now found
    obtain ⟨apart, before⟩ := others other now found
    change Watches state.timers _ _ _
    exact timers ▸ timed.watches_unset before apart
  · intro id session pager watches
    change Watches state.timers id session pager at watches
    have before := timed.own id session pager (State.watches_of_unset (timers ▸ watches))
    refine ⟨by rw [change.issued]; exact before.1, ?_, ?_⟩
    · intro page member
      rcases List.mem_cons.mp member with rfl | old
      · -- the timer of the page is finished, and there was no other
        rintro rfl
        have own := before.2.2 q.session binding live rfl
        exact Watches.not_cancelled cancelled (own ▸ watches)
      · exact before.2.1 page old
    · exact fun other now found => before.2.2 other now (others other now found).2

/-- A page that is closed takes its pager along: to the slot, with a new timer, or away. -/
theorem close (timed : Timed r) (custody : Custody r) (b : Backend σ) {position : Nat} {page : Page}
    (found : r.pages[position]? = some page) (closed : List (Nat × Connection σ)) :
    Timed
      { r with state := (r.state.closePage b page).2, pages := r.pages.eraseIdx position, closed } := by
  have inside : page ∈ r.pages := List.mem_of_getElem? found
  obtain ⟨slot, released, change⟩ := State.changes_closePage b r.state page
  rcases State.closePage_cases b r.state page with
    ⟨left, timers⟩ | ⟨binding, holds, kept, pager, timer, timers⟩
  · refine timed.ease change ?_ ?_ ?_
    · rintro binding rfl
      exact (State.vacated_eq_some (left.symm.trans change.own)).1
    · intro id session pager
      change Watches (r.state.closePage b page).2.timers id session pager ↔ _
      rw [timers]
    · exact fun other member => ⟨other, List.mem_of_mem_eraseIdx member, rfl⟩
  · have live (other : String) (now : Binding)
        (is : (r.state.closePage b page).2.slot? other = some (.live now)) :
        other = page.session ∧ now = binding ∨
          other ≠ page.session ∧ r.state.slot? other = some (.live now) := by
      rcases change.held_cases is with ⟨rfl, -⟩ | elsewhere
      · cases kept.symm.trans is
        exact .inl ⟨rfl, rfl⟩
      · exact .inr elsewhere
    refine ⟨?_, ?_⟩
    · intro other now is
      change Watches (r.state.closePage b page).2.timers _ _ _
      rw [timers, Watches.schedule]
      rcases live other now is with ⟨rfl, rfl⟩ | ⟨-, before⟩
      · exact .inl ⟨timer, by rw [pager]⟩
      · exact .inr (timed.kept other now before)
    · intro id session holder watches
      change Watches (r.state.closePage b page).2.timers _ _ _ at watches
      rw [timers, Watches.schedule] at watches
      rw [change.issued]
      rcases watches with ⟨new, action⟩ | old
      · -- no other page of the pager was out
        cases action
        refine ⟨custody.pager_lt inside, ?_, ?_⟩
        · exact fun other member => custody.pager_ne_of_mem_eraseIdx found member
        · intro other now is same
          rcases live other now is with ⟨-, rfl⟩ | ⟨-, before⟩
          · exact timer.trans new.symm
          · exact absurd same (custody.pager_ne_of_live before inside)
      · obtain ⟨before, apart, only⟩ := timed.own id session holder old
        refine ⟨before, fun other member => apart other (List.mem_of_mem_eraseIdx member), ?_⟩
        intro other now is same
        rcases live other now is with ⟨-, rfl⟩ | ⟨-, was⟩
        · exact absurd (pager.symm.trans same) (apart page inside)
        · exact only other now was same

/-- An alarm for a cursor that is kept takes its own timer's action. -/
theorem timer_of_taken (timed : Timed r) {timer pager : Nat} {other : String} {binding : Binding}
    (taken : (r.state.timers.take? timer).1 = some (.idle session pager))
    (live : r.state.slot? other = some (.live binding)) (same : binding.pager = pager) :
    binding.timer = timer :=
  (timed.own timer session pager (.of_taken taken)).2.2 other binding live same

/-- A timer's action is taken. What is kept on has another timer. -/
theorem take (timed : Timed r) (timer : Nat) (pages : after.pages = r.pages)
    (timers : after.state.timers = (r.state.timers.take? timer).2)
    (issued : after.state.store.issued = r.state.store.issued)
    (slots : ∀ session binding, after.state.slot? session = some (.live binding) →
      r.state.slot? session = some (.live binding) ∧
        (r.state.timers.take? timer).1 ≠ some (.idle session binding.pager)) : Timed after := by
  refine timed.loosen ?_ (Nat.le_of_eq issued.symm)
    (fun page member => .inl ⟨page, pages ▸ member, rfl⟩) ?_
  · intro id session pager watches
    rw [timers] at watches
    exact watches.of_take?
  · intro session binding live
    obtain ⟨before, untaken⟩ := slots session binding live
    refine ⟨before, ?_⟩
    rw [timers]
    exact (timed.kept session binding before).take? untaken

/-- An alarm leaves no cursor of its pager. -/
theorem ring (timed : Timed r) (b : Backend σ) {timer pager : Nat}
    (taken : (r.state.timers.take? timer).1 = some (.idle session pager)) :
    Timed (r.setState
      (State.expire b { r.state with timers := (r.state.timers.take? timer).2 } session pager)) := by
  have lapse := State.change_expire b r.state (r.state.timers.take? timer).2 session pager
  refine timed.take timer rfl (State.timers_expire ..) lapse.issued fun other binding live => ?_
  have before := lapse.live_before live
  refine ⟨before, ?_⟩
  -- otherwise the cursor would not be kept any more
  rw [taken]
  rintro ⟨⟩
  have expired := State.slot_expire b
    (p := { r.state with timers := (r.state.timers.take? timer).2 }) before
  cases expired.symm.trans live

theorem act (timed : Timed r) (custody : Custody r) (b : Backend σ) (move : Move) :
    Timed (r.act b move) := by
  have same (page : Page) (member : page ∈ r.pages) : ∃ old ∈ r.pages, old.pager = page.pager :=
    ⟨page, member, rfl⟩
  have still (timers : Timers Alarm) : Change r.state { r.state with timers } 0 ""
      (r.state.slot? "") [] := (Change.refl r.state "").aside rfl rfl
  have effect := effect b r move
  generalize r.act b move = after at effect ⊢
  cases effect with
  | rejected answer => exact timed.reject answer
  | granted answer =>
    refine timed.giveUp (State.begin_fresh answer).2 ?_ (State.timers_fresh answer)
      fun page member => .inl (same page member)
    rintro binding ⟨⟩
  | resumed answer => exact timed.resume answer
  | ungranted | unread | unclosed | undropped => exact timed
  | @unopened q s e connection granted opening =>
    have change : Change r.state { r.state with connection } 0 "" (r.state.slot? "") [] :=
      (Change.refl r.state "").aside rfl (Cursor.open?_error opening)
    exact timed.ease change (fun _ same => same) (fun _ _ _ => Iff.rfl) same
  | @started q s cursor connection granted opening =>
    refine timed.giveUp (State.change_opened opening q) ?_
      (State.timers_start b { r.state with connection } q cursor) fun page member => ?_
    · rintro binding ⟨⟩
    · rcases List.mem_cons.mp member with rfl | old
      · exact .inr (Nat.le_refl _)
      · exact .inl (same page old)
  | @read position page hit cursor found next =>
    refine timed.ease (Change.refl r.state "") (fun _ same => same) (fun _ _ _ => Iff.rfl) ?_
    intro other member
    rcases List.mem_or_eq_of_mem_set member with before | rfl
    · exact ⟨other, before, rfl⟩
    · exact ⟨page, List.mem_of_getElem? found, rfl⟩
  | closed found => exact timed.close custody b found _
  | @dropped position page found =>
    refine timed.ease (State.change_dropPage b r.state page) ?_ ?_ ?_
    · exact fun binding left => (State.vacated_eq_some left).1
    · intro id session pager
      change Watches (r.state.vacate page).timers id session pager ↔ _
      rw [State.timers_vacate]
    · exact fun other member => ⟨other, List.mem_of_mem_eraseIdx member, rfl⟩
  | left session =>
    refine timed.giveUp (State.change_clear b r.state session) ?_
      (State.timers_clear b r.state session) fun page member => .inl (same page member)
    rintro binding ⟨⟩
  | elapsed millis =>
    exact timed.ease (still _) (fun _ same => same) (fun _ _ _ => Watches.elapse millis) same
  | claimed timer =>
    exact timed.ease (still _) (fun _ same => same) (fun _ _ _ => Watches.claim) same
  | @silent timer silent =>
    exact timed.take timer rfl rfl rfl fun session binding live => ⟨live, silent session binding.pager⟩
  | rang taken => exact timed.ring b taken
  | stopped => exact timed.ease (still _) (fun _ same => same) (fun _ _ _ => Watches.stop) same

theorem step (timed : Timed r) (custody : Custody r) (b : Backend σ) (move : Move) :
    Timed (r.step b move) := by
  have after := timed.act custody b move
  exact ⟨after.kept, after.own⟩

theorem run (timed : Timed r) (custody : Custody r) (b : Backend σ) (moves : List Move) :
    Timed (r.run b moves) := by
  induction moves generalizing r with
  | nil => exact timed
  | cons move later ih => exact ih (timed.step custody b move) (custody.step b move)

end Timed

/-! ### The beginning -/

theorem Custody.grant (custody : Custody r) (granted : List PageRequest) :
    Custody { r with granted } :=
  ⟨custody.distinct, custody.started, custody.placed, custody.genuine, custody.releases, custody.busy⟩

/-- No timer was set for a pager. -/
theorem action_ne_of_unset {timers : Timers Alarm}
    (unset : ∀ timer ∈ timers.all, ∀ session pager, timer.action ≠ .idle session pager) {id : Nat}
    {timer : Timer Alarm} (set : timers.timer? id = some timer) (session : String) (pager : Nat) :
    timer.action ≠ .idle session pager := by
  obtain ⟨entry, found, rfl⟩ := Option.map_eq_some_iff.mp set
  exact unset entry (List.mem_of_getElem? found) session pager

theorem timed_initial (ttlMillis : Nat) (timers : Timers Alarm) (index : σ)
    (granted : List PageRequest)
    (unset : ∀ timer ∈ timers.all, ∀ session pager, timer.action ≠ .idle session pager) :
    Timed { initial ttlMillis timers index with granted } where
  kept _ _ live := by cases live
  own := by
    rintro id session pager ⟨timer, set, -, action⟩
    exact absurd action (action_ne_of_unset unset set session pager)

end Run

end GeoSearch.Paging
