import GeoSearch.Paging.Clock
import GeoSearch.Proofs.Paging.Alarms
import GeoSearch.Proofs.Paging.Rejection
/-!
What one move can do to what a session holds, and to timers.
-/
namespace GeoSearch.Paging.Run

inductive Fate (b : Backend σ) (r : Run σ) (after : State σ) (session : String) : Move → Prop
  /-- nothing -/
  | same {move : Move} (unended : ¬ r.Ends b session move)
      (slot : after.slot? session = r.state.slot? session) : Fate b r after session move
  /-- it is given up, or taken by a page -/
  | ended {move : Move} (ends : r.Ends b session move)
      (unkept : ∀ binding, after.slot? session ≠ some (.live binding))
      (unexpired : after.slot? session ≠ some .expired) : Fate b r after session move
  /-- the timer of a kept cursor was faster than a request -/
  | lost {q : PageRequest} {binding : Binding}
      (live : r.state.slot? session = some (.live binding))
      (late : (r.state.timers.cancel binding.timer).1 = false)
      (slot : after.slot? session = some .expired) : Fate b r after session (.request q)
  /-- the alarm of a kept cursor's pager -/
  | rang {timer : Nat} {binding : Binding}
      (live : r.state.slot? session = some (.live binding))
      (taken : (r.state.timers.take? timer).1 = some (.idle session binding.pager))
      (slot : after.slot? session = some .expired) : Fate b r after session (.ring timer)
  /-- the page that held the place is gone -/
  | vacated {move : Move} (gone : ∃ position, move = .close position ∨ move = .drop position)
      (busy : ∃ pager key start, r.state.slot? session = some (.busy pager key start))
      (slot : after.slot? session = none) : Fate b r after session move
  /-- the cursor of the page that held the place is kept, with a timer of its own -/
  | cached {position : Nat} {binding : Binding}
      (busy : ∃ pager key start, r.state.slot? session = some (.busy pager key start))
      (page : ∃ page ∈ r.pages, page.session = session ∧ page.pager = binding.pager)
      (slot : after.slot? session = some (.live binding))
      (new : binding.timer = r.state.timers.all.length)
      (timers : after.timers = (r.state.timers.schedule r.state.store.ttlMillis
        (.idle session binding.pager)).2) : Fate b r after session (.close position)

variable {b : Backend σ} {r after : Run σ} {session : String} {move : Move}

namespace Fate

variable {state : State σ} {owner : String} {slot : Option Slot} {issued : Nat}
  {released : List (Nat × Cursor)}

/-- The slot of one session is given up or taken. Nothing becomes of what others hold. -/
theorem of_ended (change : Change r.state state issued owner slot released)
    (unkept : ∀ binding, slot ≠ some (.live binding)) (unexpired : slot ≠ some .expired)
    (ends : ∀ session, r.Ends b session move ↔ session = owner) : Fate b r state session move := by
  by_cases own : session = owner
  · subst own
    exact .ended ((ends session).mpr rfl) (change.own ▸ unkept) (change.own ▸ unexpired)
  · exact .same (mt (ends session).mp own) (change.others session own)

/-- One slot at most changes, with a fate of its own. -/
theorem of_others (others : ∀ other, other ≠ owner → state.slot? other = r.state.slot? other)
    (unended : ¬ r.Ends b session move)
    (own : session = owner → Fate b r state session move) : Fate b r state session move := by
  by_cases same : session = owner
  · exact own same
  · exact .same unended (others session same)

/-- A page that is gone leaves its place, if it still held it. -/
theorem of_vacated {page : Page} (gone : ∃ position, move = .close position ∨ move = .drop position)
    (left : state.slot? page.session = r.state.vacated page) : Fate b r state page.session move := by
  by_cases holds : r.state.isBusyWith page.session page.pager = true
  · obtain ⟨key, start, busy⟩ := State.busy_of_isBusyWith holds
    exact .vacated gone ⟨_, key, start, busy⟩ (left.trans (if_pos holds))
  · refine .same ?_ (left.trans (if_neg holds))
    obtain ⟨position, rfl | rfl⟩ := gone <;> exact id

end Fate

namespace Effect

/-- Each move has one of these fates for what a session holds. -/
theorem fate (effect : Effect b r move after) (session : String) :
    Fate b r after.state session move := by
  cases effect with
  | @rejected q e state answer =>
    have unended : ¬ r.Ends b session (.request q) := by
      simp [Ends, answer, Except.isOk, Except.toBool]
    rcases State.begin_error_cases answer with alike | ⟨binding, live, late, -⟩
    · exact .same unended (alike.slot? session)
    · have lapse := State.begin_error answer
      refine .of_others lapse.others unended ?_
      rintro rfl
      cases lapse with
      | kept change => exact .same unended change.own
      | expired held change => exact .lost live late change.own
  | @granted q state answer =>
    refine .of_ended (State.begin_fresh answer).2 (by simp) (by simp) fun session => ?_
    simp [Ends, answer, Except.isOk, Except.toBool, eq_comm]
  | @resumed q page state answer =>
    obtain ⟨binding, -, -, -, -, -, change⟩ := State.begin_resume answer
    refine .of_ended change (by simp [Page.slot]) (by simp [Page.slot]) fun session => ?_
    simp [Ends, answer, Except.isOk, Except.toBool, eq_comm]
  | @ungranted q s ungranted => exact .same (fun ends => ungranted ends.2.1) rfl
  | @unopened q s e connection granted opening =>
    have unopened : ¬ r.Starts b q s := by simp [Starts, opening, Except.isOk, Except.toBool]
    exact .same (fun ends => unopened ends.2) rfl
  | @started q s cursor connection granted opening =>
    have starts : r.Starts b q s := ⟨granted, by simp [opening, Except.isOk, Except.toBool]⟩
    refine .of_ended (State.change_opened opening q) (by simp [Page.slot]) (by simp [Page.slot])
      fun session => ?_
    simp [Ends, starts, eq_comm]
  | unread | read | unclosed | undropped | elapsed | claimed | silent | stopped => exact .same id rfl
  | @closed position page found =>
    obtain ⟨slot, released, change⟩ := State.changes_closePage b r.state page
    refine .of_others change.others id ?_
    rintro rfl
    rcases State.closePage_cases b r.state page with
      ⟨left, -⟩ | ⟨binding, holds, kept, pager, timer, timers⟩
    · exact .of_vacated ⟨position, .inl rfl⟩ left
    · obtain ⟨key, start, busy⟩ := State.busy_of_isBusyWith holds
      exact .cached ⟨_, key, start, busy⟩ ⟨page, List.mem_of_getElem? found, rfl, pager.symm⟩ kept
        timer (pager ▸ timers)
  | @dropped position page found =>
    have change := State.change_dropPage b r.state page
    refine .of_others change.others id ?_
    rintro rfl
    exact .of_vacated ⟨position, .inr rfl⟩ change.own
  | left owner =>
    exact .of_ended (State.change_clear b r.state owner) (by simp) (by simp) fun session => eq_comm
  | @rang timer owner pager taken =>
    let timers := (r.state.timers.take? timer).2
    by_cases expires : ∃ binding, r.state.slot? owner = some (.live binding) ∧ binding.pager = pager
    · obtain ⟨binding, live, rfl⟩ := expires
      refine .of_others (State.change_expire b r.state timers owner binding.pager).others id ?_
      rintro rfl
      exact .rang live taken (State.slot_expire b (p := { r.state with timers }) live)
    · have idle : State.expire b { r.state with timers } owner pager = { r.state with timers } :=
        State.expire_eq b fun binding live same => expires ⟨binding, live, same⟩
      exact .same id (congrArg (·.slot? session) idle)

end Effect

inductive Timing (r : Run σ) : Move → Timers Alarm → Prop
  | same (move : Move) : Timing r move r.state.timers
  | cancelled (move : Move) (id : Nat) : Timing r move (r.state.timers.cancel id).2
  | scheduled (move : Move) {page : Page} (out : page ∈ r.pages) :
    Timing r move (r.state.timers.schedule r.state.store.ttlMillis
      (.idle page.session page.pager)).2
  | elapsed (millis : Nat) : Timing r (.elapse millis) (r.state.timers.elapse millis)
  | claimed (timer : Nat) : Timing r (.claim timer) (r.state.timers.claim timer)
  | taken (timer : Nat) : Timing r (.ring timer) (r.state.timers.take? timer).2
  | stopped : Timing r .stop r.state.timers.stop.2

theorem Timing.unset (r : Run σ) (move : Move) (session : String) :
    Timing r move (r.state.unset session) := by
  unfold State.unset
  split
  · exact .cancelled move _
  · exact .same move

namespace Effect

/-- Each move does one of these things to timers. One is set when a page is closed. -/
theorem timing (effect : Effect b r move after) : Timing r move after.state.timers := by
  cases effect with
  | rejected answer => exact State.timers_error answer ▸ .same _
  | granted answer => exact State.timers_fresh answer ▸ .unset r _ _
  | @resumed q page state answer =>
    obtain ⟨binding, -, cancelled⟩ := State.timers_resume answer
    have timing := Timing.cancelled (r := r) (.request q) binding.timer
    rwa [cancelled] at timing
  | @started q s cursor connection granted opening =>
    exact State.timers_start b { r.state with connection } q cursor ▸ .unset r _ q.session
  | @closed position page found =>
    rcases State.closePage_cases b r.state page with ⟨-, timers⟩ | ⟨binding, -, -, -, -, timers⟩
    · exact timers ▸ .same _
    · exact timers ▸ .scheduled _ (List.mem_of_getElem? found)
  | @dropped position page found => exact State.timers_vacate r.state page ▸ .same _
  | left session => exact State.timers_clear b r.state session ▸ .unset r _ session
  | elapsed millis => exact .elapsed millis
  | claimed timer => exact .claimed timer
  | @silent timer => exact .taken timer
  | @rang timer session pager =>
    have timers := State.timers_expire b
      { r.state with timers := (r.state.timers.take? timer).2 } session pager
    exact timers ▸ .taken timer
  | stopped => exact .stopped
  | ungranted | unopened | unread | read | unclosed | undropped => exact .same _

/-- Cursors are kept for the same time throughout. -/
theorem ttl (effect : Effect b r move after) :
    after.state.store.ttlMillis = r.state.store.ttlMillis := by
  cases effect with
  | @rejected q _ _ answer | @granted q _ answer | @resumed q _ _ answer =>
    have ttl := State.ttl_begin b r.state q
    rwa [answer] at ttl
  | @started q s cursor connection => exact State.ttl_start b { r.state with connection } q cursor
  | @closed position page => exact State.ttl_closePage b r.state page
  | @dropped position page => exact State.ttl_vacate r.state page
  | left session => exact State.ttl_clear b r.state session
  | @rang timer session pager => exact State.ttl_expire b _ session pager
  | ungranted | unopened | unread | read | unclosed | undropped | elapsed | claimed | silent
  | stopped => rfl

end Effect

theorem timers_ring (b : Backend σ) (r : Run σ) (timer : Nat) :
    (r.act b (.ring timer)).state.timers = (r.state.timers.take? timer).2 := by
  have effect := effect b r (.ring timer)
  generalize r.act b (.ring timer) = after at effect ⊢
  cases effect with
  | silent => rfl
  | rang => exact State.timers_expire ..

theorem ttl_run (b : Backend σ) (r : Run σ) (moves : List Move) :
    (r.run b moves).state.store.ttlMillis = r.state.store.ttlMillis := by
  induction moves generalizing r with
  | nil => rfl
  | cons move later ih => exact (ih (r.step b move)).trans (effect b r move).ttl

end GeoSearch.Paging.Run
