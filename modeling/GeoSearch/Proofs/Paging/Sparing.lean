import GeoSearch.Proofs.Paging.Agreement
/-!
Moves of one session spare the others. Whatever a session does, and whatever its timers do, it gets at
its own slot, pages and timers only.
-/
namespace GeoSearch.Paging.Run

def IsOf (r : Run σ) (owner : String) : Move → Prop
  | .request q => q.session = owner
  | .start q _ => q.session = owner
  | .read position => ∀ page, r.pages[position]? = some page → page.session = owner
  | .close position => ∀ page, r.pages[position]? = some page → page.session = owner
  | .drop position => ∀ page, r.pages[position]? = some page → page.session = owner
  | .leave session => session = owner
  | .claim id => ∀ timer, r.state.timers.timer? id = some timer → ∃ pager, timer.action = .idle owner pager
  | .ring id => ∀ timer, r.state.timers.timer? id = some timer → ∃ pager, timer.action = .idle owner pager
  | .elapse _ => False
  | .stop => False

variable {b : Backend σ} {r after : Run σ} {owner session : String}

/-- A session has no other way than to its own. -/
theorem isOf_moveOf (custody : Custody r) (owned : Owned r) (owner : String) (deed : Deed) :
    r.IsOf owner (r.moveOf owner deed) := by
  have placed (pager : Nat) (page : Page) (found : r.pages[r.place owner pager]? = some page) :
      page.session = owner := by
    cases own : (r.pagersOf owner)[pager]? with
    | none => cases (getElem?_place_none own).symm.trans found
    | some holder =>
      obtain ⟨member, rfl⟩ := pageOf_some ((getElem?_place own).symm.trans found)
      exact custody.session_unique (owned.page page member) (List.mem_of_getElem? own)
  have timed (place : Nat) (timer : Timer Alarm)
      (set : r.state.timers.timer? (r.timerId owner place) = some timer) :
      ∃ pager, timer.action = .idle owner pager := by
    unfold timerId at set
    cases own : (idleTimers r.state.timers owner)[place]? with
    | none =>
      rw [own] at set
      exact absurd (Timers.lt_of_timer? set) (Nat.lt_irrefl _)
    | some id =>
      rw [own] at set
      obtain ⟨found, pager, is, action⟩ := mem_idleTimers.mp (List.mem_of_getElem? own)
      cases is.symm.trans set
      exact ⟨pager, action⟩
  cases deed with
  | request key start size => exact rfl
  | start key start size search => exact rfl
  | read pager => exact placed pager
  | close pager => exact placed pager
  | drop pager => exact placed pager
  | leave => exact rfl
  | claim timer => exact timed timer
  | ring timer => exact timed timer

/-! ### Timers -/

theorem not_mem_idleTimers {t : Timers Alarm} {id : Nat} (apart : owner ≠ session)
    (own : ∀ timer, t.timer? id = some timer → ∃ pager, timer.action = .idle owner pager) :
    id ∉ idleTimers t session := by
  intro member
  obtain ⟨timer, pager, set, action⟩ := mem_idleTimers.mp member
  obtain ⟨holder, same⟩ := own timer set
  cases action.symm.trans same
  exact apart rfl

theorem Timed.untouched_cancel (timed : Timed r) (apart : owner ≠ session) {binding : Binding}
    (live : r.state.slot? owner = some (.live binding)) :
    Untouched session r.state.timers (r.state.timers.cancel binding.timer).2 := by
  refine .of_modified (r.state.timers.modified_cancel binding.timer) Watches.action_finish
    (not_mem_idleTimers apart fun timer set => ?_)
  obtain ⟨found, is, -, action⟩ := timed.kept owner binding live
  cases is.symm.trans set
  exact ⟨binding.pager, action⟩

theorem Timed.untouched_unset (timed : Timed r) (apart : owner ≠ session) :
    Untouched session r.state.timers (r.state.unset owner) := by
  unfold State.unset
  split
  · next binding live => exact timed.untouched_cancel apart live
  · exact .refl session _

/-! ### Each move -/

/-- It is enough to know what a move comes to. -/
theorem Comes.spared {unused : Nat} {move : Move} {answer : Answer} {uses : List (Nat × Cursor.Use)}
    (comes : Comes b r unused move answer after uses)
    (granted : ∀ q, q.session = session → (q ∈ after.granted ↔ q ∈ r.granted))
    (pagers : after.pagersOf session = r.pagersOf session)
    (timers : Untouched session r.state.timers after.state.timers)
    (slot : after.state.slot? session = r.state.slot? session)
    (pages : ∀ pager ∈ r.pagersOf session, pageOf after.pages pager = pageOf r.pages pager) :
    Spared session r (r.step b move) := by
  have ttl : after.state.store.ttlMillis = r.state.store.ttlMillis := by
    rw [← comes.act.state.store]
    exact (effect b r move).ttl
  have spared := Spared.of_alike ⟨ttl, granted, pagers, timers, slot, pages⟩ comes.act
  exact ⟨spared.ttl, spared.granted, spared.pagers, spared.timers, spared.slot, spared.pages⟩

theorem Comes.idle {unused : Nat} {move : Move} {answer : Answer} {uses : List (Nat × Cursor.Use)}
    (comes : Comes b r unused move answer r uses) (session : String) :
    Spared session r (r.step b move) :=
  comes.spared (fun _ _ => Iff.rfl) rfl (.refl session _) rfl fun _ _ => rfl

theorem spared_request (timed : Timed r) (owned : Owned r) (custody : Custody r) (b : Backend σ)
    {q : PageRequest} (apart : q.session ≠ session) :
    Spared session r (r.step b (.request q)) := by
  have same : ∀ other : PageRequest, other.session = session →
      (other ∈ r.granted ↔ other ∈ r.granted) := fun _ _ => Iff.rfl
  cases verdict : Slot.verdict q (r.state.slot? q.session) with
  | fresh =>
    have change := State.change_clear b r.state q.session
    refine (comes_fresh b 0 verdict).spared ?_ rfl ?_ (change.others session apart.symm) fun _ _ => rfl
    · rintro other rfl
      have differ : other ≠ q := fun equal => apart (equal ▸ rfl)
      simp [differ]
    · change Untouched session _ (r.state.clear b q.session).timers
      rw [State.timers_clear]
      exact timed.untouched_unset apart
  | reject e => exact (comes_reject b 0 verdict).idle session
  | resume binding =>
    obtain ⟨live, -⟩ := Slot.verdict_resume verdict
    cases timely : (r.state.timers.cancel binding.timer).1 with
    | false =>
      have change := Change.put r.state q.session .expired
      exact (comes_late b 0 verdict timely).spared same rfl (.refl session _)
        (change.others session apart.symm) fun _ _ => rfl
    | true =>
      have change := Change.put r.state q.session (binding.page q.session).slot
      refine (comes_resume b 0 verdict timely).spared same rfl (timed.untouched_cancel apart live)
        (change.others session apart.symm) fun pager own => ?_
      rw [pageOf_cons, if_neg]
      rintro rfl
      exact apart (custody.session_unique (owned.kept q.session binding live) own)

theorem spared_start (timed : Timed r) (custody : Custody r) (b : Backend σ)
    {q : PageRequest} (s : Search) (apart : q.session ≠ session) :
    Spared session r (r.step b (.start q s)) := by
  by_cases granted : q ∈ r.granted
  · rcases opened : Cursor.open? b s.keepMillis s.index s.request s.maxHits r.state.connection
      with ⟨e | cursor, connection⟩
    · exact (comes_unopened 0 granted opened).spared (fun _ _ => Iff.rfl) rfl (.refl session _) rfl
        fun _ _ => rfl
    · obtain ⟨after, started, change⟩ :=
        State.change_start b { r.state with connection } q cursor
      refine (comes_started 0 granted opened).spared (fun _ _ => Iff.rfl) ?_ ?_ ?_ ?_
      · rw [pagersOf_append rfl]
        simp [PageRequest.firstPage, apart]
      · change Untouched session _ (State.start b { r.state with connection } q cursor).2.timers
        rw [State.timers_start]
        exact timed.untouched_unset apart
      · change (State.start b { r.state with connection } q cursor).2.slot? session = _
        rw [started]
        exact change.others session apart.symm
      · intro pager own
        rw [pageOf_cons, if_neg]
        exact Nat.ne_of_gt (custody.lt_of_mem_pagersOf own)
  · exact (comes_ungranted b 0 s granted).idle session

section

variable {position : Nat} {page : Page}

/-- A page of another session has none of the session's pagers. -/
theorem Owned.pager_ne (owned : Owned r) (custody : Custody r)
    (found : r.pages[position]? = some page) (apart : page.session ≠ session) {pager : Nat}
    (own : pager ∈ r.pagersOf session) : page.pager ≠ pager := by
  rintro rfl
  exact apart (custody.session_unique (owned.page page (List.mem_of_getElem? found)) own)

theorem spared_read (owned : Owned r) (custody : Custody r) (b : Backend σ)
    (apart : ∀ page, r.pages[position]? = some page → page.session ≠ session) :
    Spared session r (r.step b (.read position)) := by
  cases found : r.pages[position]? with
  | none => exact (comes_unread b 0 found).idle session
  | some page =>
    refine (comes_read b 0 found).spared (fun _ _ => Iff.rfl) rfl (.refl session _) rfl ?_
    intro pager own
    exact pageOf_set_of_ne found _ (owned.pager_ne custody found (apart page found) own)

theorem spared_close (owned : Owned r) (custody : Custody r) (b : Backend σ)
    (apart : ∀ page, r.pages[position]? = some page → page.session ≠ session) :
    Spared session r (r.step b (.close position)) := by
  cases found : r.pages[position]? with
  | none => exact (comes_unclosed b 0 found).idle session
  | some page =>
    have pages (pager : Nat) (own : pager ∈ r.pagersOf session) :
        pageOf (r.pages.eraseIdx position) pager = pageOf r.pages pager :=
      pageOf_eraseIdx_of_ne found (owned.pager_ne custody found (apart page found) own)
    cases active : page.cursor.isFinal with
    | true =>
      have change := State.change_vacate r.state page
      refine (comes_finished b 0 found active).spared (fun _ _ => Iff.rfl) rfl ?_
        (change.others session (apart page found).symm) pages
      change Untouched session _ (r.state.vacate page).timers
      rw [State.timers_vacate]
      exact .refl session _
    | false =>
      rcases advanced : page.cursor.advance b r.state.connection with ⟨e | fetched, cursor, connection⟩
      · have change := State.change_vacate { r.state with connection } page
        refine (comes_stuck 0 found active advanced).spared (fun _ _ => Iff.rfl) rfl ?_
          (change.others session (apart page found).symm) pages
        change Untouched session _ (State.vacate { r.state with connection } page).timers
        rw [State.timers_vacate]
        exact .refl session _
      · cases holds : r.state.isBusyWith page.session page.pager with
        | false =>
          exact (comes_outlived 0 found active advanced holds).spared (fun _ _ => Iff.rfl) rfl
            (.refl session _) rfl pages
        | true =>
          have change := Change.put r.state page.session (.live (r.state.left page cursor))
          have other : (Alarm.idle page.session page.pager).isFor session = false := by
            simp [Alarm.isFor, apart page found]
          exact (comes_kept 0 found active advanced holds).spared (fun _ _ => Iff.rfl) rfl
            (.schedule _ _ other) (change.others session (apart page found).symm) pages

theorem spared_drop (owned : Owned r) (custody : Custody r) (b : Backend σ)
    (apart : ∀ page, r.pages[position]? = some page → page.session ≠ session) :
    Spared session r (r.step b (.drop position)) := by
  cases found : r.pages[position]? with
  | none => exact (comes_undropped b 0 found).idle session
  | some page =>
    have change := State.change_vacate r.state page
    refine (comes_dropped b 0 found).spared (fun _ _ => Iff.rfl) rfl ?_
      (change.others session (apart page found).symm) fun pager own =>
        pageOf_eraseIdx_of_ne found (owned.pager_ne custody found (apart page found) own)
    change Untouched session _ (r.state.vacate page).timers
    rw [State.timers_vacate]
    exact .refl session _

end

/-- A timer of a session has no action for another. -/
theorem owner_of_taken {id pager : Nat} {other : String}
    (own : ∀ timer, r.state.timers.timer? id = some timer → ∃ pager, timer.action = .idle owner pager)
    (taken : (r.state.timers.take? id).1 = some (.idle other pager)) : other = owner := by
  obtain ⟨timer, set, -, action⟩ := (r.state.timers.take?_eq_some_iff id).mp taken
  obtain ⟨holder, does⟩ := own timer set
  cases action.symm.trans does
  rfl

theorem spared_ring (b : Backend σ) {id : Nat} (apart : owner ≠ session)
    (own : ∀ timer, r.state.timers.timer? id = some timer → ∃ pager, timer.action = .idle owner pager) :
    Spared session r (r.step b (.ring id)) := by
  have timers : Untouched session r.state.timers (r.state.timers.take? id).2 :=
    .of_modified (r.state.timers.modified_take? id) Watches.action_run (not_mem_idleTimers apart own)
  by_cases rings : ∃ session binding, r.state.slot? session = some (.live binding) ∧
      (r.state.timers.take? id).1 = some (.idle session binding.pager)
  · obtain ⟨other, binding, live, taken⟩ := rings
    cases owner_of_taken own taken
    have change := Change.put r.state owner .expired
    exact (comes_rang b 0 taken live).spared (fun _ _ => Iff.rfl) rfl timers
      (change.others session apart.symm) fun _ _ => rfl
  · exact (comes_unheard b 0 rings).spared (fun _ _ => Iff.rfl) rfl timers rfl
      fun _ _ => rfl

/-- A move of one session spares any other. -/
theorem spared_step (timed : Timed r) (owned : Owned r) (custody : Custody r) (b : Backend σ)
    {move : Move} (isOf : r.IsOf owner move) (apart : owner ≠ session) :
    Spared session r (r.step b move) := by
  have placed {position : Nat} (own : ∀ page, r.pages[position]? = some page → page.session = owner)
      (page : Page) (found : r.pages[position]? = some page) : page.session ≠ session :=
    own page found ▸ apart
  cases move with
  | request q => exact spared_request timed owned custody b (isOf ▸ apart)
  | start q s => exact spared_start timed custody b s (isOf ▸ apart)
  | read position => exact spared_read owned custody b (placed isOf)
  | close position => exact spared_close owned custody b (placed isOf)
  | drop position => exact spared_drop owned custody b (placed isOf)
  | leave other =>
    have change := State.change_clear b r.state other
    have differ : other ≠ session := isOf ▸ apart
    refine (comes_left b r 0 other).spared (fun _ _ => Iff.rfl) rfl ?_
      (change.others session differ.symm) fun _ _ => rfl
    change Untouched session _ (r.state.clear b other).timers
    rw [State.timers_clear]
    exact timed.untouched_unset differ
  | claim id =>
    refine ⟨rfl, fun _ _ => Iff.rfl, rfl, ?_, rfl, fun _ _ => rfl⟩
    exact .of_modified (r.state.timers.modified_claim id)
      (TimedAlike.blind_claimAt r.state.timers.now).action (not_mem_idleTimers apart isOf)
  | ring id => exact spared_ring b apart isOf
  | elapse millis => exact isOf.elim
  | stop => exact isOf.elim

/-! ### Cursors -/

/-- The pager of a page that a session starts with is the session's. -/
theorem pagersOf_started {q : PageRequest} {s : Search} {cursor : Cursor} {connection : Connection σ}
    (granted : q ∈ r.granted)
    (opened : Cursor.open? b s.keepMillis s.index s.request s.maxHits r.state.connection =
      (.ok cursor, connection)) :
    (r.step b (.start q s)).pagersOf q.session = r.pagersOf q.session ++ [r.state.store.issued] := by
  have firsts := (comes_started 0 granted opened).act.firsts
  change (r.act b (.start q s)).pagersOf q.session = _
  rw [pagersOf_append firsts]
  simp [PageRequest.firstPage]

theorem Owned.releases (owned : Owned r) {use : Nat × Cursor.Use}
    (released : use ∈ releases (Slot.kept (r.state.slot? owner))) :
    ∃ pager ∈ r.pagersOf owner, use.1 = 2 * pager := by
  obtain ⟨binding, live, rfl⟩ := mem_releases released
  exact ⟨_, owned.kept owner binding live, rfl⟩

theorem uses_request (owned : Owned r) (b : Backend σ) (unused : Nat) {q : PageRequest}
    {use : Nat × Cursor.Use} (member : use ∈ r.uses b unused (.request q)) :
    ∃ pager ∈ r.pagersOf q.session, use.1 = 2 * pager := by
  cases verdict : Slot.verdict q (r.state.slot? q.session) with
  | fresh =>
    rw [(comes_fresh b unused verdict).uses] at member
    exact owned.releases member
  | reject e =>
    rw [(comes_reject b unused verdict).uses] at member
    cases member
  | resume binding =>
    obtain ⟨live, -⟩ := Slot.verdict_resume verdict
    simp only [uses, verdict] at member
    split at member
    · cases member
    · exact owned.releases (live ▸ member)

theorem uses_start (owned : Owned r) (b : Backend σ) (unused : Nat) {q : PageRequest} {s : Search}
    {use : Nat × Cursor.Use} (member : use ∈ r.uses b unused (.start q s)) :
    (∃ pager ∈ (r.step b (.start q s)).pagersOf q.session, use.1 = 2 * pager) ∨
      use.1 = 2 * unused + 1 := by
  by_cases granted : q ∈ r.granted
  · rcases opened : Cursor.open? b s.keepMillis s.index s.request s.maxHits r.state.connection
      with ⟨e | cursor, connection⟩
    · rw [(comes_unopened unused granted opened).uses] at member
      exact .inr (congrArg Prod.fst (List.mem_singleton.mp member))
    · rw [(comes_started unused granted opened).uses] at member
      rw [pagersOf_started granted opened]
      rcases List.mem_cons.mp member with rfl | released
      · exact .inl ⟨_, List.mem_append_right _ (List.mem_singleton_self _), rfl⟩
      · obtain ⟨pager, own, number⟩ := owned.releases released
        exact .inl ⟨pager, List.mem_append_left _ own, number⟩
  · rw [(comes_ungranted b unused s granted).uses] at member
    cases member

/-- A reader uses the cursor of its page. -/
theorem uses_placed {b : Backend σ} {unused position : Nat} {move : Move} {use : Nat × Cursor.Use}
    (move_eq : move = .read position ∨ move = .close position ∨ move = .drop position)
    (member : use ∈ r.uses b unused move) :
    ∃ page, r.pages[position]? = some page ∧ use.1 = 2 * page.pager := by
  cases found : r.pages[position]? with
  | none => rcases move_eq with rfl | rfl | rfl <;> simp [uses, found] at member
  | some page =>
    refine ⟨page, rfl, ?_⟩
    rcases move_eq with rfl | rfl | rfl <;> simp only [uses, found] at member
    · exact congrArg Prod.fst (List.mem_singleton.mp member)
    · -- to advance the cursor, to release it, or both
      have all : ∀ use ∈ [(2 * page.pager, Cursor.Use.advance), (2 * page.pager, .release)],
          use.1 = 2 * page.pager := by simp
      split at member
      · exact all use (List.mem_of_mem_tail member)
      · split at member
        · split at member
          · exact all use (List.mem_of_mem_take (i := 1) member)
          · exact all use member
        · exact all use member
    · exact congrArg Prod.fst (List.mem_singleton.mp member)

theorem uses_ring (owned : Owned r) (b : Backend σ) (unused : Nat) {id : Nat}
    (isOf : r.IsOf owner (.ring id)) {use : Nat × Cursor.Use}
    (member : use ∈ r.uses b unused (.ring id)) : ∃ pager ∈ r.pagersOf owner, use.1 = 2 * pager := by
  by_cases rings : ∃ session binding, r.state.slot? session = some (.live binding) ∧
      (r.state.timers.take? id).1 = some (.idle session binding.pager)
  · obtain ⟨other, binding, live, taken⟩ := rings
    cases owner_of_taken isOf taken
    rw [(comes_rang b unused taken live).uses] at member
    exact owned.releases (live ▸ member)
  · rw [(comes_unheard b unused rings).uses] at member
    cases member

/-- A session uses the cursors of its own pagers, and new ones. -/
theorem uses_of (owned : Owned r) (b : Backend σ) (unused : Nat) {move : Move}
    (isOf : r.IsOf owner move) {use : Nat × Cursor.Use} (member : use ∈ r.uses b unused move) :
    (∃ pager ∈ (r.step b move).pagersOf owner, use.1 = 2 * pager) ∨ use.1 = 2 * unused + 1 := by
  have later (before : ∃ pager ∈ r.pagersOf owner, use.1 = 2 * pager) :
      ∃ pager ∈ (r.step b move).pagersOf owner, use.1 = 2 * pager := by
    obtain ⟨pager, own, number⟩ := before
    exact ⟨pager, pagersOf_step b r move own, number⟩
  have placed {position : Nat}
      (own : ∀ page, r.pages[position]? = some page → page.session = owner)
      (found : ∃ page, r.pages[position]? = some page ∧ use.1 = 2 * page.pager) :
      ∃ pager ∈ r.pagersOf owner, use.1 = 2 * pager := by
    obtain ⟨page, found, number⟩ := found
    exact ⟨_, own page found ▸ owned.page page (List.mem_of_getElem? found), number⟩
  cases move with
  | request q =>
    cases isOf
    exact .inl (later (uses_request owned b unused member))
  | start q s =>
    cases isOf
    exact uses_start owned b unused member
  | read position => exact .inl (later (placed isOf (uses_placed (.inl rfl) member)))
  | close position => exact .inl (later (placed isOf (uses_placed (.inr (.inl rfl)) member)))
  | drop position => exact .inl (later (placed isOf (uses_placed (.inr (.inr rfl)) member)))
  | leave other =>
    cases isOf
    exact .inl (later (owned.releases member))
  | claim id => cases member
  | ring id => exact .inl (later (uses_ring owned b unused isOf member))
  | elapse millis => exact isOf.elim
  | stop => exact isOf.elim

end GeoSearch.Paging.Run
