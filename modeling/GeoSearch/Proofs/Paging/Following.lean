import GeoSearch.Proofs.Paging.Conduct
/-!
A run beside its cursors. Whatever sessions do, each cursor that is kept or in a page is where its own
uses brought it.
-/
namespace GeoSearch.Paging.Run

structure Follows (r : Run σ) (cs : Cursors σ) : Prop where
  connection : r.state.connection.Alike cs.connection
  kept : ∀ session binding, r.state.slot? session = some (.live binding) →
    cs.at? (2 * binding.pager) = some binding.cursor
  out : ∀ page ∈ r.pages, cs.at? (2 * page.pager) = some page.cursor

theorem follows_initial (ttlMillis : Nat) (timers : Timers Alarm) (index : σ)
    (granted : List PageRequest) (b : Backend σ) :
    Follows { initial ttlMillis timers index with granted } (Cursors.after b index []) where
  connection := .refl _
  kept _ _ found := nomatch found
  out _ member := nomatch member

variable {b : Backend σ} {r after : Run σ} {cs : Cursors σ} {uses : List (Nat × Cursor.Use)}

theorem Follows.of_alike (follows : Follows after cs) (alike : r.Alike after) : Follows r cs where
  connection := ⟨alike.state.connection.state.trans follows.connection.state,
    alike.state.connection.calls.trans follows.connection.calls⟩
  kept session binding live := follows.kept session binding ((alike.state.slot? session).symm.trans live)
  out page member := follows.out page (alike.pages ▸ member)

/-- It is enough to know what a move comes to. -/
theorem Comes.follows {unused : Nat} {move : Move} {answer : Answer}
    (comes : Comes b r unused move answer after uses) (follows : Follows after (cs.useAll b uses)) :
    Follows (r.step b move) (cs.useAll b (r.uses b unused move)) := by
  have now := follows.of_alike comes.act
  rw [comes.uses]
  exact ⟨now.connection, now.kept, now.out⟩

/-! ### Cursors that are given up -/

/-- A move that takes cursors away, and uses no others than these. -/
theorem Follows.loosen (follows : Follows r cs)
    (connection : after.state.connection.Alike (cs.useAll b uses).connection)
    (kept : ∀ session binding, after.state.slot? session = some (.live binding) →
      r.state.slot? session = some (.live binding) ∧ ∀ use ∈ uses, use.1 ≠ 2 * binding.pager)
    (out : ∀ page ∈ after.pages, page ∈ r.pages ∧ ∀ use ∈ uses, use.1 ≠ 2 * page.pager) :
    Follows after (cs.useAll b uses) where
  connection := connection
  kept session binding live := by
    obtain ⟨before, apart⟩ := kept session binding live
    rw [Cursors.at?_useAll_of_ne b cs uses apart]
    exact follows.kept session binding before
  out page member := by
    obtain ⟨before, apart⟩ := out page member
    rw [Cursors.at?_useAll_of_ne b cs uses apart]
    exact follows.out page before

section

variable {session : String} {c : Cursor} {id : Nat}

theorem alike_release (p : State σ) (cs : Cursors σ) (alike : p.connection.Alike cs.connection) (found : cs.at? id = some c) :
    (p.releaseCursor b c).connection.Alike (cs.useAll b [(id, .release)]).connection := by
  change (c.release b p.connection).2.Alike (cs.use b id .release).connection
  rw [Cursors.use_release found]
  exact alike.release b c

theorem alike_clear {p : State σ} (alike : p.connection.Alike cs.connection)
    (kept : ∀ binding, p.slot? session = some (.live binding) →
      cs.at? (2 * binding.pager) = some binding.cursor) :
    (p.clear b session).connection.Alike
      (cs.useAll b (releases (Slot.kept (p.slot? session)))).connection := by
  unfold State.clear
  rcases found : p.slot? session with _ | binding | _ | _
  · exact alike
  · exact alike_release ((p.setSlots _).cancel binding.timer) cs alike (kept binding found)
  · exact alike
  · exact alike

theorem alike_start (p : State σ) (cs : Cursors σ) (c : Cursor) {q : PageRequest} (alike : p.connection.Alike cs.connection)
    (kept : ∀ binding, p.slot? q.session = some (.live binding) →
      cs.at? (2 * binding.pager) = some binding.cursor) :
    (State.start b p q c).2.connection.Alike
      (cs.useAll b (releases (Slot.kept (p.slot? q.session)))).connection := by
  unfold State.start
  rcases found : p.slot? q.session with _ | binding | _ | _
  · exact alike
  · exact alike_release (State.cancel { p with store := _ } binding.timer) cs alike (kept binding found)
  · exact alike
  · exact alike

end

theorem mem_releases {slot : Option Slot} {use : Nat × Cursor.Use}
    (member : use ∈ releases (Slot.kept slot)) :
    ∃ binding, slot = some (.live binding) ∧ use = (2 * binding.pager, .release) := by
  rcases slot with _ | binding | _ | _ <;> simp [releases, Slot.kept] at member
  exact ⟨binding, rfl, member⟩

/-- The cursor that is kept for a session is not that of another session, nor of a page. -/
theorem releases_apart (custody : Custody r) (owned : Owned r) (session : String) :
    (∀ other binding, r.state.slot? other = some (.live binding) → other ≠ session →
      ∀ use ∈ releases (Slot.kept (r.state.slot? session)), use.1 ≠ 2 * binding.pager) ∧
    ∀ page ∈ r.pages, ∀ use ∈ releases (Slot.kept (r.state.slot? session)),
      use.1 ≠ 2 * page.pager := by
  constructor
  · intro other held live apart use member same
    obtain ⟨binding, own, rfl⟩ := mem_releases member
    have pager : held.pager = binding.pager := by omega
    refine apart (custody.session_unique (owned.kept other held live) ?_)
    rw [pager]
    exact owned.kept session binding own
  · intro page member use used same
    obtain ⟨binding, own, rfl⟩ := mem_releases used
    have differ := custody.pager_ne_of_live own member
    omega

/-- A session gives up what it keeps. -/
theorem Follows.giveUp (follows : Follows r cs) (custody : Custody r) (owned : Owned r)
    {issued : Nat} {session : String} {slot : Option Slot} {released : List (Nat × Cursor)}
    (change : Change r.state after.state issued session slot released)
    (unkept : ∀ binding, slot ≠ some (.live binding))
    (connection : after.state.connection.Alike
      (cs.useAll b (releases (Slot.kept (r.state.slot? session)))).connection)
    (pages : after.pages = r.pages) :
    Follows after (cs.useAll b (releases (Slot.kept (r.state.slot? session)))) := by
  obtain ⟨others, out⟩ := releases_apart custody owned session
  refine follows.loosen connection ?_ ?_
  · intro other held live
    obtain ⟨apart, before⟩ := change.live_elsewhere unkept live
    exact ⟨before, others other held before apart⟩
  · intro page member
    rw [pages] at member
    exact ⟨member, out page member⟩

theorem Follows.expire (follows : Follows r cs) (custody : Custody r) (owned : Owned r)
    {session : String} {binding : Binding} (live : r.state.slot? session = some (.live binding))
    (change : Change r.state after.state 0 session (some .expired) [(binding.pager, binding.cursor)])
    (connection : after.state.connection = (r.state.releaseCursor b binding.cursor).connection)
    (pages : after.pages = r.pages) :
    Follows after (cs.useAll b [(2 * binding.pager, .release)]) := by
  have uses : releases (Slot.kept (r.state.slot? session)) = [(2 * binding.pager, .release)] := by
    simp [live, Slot.kept, releases]
  have given := follows.giveUp (b := b) custody owned change (by simp) ?_ pages
  · rwa [uses] at given
  · rw [uses, connection]
    exact alike_release r.state cs follows.connection (follows.kept session binding live)

/-! ### Requests and first pages -/

variable {unused : Nat}

theorem Follows.request (follows : Follows r cs) (custody : Custody r) (owned : Owned r)
    (b : Backend σ) (unused : Nat) (q : PageRequest) :
    Follows (r.step b (.request q)) (cs.useAll b (r.uses b unused (.request q))) := by
  cases verdict : Slot.verdict q (r.state.slot? q.session) with
  | fresh =>
    refine (comes_fresh b unused verdict).follows (follows.giveUp custody owned
      (State.change_clear b r.state q.session) (by simp) ?_ rfl)
    exact alike_clear follows.connection (follows.kept q.session)
  | reject e => exact (comes_reject b unused verdict).follows follows
  | resume binding =>
    obtain ⟨live, -⟩ := Slot.verdict_resume verdict
    cases timely : (r.state.timers.cancel binding.timer).1 with
    | false =>
      have change := (Change.put r.state q.session .expired).release b binding.pager binding.cursor
      exact (comes_late b unused verdict timely).follows
        (follows.expire custody owned live change rfl rfl)
    | true =>
      have change := (Change.put r.state q.session (binding.page q.session).slot)
      refine (comes_resume b unused verdict timely).follows ⟨follows.connection, ?_, ?_⟩
      · intro session other kept
        exact follows.kept session other (change.live_before (fun _ is => nomatch is) kept)
      · intro page member
        rcases List.mem_cons.mp member with rfl | before
        · exact follows.kept q.session binding live
        · exact follows.out page before

/-- The cursor that a pager is started with is a new one. -/
theorem Follows.started (follows : Follows r cs) (custody : Custody r) (owned : Owned r)
    (q : PageRequest) {s : Search} {c : Cursor} {k l : Connection σ}
    (opened : Cursor.open? b s.keepMillis s.index s.request s.maxHits cs.connection = (.ok c, l))
    (alike : k.Alike l) :
    Follows
      { r with
        state := (State.start b { r.state with connection := k } q c).2
        pages := q.firstPage r.state.store.issued c :: r.pages
        firsts := r.firsts ++ [q.firstPage r.state.store.issued c] }
      (cs.useAll b ((2 * r.state.store.issued, s.use) ::
        releases (Slot.kept (r.state.slot? q.session)))) := by
  have used : cs.use b (2 * r.state.store.issued) s.use =
      cs.set (2 * r.state.store.issued) l (some c) none := Cursors.use_open opened
  obtain ⟨others, out⟩ := releases_apart custody owned q.session
  obtain ⟨state, started, change⟩ :=
    State.change_start b { r.state with connection := k } q c
  have old (session : String) (binding : Binding)
      (live : r.state.slot? session = some (.live binding)) :
      (cs.use b (2 * r.state.store.issued) s.use).at? (2 * binding.pager) = some binding.cursor := by
    have before := custody.lt_of_mem_pagersOf (owned.kept session binding live)
    exact (Cursors.at?_use_of_ne b cs s.use (by omega)).trans (follows.kept session binding live)
  refine ⟨?_, ?_, ?_⟩
  · exact alike_start { r.state with connection := k } (cs.use b (2 * r.state.store.issued) s.use) c
      (used ▸ alike) (old q.session)
  · intro session binding live
    rw [started] at live
    obtain ⟨apart, before⟩ := change.live_elsewhere (fun _ is => nomatch is) live
    refine (Cursors.at?_useAll_of_ne b _ _ (others session binding before apart)).trans ?_
    exact old session binding before
  · intro page member
    rcases List.mem_cons.mp member with rfl | before
    · refine (Cursors.at?_useAll_of_ne b (cs.use b (2 * r.state.store.issued) s.use) _
        fun use member => ?_).trans ?_
      · obtain ⟨binding, own, rfl⟩ := mem_releases member
        have before := custody.lt_of_mem_pagersOf (owned.kept q.session binding own)
        simp only [PageRequest.firstPage]
        omega
      · rw [used]
        exact Cursors.at?_set
    · refine (Cursors.at?_useAll_of_ne b _ _ (out page before)).trans ?_
      have bound := custody.pager_lt before
      exact (Cursors.at?_use_of_ne b cs s.use (by omega)).trans (follows.out page before)

theorem Follows.start (follows : Follows r cs) (custody : Custody r) (owned : Owned r)
    (b : Backend σ) (unused : Nat) (q : PageRequest) (s : Search) :
    Follows (r.step b (.start q s)) (cs.useAll b (r.uses b unused (.start q s))) := by
  by_cases granted : q ∈ r.granted
  · obtain ⟨same, alike⟩ := follows.connection.open? b s.keepMillis s.index s.request s.maxHits
    rcases opened : Cursor.open? b s.keepMillis s.index s.request s.maxHits r.state.connection
      with ⟨e | c, k⟩ <;>
      rcases opened' : Cursor.open? b s.keepMillis s.index s.request s.maxHits cs.connection
        with ⟨e' | c', l⟩ <;>
      rw [opened, opened'] at same alike <;> cases same
    · have used : cs.use b (2 * unused + 1) s.use = cs.set (2 * unused + 1) l none (some e) :=
        Cursors.use_open_failed opened'
      refine (comes_unopened unused granted opened).follows (follows.loosen ?_ ?_ ?_)
      · change k.Alike (cs.use b (2 * unused + 1) s.use).connection
        rw [used]
        exact alike
      · exact fun session binding live => ⟨live, by simp; omega⟩
      · exact fun page member => ⟨member, by simp; omega⟩
    · exact (comes_started unused granted opened).follows
        (follows.started custody owned q opened' alike)
  · exact (comes_ungranted b unused s granted).follows follows

/-! ### Pages -/

section

variable {position : Nat} {page : Page}

theorem Follows.read (follows : Follows r cs) (custody : Custody r) (b : Backend σ) (unused : Nat)
    (position : Nat) : Follows (r.step b (.read position)) (cs.useAll b (r.uses b unused (.read position))) := by
  cases found : r.pages[position]? with
  | none => exact (comes_unread b unused found).follows follows
  | some page =>
    have inside : page ∈ r.pages := List.mem_of_getElem? found
    have used : cs.use b (2 * page.pager) .read = cs.set (2 * page.pager) cs.connection
        (some { page.cursor with batch := page.cursor.batch.tail }) none := by
      rw [Cursors.use, follows.out page inside]
      rfl
    refine (comes_read b unused found).follows ⟨?_, ?_, ?_⟩
    · change r.state.connection.Alike (cs.use b (2 * page.pager) .read).connection
      rw [used]
      exact follows.connection
    · intro session binding live
      have apart := custody.pager_ne_of_live live inside
      exact (Cursors.at?_use_of_ne b cs .read (by omega)).trans (follows.kept session binding live)
    · intro other member
      obtain ⟨bound, -⟩ := List.getElem?_eq_some_iff.mp found
      rcases List.mem_cons.mp ((List.set_perm_cons_eraseIdx bound _).mem_iff.mp member) with rfl | rest
      · change (cs.use b (2 * page.pager) .read).at? (2 * page.pager) = _
        rw [used, Cursors.at?_set]
      · have apart := custody.pager_ne_of_mem_eraseIdx found rest
        exact (Cursors.at?_use_of_ne b cs .read (by omega)).trans
          (follows.out other (List.mem_of_mem_eraseIdx rest))

/-- A page that is gone takes its cursor along. -/
theorem Follows.takeOut (follows : Follows r cs) (custody : Custody r)
    (found : r.pages[position]? = some page)
    (connection : after.state.connection.Alike (cs.useAll b uses).connection)
    (kept : ∀ session binding, after.state.slot? session = some (.live binding) →
      r.state.slot? session = some (.live binding))
    (pages : after.pages = r.pages.eraseIdx position) (own : ∀ use ∈ uses, use.1 = 2 * page.pager) :
    Follows after (cs.useAll b uses) := by
  refine follows.loosen connection ?_ ?_
  · intro session binding live
    have apart := custody.pager_ne_of_live (kept session binding live) (List.mem_of_getElem? found)
    exact ⟨kept session binding live, fun use used => by have := own use used; omega⟩
  · intro other member
    rw [pages] at member
    have apart := custody.pager_ne_of_mem_eraseIdx found member
    exact ⟨List.mem_of_mem_eraseIdx member, fun use used => by have := own use used; omega⟩

/-- The cursor of a page that is taken out is kept. -/
theorem Follows.keep (follows : Follows r cs) (custody : Custody r)
    (found : r.pages[position]? = some page) {cursor : Cursor}
    (pages : after.pages = r.pages.eraseIdx position)
    (slots : ∀ session, after.state.slot? session =
      (r.state.store.slots.put page.session (.live (r.state.left page cursor))).get? session)
    (uses_eq : uses = [(2 * page.pager, .advance)])
    (connection : after.state.connection.Alike (cs.use b (2 * page.pager) .advance).connection)
    (at? : (cs.use b (2 * page.pager) .advance).at? (2 * page.pager) = some cursor) :
    Follows after (cs.useAll b uses) := by
  subst uses_eq
  have change := Change.put r.state page.session (.live (r.state.left page cursor))
  refine ⟨connection, ?_, ?_⟩
  · intro session binding live
    rw [slots] at live
    rcases change.held_cases live with ⟨-, put⟩ | ⟨-, before⟩
    · cases put
      exact at?
    · have apart := custody.pager_ne_of_live before (List.mem_of_getElem? found)
      exact (Cursors.at?_use_of_ne b cs .advance (by omega)).trans (follows.kept session binding before)
  · intro other member
    rw [pages] at member
    have apart := custody.pager_ne_of_mem_eraseIdx found member
    exact (Cursors.at?_use_of_ne b cs .advance (by omega)).trans
      (follows.out other (List.mem_of_mem_eraseIdx member))

theorem connection_vacate (p : State σ) (page : Page) :
    (p.vacate page).connection = p.connection := by
  unfold State.vacate
  split <;> rfl

theorem live_vacate {p : State σ} {session : String} {binding : Binding}
    (live : (p.vacate page).slot? session = some (.live binding)) :
    p.slot? session = some (.live binding) :=
  (State.change_vacate p page).live_before (fun _ left => (State.vacated_eq_some left).1) live

theorem Follows.close (follows : Follows r cs) (custody : Custody r) (b : Backend σ) (unused : Nat)
    (position : Nat) :
    Follows (r.step b (.close position)) (cs.useAll b (r.uses b unused (.close position))) := by
  cases found : r.pages[position]? with
  | none => exact (comes_unclosed b unused found).follows follows
  | some page =>
    have inside : page ∈ r.pages := List.mem_of_getElem? found
    have at? := follows.out page inside
    cases active : page.cursor.isFinal with
    | true =>
      refine (comes_finished b unused found active).follows
        (follows.takeOut custody found ?_ ?_ rfl (by simp))
      · exact alike_release (r.state.vacate page) cs
          (connection_vacate r.state page ▸ follows.connection) at?
      · exact fun session binding live => live_vacate live
    | false =>
      obtain ⟨same, moved, alike⟩ := follows.connection.advance b page.cursor
      rcases advanced : page.cursor.advance b r.state.connection with ⟨e | fetched, cursor, k⟩ <;>
        rcases advanced' : page.cursor.advance b cs.connection with ⟨e' | fetched', cursor', l⟩ <;>
        rw [advanced, advanced'] at same moved alike <;> cases same <;> cases moved
      · have used := Cursors.use_advance_failed at? advanced'
        refine (comes_stuck unused found active advanced).follows
          (follows.takeOut custody found ?_ ?_ rfl (by simp))
        · refine alike_release (State.vacate { r.state with connection := k } page)
            (cs.use b (2 * page.pager) .advance) ?_ ?_
          · rw [used, connection_vacate]
            exact alike
          · rw [used, Cursors.at?_set]
        · exact fun session binding live =>
            live_vacate (p := { r.state with connection := k }) live
      · have used := Cursors.use_advance at? advanced'
        cases holds : r.state.isBusyWith page.session page.pager with
        | false =>
          refine (comes_outlived unused found active advanced holds).follows
            (follows.takeOut custody found ?_ (fun _ _ live => live) rfl (by simp))
          refine alike_release { r.state with connection := k }
            (cs.use b (2 * page.pager) .advance) ?_ ?_
          · rw [used]
            exact alike
          · rw [used, Cursors.at?_set]
        | true =>
          refine (comes_kept unused found active advanced holds).follows
            (follows.keep custody found rfl (fun _ => rfl) rfl ?_ ?_)
          · rw [used]
            exact alike
          · rw [used, Cursors.at?_set]

theorem Follows.drop (follows : Follows r cs) (custody : Custody r) (b : Backend σ) (unused : Nat)
    (position : Nat) :
    Follows (r.step b (.drop position)) (cs.useAll b (r.uses b unused (.drop position))) := by
  cases found : r.pages[position]? with
  | none => exact (comes_undropped b unused found).follows follows
  | some page =>
    refine (comes_dropped b unused found).follows
      (follows.takeOut custody found ?_ ?_ rfl (by simp))
    · exact alike_release (r.state.vacate page) cs
        (connection_vacate r.state page ▸ follows.connection)
        (follows.out page (List.mem_of_getElem? found))
    · exact fun session binding live => live_vacate live

end

/-! ### Timers -/

theorem Follows.ring (follows : Follows r cs) (custody : Custody r) (owned : Owned r)
    (b : Backend σ) (unused timer : Nat) :
    Follows (r.step b (.ring timer)) (cs.useAll b (r.uses b unused (.ring timer))) := by
  by_cases rings : ∃ session binding, r.state.slot? session = some (.live binding) ∧
      (r.state.timers.take? timer).1 = some (.idle session binding.pager)
  · obtain ⟨session, binding, live, taken⟩ := rings
    have change := (Change.put r.state session .expired).release b binding.pager binding.cursor
    refine (comes_rang b unused taken live).follows ?_
    exact follows.expire custody owned live (change.aside rfl rfl) rfl rfl
  · exact (comes_unheard b unused rings).follows ⟨follows.connection, follows.kept, follows.out⟩

theorem Follows.step (follows : Follows r cs) (custody : Custody r) (owned : Owned r)
    (b : Backend σ) (unused : Nat) (move : Move) :
    Follows (r.step b move) (cs.useAll b (r.uses b unused move)) := by
  cases move with
  | request q => exact follows.request custody owned b unused q
  | start q s => exact follows.start custody owned b unused q s
  | read position => exact follows.read custody b unused position
  | close position => exact follows.close custody b unused position
  | drop position => exact follows.drop custody b unused position
  | leave session =>
    refine (comes_left b r unused session).follows (follows.giveUp custody owned
      (State.change_clear b r.state session) (by simp) ?_ rfl)
    exact alike_clear follows.connection (follows.kept session)
  | ring timer => exact follows.ring custody owned b unused timer
  | elapse millis => exact ⟨follows.connection, follows.kept, follows.out⟩
  | claim timer => exact ⟨follows.connection, follows.kept, follows.out⟩
  | stop => exact ⟨follows.connection, follows.kept, follows.out⟩

end GeoSearch.Paging.Run
