import GeoSearch.Proofs.Paging.Sparing
/-!
Two runs abreast. Runs that agree about a session answer what it does alike, and agree about it
afterwards.
-/
namespace GeoSearch.Paging.Run

/-! ### Runs beside their cursors -/

/-- All that is known of a run, beside the cursors that it used. No cursor was used under a number
that is still to come. -/
structure Sound (b : Backend σ) (index : σ) (r : Run σ) (uses : List (Nat × Cursor.Use)) : Prop where
  custody : Custody r
  timed : Timed r
  owned : Owned r
  follows : Follows r (Cursors.after b index uses)
  even : ∀ use ∈ uses, ∀ pager, use.1 = 2 * pager → pager < r.state.store.issued
  odd : ∀ use ∈ uses, ∀ n, use.1 = 2 * n + 1 → n < uses.length

namespace Sound

variable {b : Backend σ} {index : σ} {r : Run σ} {uses : List (Nat × Cursor.Use)}

theorem history_issued (sound : Sound b index r uses) :
    Cursor.history uses (2 * r.state.store.issued) = [] :=
  Cursor.history_eq_nil fun use member same =>
    Nat.lt_irrefl _ (sound.even use member r.state.store.issued same)

theorem history_unused (sound : Sound b index r uses) :
    Cursor.history uses (2 * uses.length + 1) = [] :=
  Cursor.history_eq_nil fun use member same =>
    Nat.lt_irrefl _ (sound.odd use member uses.length same)

theorem step (sound : Sound b index r uses) {owner : String} {move : Move}
    (isOf : r.IsOf owner move) :
    Sound b index (r.step b move) (uses ++ r.uses b uses.length move) where
  custody := sound.custody.step b move
  timed := sound.timed.step sound.custody b move
  owned := sound.owned.step b move
  follows := by
    rw [Cursors.after_append]
    exact sound.follows.step sound.custody sound.owned b uses.length move
  even := by
    have after := sound.custody.step b move
    have grown : r.state.store.issued ≤ (r.step b move).state.store.issued := by
      obtain ⟨pages, firsts⟩ := (effect b r move).handsOut.firsts
      have length : (r.step b move).firsts.length = r.firsts.length + pages.length := by
        change (r.act b move).firsts.length = _
        rw [firsts, List.length_append]
      rw [after.length_firsts, sound.custody.length_firsts] at length
      omega
    intro use member pager same
    rcases List.mem_append.mp member with old | new
    · exact Nat.lt_of_lt_of_le (sound.even use old pager same) grown
    · rcases uses_of sound.owned b uses.length isOf new with ⟨own, known, number⟩ | number
      · cases (show own = pager by omega)
        exact after.lt_of_mem_pagersOf known
      · omega
  odd := by
    intro use member n same
    rw [List.length_append]
    rcases List.mem_append.mp member with old | new
    · exact Nat.lt_add_right _ (sound.odd use old n same)
    · have some : 0 < (r.uses b uses.length move).length := List.length_pos_of_mem new
      rcases uses_of sound.owned b uses.length isOf new with ⟨own, -, number⟩ | number
      · omega
      · omega

theorem elapse (sound : Sound b index r uses) (millis : Nat) :
    Sound b index (r.step b (.elapse millis)) uses where
  custody := sound.custody.step b _
  timed := sound.timed.step sound.custody b _
  owned := sound.owned.step b _
  follows := sound.follows.step sound.custody sound.owned b 0 (.elapse millis)
  even := sound.even
  odd := sound.odd

end Sound

/-! ### Cursors that were used alike -/

def seenOf : Except BackendError Cursor → Option BackendError × Option Cursor.Face
  | .ok c => (none, some c.face)
  | .error e => (some e, none)

def failureOf : Except BackendError Bool → Option BackendError
  | .ok _ => none
  | .error e => some e

section

variable {b : Backend σ} {k : Connection σ} {cs : Cursors σ} {id : Nat} {c : Cursor}

theorem seen_open (alike : k.Alike cs.connection) (s : Search) (id : Nat) :
    (cs.use b id s.use).seen id =
      seenOf (Cursor.open? b s.keepMillis s.index s.request s.maxHits k).1 := by
  obtain ⟨same, -⟩ := alike.open? b s.keepMillis s.index s.request s.maxHits
  rw [same]
  rcases opened : Cursor.open? b s.keepMillis s.index s.request s.maxHits cs.connection
    with ⟨e | c, l⟩
  · rw [Search.use, Cursors.use_open_failed opened, Cursors.seen_set]
    rfl
  · rw [Search.use, Cursors.use_open opened, Cursors.seen_set]
    rfl

theorem seen_advance (alike : k.Alike cs.connection) (found : cs.at? id = some c) :
    (cs.use b id .advance).seen id =
      (failureOf (c.advance b k).1, some (c.advance b k).2.1.face) := by
  obtain ⟨same, moved, -⟩ := alike.advance b c
  rw [same, moved]
  rcases advanced : c.advance b cs.connection with ⟨e | fetched, d, l⟩
  · rw [Cursors.use_advance_failed found advanced, Cursors.seen_set]
    rfl
  · rw [Cursors.use_advance found advanced, Cursors.seen_set]
    rfl

end

section

variable {b : Backend σ} {index : σ} {r s : Run σ} {uses more : List (Nat × Cursor.Use)}
  {pagers : List (Nat × Nat)} {x : Nat × Nat} {c d : Cursor}

theorem face_eq (independent : b.Independent index) (used : UsedAlike pagers uses more)
    (own : x ∈ pagers) (left : (Cursors.after b index uses).at? (2 * x.1) = some c)
    (right : (Cursors.after b index more).at? (2 * x.2) = some d) : c.face = d.face := by
  have seen := congrArg Prod.snd (Cursors.seen_of_history independent (used x own))
  simpa only [Cursors.seen, left, right, Option.map_some, Option.some.injEq] using seen

/-- A search is answered alike, whatever there was before. -/
theorem open_eq (independent : b.Independent index) (left : Sound b index r uses)
    (right : Sound b index s more) (search : Search) :
    seenOf (Cursor.open? b search.keepMillis search.index search.request search.maxHits
        r.state.connection).1 =
      seenOf (Cursor.open? b search.keepMillis search.index search.request search.maxHits
        s.state.connection).1 := by
  have fresh {t : Run σ} {uses : List (Nat × Cursor.Use)} (sound : Sound b index t uses) :
      Cursor.history (uses ++ [(2 * uses.length + 1, search.use)]) (2 * uses.length + 1) =
        [search.use] := by
    rw [Cursor.history_append, sound.history_unused, Cursor.history_cons_self]
    rfl
  have seen := Cursors.seen_of_history independent ((fresh left).trans (fresh right).symm)
  rw [Cursors.after_append, Cursors.after_append] at seen
  exact (seen_open left.follows.connection search _).symm.trans
    (seen.trans (seen_open right.follows.connection search _))

theorem advance_eq (independent : b.Independent index) (left : Sound b index r uses)
    (right : Sound b index s more) {lefts rights : List Nat} (paired : Paired pagers lefts rights)
    (used : UsedAlike pagers uses more) (own : x ∈ pagers)
    (found : (Cursors.after b index uses).at? (2 * x.1) = some c)
    (found' : (Cursors.after b index more).at? (2 * x.2) = some d) :
    failureOf (c.advance b r.state.connection).1 = failureOf (d.advance b s.state.connection).1 := by
  have later := used.append paired own [.advance]
  have seen := Cursors.seen_of_history independent (later x own)
  rw [Cursors.after_append, Cursors.after_append] at seen
  have advanced := (seen_advance left.follows.connection found).symm.trans
    (seen.trans (seen_advance right.follows.connection found'))
  exact congrArg Prod.fst advanced

end

/-! ### Moves that are made in both runs -/

def Abreast (session : String) (r s : Run σ) (uses more : List (Nat × Cursor.Use)) : Prop :=
  ∃ pagers alarms, Agree session pagers alarms r s ∧ UsedAlike pagers uses more

structure Tally (b : Backend σ) (session : String) (r s : Run σ) (uses more : List (Nat × Cursor.Use))
    (move other : Move) : Prop where
  answer : r.answer b move = s.answer b other
  abreast : Abreast session (r.step b move) (s.step b other) (uses ++ r.uses b uses.length move)
    (more ++ s.uses b more.length other)

variable {b : Backend σ} {index : σ} {session : String} {r s after after' : Run σ}
  {uses more made made' : List (Nat × Cursor.Use)} {pagers alarms : List (Nat × Nat)}

/-- It is enough to know what the moves come to. -/
theorem Comes.tally {move other : Move} {answer answer' : Answer}
    (left : Comes b r uses.length move answer after made)
    (right : Comes b s more.length other answer' after' made') (same : answer = answer')
    (pagers alarms : List (Nat × Nat)) (agree : Agree session pagers alarms after after')
    (used : UsedAlike pagers (uses ++ made) (more ++ made')) :
    Tally b session r s uses more move other where
  answer := left.answer.trans (same.trans right.answer.symm)
  abreast := by
    have now := agree.of_alike left.act right.act
    rw [left.uses, right.uses]
    exact ⟨pagers, alarms,
      ⟨now.ttl, now.granted, now.paired, now.timers, now.slot, now.pages⟩, used⟩

theorem slot_put (p : State σ) (session : String) (slot : Slot) :
    (p.setSlots (p.store.slots.put session slot)).slot? session = some slot :=
  (Change.put p session slot).own

structure Twins (b : Backend σ) (index : σ) (session : String) (pagers alarms : List (Nat × Nat))
    (r s : Run σ) (uses more : List (Nat × Cursor.Use)) : Prop where
  left : Sound b index r uses
  right : Sound b index s more
  agree : Agree session pagers alarms r s
  used : UsedAlike pagers uses more

namespace Twins

/-! ### Requests -/

theorem request (twins : Twins b index session pagers alarms r s uses more)
    (independent : b.Independent index) {q : PageRequest} (own : q.session = session) :
    Tally b session r s uses more (.request q) (.request q) := by
  obtain ⟨left, right, agree, used⟩ := twins
  subst own
  have alike := agree.slot.verdict q
  generalize verdict : Slot.verdict q (r.state.slot? q.session) = decided at alike
  generalize verdict' : Slot.verdict q (s.state.slot? q.session) = decided' at alike
  cases alike with
  | fresh =>
    refine (comes_fresh b _ verdict).tally (comes_fresh b _ verdict') rfl pagers alarms
      ⟨?_, ?_, agree.paired, ?_, ?_, agree.pages⟩ (used.releases agree.paired agree.slot)
    · simpa [State.ttl_clear] using agree.ttl
    · intro other own
      simp only [List.mem_cons, agree.granted other own]
    · simpa only [State.timers_clear] using agree.timers.unset agree.slot
    · have empty (p : State σ) : (p.clear b q.session).slot? q.session = none :=
        (State.change_clear b p q.session).own
      simpa only [empty] using SlotAlike.free
  | reject e =>
    exact (comes_reject b _ verdict).tally (comes_reject b _ verdict') rfl pagers alarms agree used.same
  | @resume held too alike =>
    obtain ⟨live, -⟩ := Slot.verdict_resume verdict
    obtain ⟨live', -⟩ := Slot.verdict_resume verdict'
    obtain ⟨same, cancelled⟩ := agree.timers.cancel alike.timer
    cases timely : (r.state.timers.cancel held.timer).1 with
    | false =>
      refine (comes_late b _ verdict timely).tally (comes_late b _ verdict' (same ▸ timely)) rfl
        pagers alarms ⟨agree.ttl, agree.granted, agree.paired, agree.timers, ?_, agree.pages⟩
        (used.append agree.paired alike.pager [.release])
      have left := slot_put r.state q.session .expired
      have right := slot_put s.state q.session .expired
      exact left.symm ▸ right.symm ▸ .expired
    | true =>
      have face := face_eq independent used alike.pager (left.follows.kept _ held live)
        (right.follows.kept _ too live')
      have answer := Page.face_eq (alike.heading q.session) face
      refine (comes_resume b _ verdict timely).tally (comes_resume b _ verdict' (same ▸ timely))
        (congrArg Answer.page answer) pagers alarms
        ⟨agree.ttl, agree.granted, agree.paired, cancelled, ?_, ?_⟩ used.same
      · have left := slot_put (r.state.cancel held.timer) q.session (held.page q.session).slot
        have right := slot_put (s.state.cancel too.timer) q.session (too.page q.session).slot
        refine left.symm ▸ right.symm ▸ ?_
        rw [Page.slot, Page.slot, Binding.page, Binding.page, alike.key, alike.next]
        exact .busy alike.pager too.key too.next
      · exact agree.pages.cons agree.paired alike.pager (alike.heading q.session)

/-! ### First pages -/

/-- A pager that is started is a new one in both runs. -/
theorem started (twins : Twins b index session pagers alarms r s uses more) :
    Paired (pagers ++ [(r.state.store.issued, s.state.store.issued)])
        (r.pagersOf session ++ [r.state.store.issued]) (s.pagersOf session ++ [s.state.store.issued]) ∧
      PagesAlike (pagers ++ [(r.state.store.issued, s.state.store.issued)]) r.pages s.pages ∧
      UsedAlike (pagers ++ [(r.state.store.issued, s.state.store.issued)]) uses more := by
  obtain ⟨left, right, agree, used⟩ := twins
  have none {t : Run σ} (custody : Custody t) : pageOf t.pages t.state.store.issued = none := by
    refine List.find?_eq_none.mpr fun page member => ?_
    simpa using Nat.ne_of_lt (custody.pager_lt member)
  refine ⟨agree.paired.concat ?_ ?_, ?_, ?_⟩
  · exact fun old => Nat.lt_irrefl _ (left.custody.lt_of_mem_pagersOf old)
  · exact fun old => Nat.lt_irrefl _ (right.custody.lt_of_mem_pagersOf old)
  · intro x member
    rcases List.mem_append.mp member with old | last
    · exact agree.pages x old
    · cases List.mem_singleton.mp last
      rw [none left.custody, none right.custody]
  · intro x member
    rcases List.mem_append.mp member with old | last
    · exact used x old
    · cases List.mem_singleton.mp last
      rw [left.history_issued, right.history_issued]

theorem start_ok (twins : Twins b index session pagers alarms r s uses more) {q : PageRequest}
    {search : Search} (own : q.session = session) (granted : q ∈ r.granted)
    {c d : Cursor} {k l : Connection σ} (face : c.face = d.face)
    (opened : Cursor.open? b search.keepMillis search.index search.request search.maxHits
      r.state.connection = (.ok c, k))
    (opened' : Cursor.open? b search.keepMillis search.index search.request search.maxHits
      s.state.connection = (.ok d, l)) :
    Tally b session r s uses more (.start q search) (.start q search) := by
  subst own
  obtain ⟨paired, pages, none⟩ := twins.started
  have agree := twins.agree
  have granted' : q ∈ s.granted := (agree.granted q rfl).mp granted
  let new := (r.state.store.issued, s.state.store.issued)
  have grown : pagers ⊆ pagers ++ [new] := List.subset_append_left ..
  have last : new ∈ pagers ++ [new] := List.mem_append_right _ (List.mem_singleton_self _)
  have answer : (q.firstPage r.state.store.issued c).face =
      (q.firstPage s.state.store.issued d).face := Page.face_eq rfl face
  refine (comes_started _ granted opened).tally (comes_started _ granted' opened')
    (congrArg Answer.page answer) (pagers ++ [new]) alarms ⟨?_, agree.granted, ?_, ?_, ?_, ?_⟩ ?_
  · simpa [State.ttl_start] using agree.ttl
  · simpa [pagersOf, PageRequest.firstPage] using paired
  · change TimedAlike q.session _ alarms (State.start b _ q c).2.timers (State.start b _ q d).2.timers
    rw [State.timers_start, State.timers_start]
    exact (agree.timers.unset agree.slot).mono grown
  · obtain ⟨_, started, change⟩ := State.change_start b { r.state with connection := k } q c
    obtain ⟨_, started', change'⟩ := State.change_start b { s.state with connection := l } q d
    change SlotAlike _ alarms ((State.start b _ q c).2.slot? q.session)
      ((State.start b _ q d).2.slot? q.session)
    rw [started, started', change.own, change'.own]
    exact .busy last q.key q.start
  · exact pages.cons paired last rfl
  · have opening := none.append paired last [search.use]
    have given := opening.releases paired (agree.slot.mono grown (List.Subset.refl alarms))
    simpa only [List.map_cons, List.map_nil, List.append_assoc, List.singleton_append] using given

theorem start (twins : Twins b index session pagers alarms r s uses more)
    (independent : b.Independent index) {q : PageRequest} (search : Search) (own : q.session = session) :
    Tally b session r s uses more (.start q search) (.start q search) := by
  have agree := twins.agree
  by_cases granted : q ∈ r.granted
  · have granted' : q ∈ s.granted := (agree.granted q own).mp granted
    have same := open_eq independent twins.left twins.right search
    rcases opened : Cursor.open? b search.keepMillis search.index search.request search.maxHits
        r.state.connection with ⟨e | c, k⟩ <;>
      rcases opened' : Cursor.open? b search.keepMillis search.index search.request search.maxHits
        s.state.connection with ⟨e' | d, l⟩ <;>
      rw [opened, opened'] at same <;>
      simp only [seenOf, Prod.mk.injEq, Option.some.injEq, reduceCtorEq, and_false] at same
    · exact (comes_unopened _ granted opened).tally (comes_unopened _ granted' opened')
        (by rw [same.1]) pagers alarms ⟨agree.ttl, agree.granted, agree.paired, agree.timers, agree.slot,
          agree.pages⟩ (twins.used.aside uses.length more.length search.use)
    · exact twins.start_ok own granted same.2 opened opened'
  · have granted' : q ∉ s.granted := fun too => granted ((agree.granted q own).mpr too)
    exact (comes_ungranted b _ search granted).tally (comes_ungranted b _ search granted') rfl pagers
      alarms agree twins.used.same

/-! ### Pages -/

/-- The session finds its pages in the same places. -/
theorem placed (twins : Twins b index session pagers alarms r s uses more)
    (independent : b.Independent index) (place : Nat) :
    (r.pages[r.place session place]? = none ∧ s.pages[s.place session place]? = none) ∨
      ∃ page too, r.pages[r.place session place]? = some page ∧
        s.pages[s.place session place]? = some too ∧ PageAlike session pagers page too ∧
        page.cursor.face = too.cursor.face := by
  obtain ⟨left, right, agree, used⟩ := twins
  have isLeft := agree.paired.getElem?_left place
  have isRight := agree.paired.getElem?_right place
  cases at? : pagers[place]? with
  | none =>
    rw [at?] at isLeft isRight
    exact .inl ⟨getElem?_place_none isLeft, getElem?_place_none isRight⟩
  | some x =>
    rw [at?] at isLeft isRight
    have own : x ∈ pagers := List.mem_of_getElem? at?
    have same := agree.pages x own
    rw [getElem?_place isLeft, getElem?_place isRight]
    cases found : pageOf r.pages x.1 with
    | none =>
      rw [found] at same
      exact .inl ⟨rfl, Option.map_eq_none_iff.mp same.symm⟩
    | some page =>
      rw [found] at same
      obtain ⟨too, found', heading⟩ := Option.map_eq_some_iff.mp same.symm
      obtain ⟨member, pager⟩ := pageOf_some found
      obtain ⟨member', pager'⟩ := pageOf_some found'
      refine .inr ⟨page, too, rfl, found', ⟨?_, ?_, ?_, heading.symm⟩, ?_⟩
      · exact left.custody.session_unique (left.owned.page page member)
          (pager ▸ agree.paired.mem_left own)
      · exact right.custody.session_unique (right.owned.page too member')
          (pager' ▸ agree.paired.mem_right own)
      · rw [pager, pager']
        exact own
      · exact face_eq independent used own (pager ▸ left.follows.out page member)
          (pager' ▸ right.follows.out too member')

theorem read (twins : Twins b index session pagers alarms r s uses more)
    (independent : b.Independent index) (place : Nat) :
    Tally b session r s uses more (.read (r.place session place)) (.read (s.place session place)) := by
  have agree := twins.agree
  rcases twins.placed independent place with ⟨absent, absent'⟩ | ⟨page, too, found, found', alike, face⟩
  · exact (comes_unread b _ absent).tally (comes_unread b _ absent') rfl pagers alarms agree
      twins.used.same
  · have hits : page.cursor.batch = too.cursor.batch := congrArg Cursor.Face.hits face
    exact (comes_read b _ found).tally (comes_read b _ found') (by rw [hits]) pagers alarms
      ⟨agree.ttl, agree.granted, agree.paired, agree.timers, agree.slot,
        agree.pages.set found found' _ _⟩ (twins.used.append agree.paired alike.pager [.read])

/-- The runs still agree when a page is gone from both. -/
theorem takeOut (twins : Twins b index session pagers alarms r s uses more) {position place : Nat}
    {page too : Page} (found : r.pages[position]? = some page) (found' : s.pages[place]? = some too)
    (alike : PageAlike session pagers page too) {p q : State σ}
    {later : List (Nat × Nat)} (ttl : p.store.ttlMillis = q.store.ttlMillis)
    (timers : TimedAlike session pagers later p.timers q.timers)
    (slot : SlotAlike pagers later (p.slot? session) (q.slot? session)) :
    Agree session pagers later (r.takeOut position page p) (s.takeOut place too q) where
  ttl := ttl
  granted := twins.agree.granted
  paired := twins.agree.paired
  timers := timers
  slot := slot
  pages := twins.agree.pages.eraseIdx twins.agree.paired found found' alike.pager
    (fun _ => twins.left.custody.pager_ne_of_mem_eraseIdx found)
    (fun _ => twins.right.custody.pager_ne_of_mem_eraseIdx found')

/-- A page that is gone from both leaves the place of the session alike. -/
theorem leavePage (twins : Twins b index session pagers alarms r s uses more) {position place : Nat}
    {page too : Page} (found : r.pages[position]? = some page) (found' : s.pages[place]? = some too)
    (alike : PageAlike session pagers page too) (k l : Connection σ) (c d : Cursor) :
    Agree session pagers alarms
      (r.takeOut position page ((State.vacate { r.state with connection := k } page).releaseCursor b c))
      (s.takeOut place too ((State.vacate { s.state with connection := l } too).releaseCursor b d)) := by
  have agree := twins.agree
  refine twins.takeOut found found' alike ?_ ?_ ?_
  · change (State.vacate { r.state with connection := k } page).store.ttlMillis =
      (State.vacate { s.state with connection := l } too).store.ttlMillis
    rw [State.ttl_vacate, State.ttl_vacate]
    exact agree.ttl
  · change TimedAlike session pagers alarms (State.vacate { r.state with connection := k } page).timers
      (State.vacate { s.state with connection := l } too).timers
    rw [State.timers_vacate, State.timers_vacate]
    exact agree.timers
  · exact alike.vacate (p := { r.state with connection := k }) (q := { s.state with connection := l })
      agree.paired agree.slot

theorem drop (twins : Twins b index session pagers alarms r s uses more)
    (independent : b.Independent index) (place : Nat) :
    Tally b session r s uses more (.drop (r.place session place)) (.drop (s.place session place)) := by
  have agree := twins.agree
  rcases twins.placed independent place with ⟨absent, absent'⟩ | ⟨page, too, found, found', alike, -⟩
  · exact (comes_undropped b _ absent).tally (comes_undropped b _ absent') rfl pagers alarms agree
      twins.used.same
  · have gone := twins.leavePage found found' alike r.state.connection s.state.connection page.cursor
      too.cursor
    exact (comes_dropped b _ found).tally (comes_dropped b _ found') rfl pagers alarms
      ⟨gone.ttl, gone.granted, gone.paired, gone.timers, gone.slot, gone.pages⟩
      (twins.used.append agree.paired alike.pager [.release])

/-- A page that is closed is followed in both by a cursor that is kept, or in none. -/
theorem close_ok (twins : Twins b index session pagers alarms r s uses more) {position place : Nat}
    {page too : Page} (found : r.pages[position]? = some page) (found' : s.pages[place]? = some too)
    (alike : PageAlike session pagers page too) {fetched fetched' : Bool} {c d : Cursor}
    {k l : Connection σ} (active : page.cursor.isFinal = false) (active' : too.cursor.isFinal = false)
    (advanced : page.cursor.advance b r.state.connection = (.ok fetched, c, k))
    (advanced' : too.cursor.advance b s.state.connection = (.ok fetched', d, l)) :
    Tally b session r s uses more (.close position) (.close place) := by
  have agree := twins.agree
  have busy := alike.isBusyWith agree.paired agree.slot
  cases holds : r.state.isBusyWith page.session page.pager with
  | false =>
    exact (comes_outlived _ found active advanced holds).tally
      (comes_outlived _ found' active' advanced' (busy ▸ holds)) rfl pagers alarms
      (twins.takeOut found found' alike agree.ttl agree.timers agree.slot)
      (twins.used.append agree.paired alike.pager [.advance, .release])
  | true =>
    let new := (r.state.timers.all.length, s.state.timers.all.length)
    have last : new ∈ alarms ++ [new] := List.mem_append_right _ (List.mem_singleton_self _)
    have heading := alike.heading
    simp only [Page.heading, Prod.mk.injEq] at heading
    obtain ⟨key, start, size⟩ := heading
    have next : page.next = too.next := by rw [Page.next, Page.next, start, size]
    have kept : BindingAlike pagers (alarms ++ [new]) (r.state.left page c) (s.state.left too d) :=
      ⟨alike.pager, by simp [State.left, new], key, next, size⟩
    refine (comes_kept _ found active advanced holds).tally
      (comes_kept _ found' active' advanced' (busy ▸ holds)) rfl pagers (alarms ++ [new])
      (twins.takeOut found found' alike agree.ttl ?_ ?_)
      (twins.used.append agree.paired alike.pager [.advance])
    · rw [alike.left, alike.right, agree.ttl]
      exact agree.timers.schedule s.state.store.ttlMillis alike.pager
    · rw [alike.left, alike.right]
      exact (slot_put _ session _).symm ▸ (slot_put _ session _).symm ▸ .live kept

theorem close (twins : Twins b index session pagers alarms r s uses more)
    (independent : b.Independent index) (place : Nat) :
    Tally b session r s uses more (.close (r.place session place)) (.close (s.place session place)) := by
  have agree := twins.agree
  rcases twins.placed independent place with ⟨absent, absent'⟩ | ⟨page, too, found, found', alike, face⟩
  · exact (comes_unclosed b _ absent).tally (comes_unclosed b _ absent') rfl pagers alarms agree
      twins.used.same
  · have final : page.cursor.isFinal = too.cursor.isFinal := congrArg Cursor.Face.isFinal face
    cases active : page.cursor.isFinal with
    | true =>
      exact (comes_finished b _ found active).tally (comes_finished b _ found' (final ▸ active)) rfl
        pagers alarms (twins.leavePage found found' alike _ _ _ _)
        (twins.used.append agree.paired alike.pager [.release])
    | false =>
      have active' : too.cursor.isFinal = false := final ▸ active
      have same := advance_eq independent twins.left twins.right agree.paired twins.used alike.pager
        (twins.left.follows.out page (List.mem_of_getElem? found))
        (twins.right.follows.out too (List.mem_of_getElem? found'))
      rcases advanced : page.cursor.advance b r.state.connection with ⟨e | fetched, c, k⟩ <;>
        rcases advanced' : too.cursor.advance b s.state.connection with ⟨e' | fetched', d, l⟩ <;>
        rw [advanced, advanced'] at same <;>
        simp only [failureOf, Option.some.injEq, reduceCtorEq] at same
      · exact (comes_stuck _ found active advanced).tally (comes_stuck _ found' active' advanced')
          (by rw [same]) pagers alarms (twins.leavePage found found' alike k l c d)
          (twins.used.append agree.paired alike.pager [.advance, .release])
      · exact twins.close_ok found found' alike active active' advanced advanced'

/-! ### Sessions and timers -/

theorem leave (twins : Twins b index session pagers alarms r s uses more) :
    Tally b session r s uses more (.leave session) (.leave session) := by
  have agree := twins.agree
  have kept : (r.state.expectedIndex session).isSome = (s.state.expectedIndex session).isSome := by
    rw [agree.slot.expectedIndex]
  refine (comes_left b r _ session).tally (comes_left b s _ session) (by rw [kept]) pagers alarms
    ⟨?_, agree.granted, agree.paired, ?_, ?_, agree.pages⟩
    (twins.used.releases agree.paired agree.slot)
  · change (r.state.clear b session).store.ttlMillis = (s.state.clear b session).store.ttlMillis
    rw [State.ttl_clear, State.ttl_clear]
    exact agree.ttl
  · change TimedAlike session pagers alarms (r.state.clear b session).timers
      (s.state.clear b session).timers
    rw [State.timers_clear, State.timers_clear]
    exact agree.timers.unset agree.slot
  · have empty (p : State σ) : (p.clear b session).slot? session = none :=
      (State.change_clear b p session).own
    exact (empty r.state).symm ▸ (empty s.state).symm ▸ .free

/-- The session finds its timers in the same places. -/
theorem timed (twins : Twins b index session pagers alarms r s uses more) (place : Nat) :
    (r.timerId session place = r.state.timers.all.length ∧
      s.timerId session place = s.state.timers.all.length) ∨
      ∃ y ∈ alarms, r.timerId session place = y.1 ∧ s.timerId session place = y.2 := by
  have isLeft := twins.agree.timers.paired.getElem?_left place
  have isRight := twins.agree.timers.paired.getElem?_right place
  unfold timerId
  rw [isLeft, isRight]
  cases at? : alarms[place]? with
  | none => exact .inl ⟨rfl, rfl⟩
  | some y => exact .inr ⟨y, List.mem_of_getElem? at?, rfl, rfl⟩

theorem claim (twins : Twins b index session pagers alarms r s uses more) (place : Nat) :
    Tally b session r s uses more (.claim (r.timerId session place))
      (.claim (s.timerId session place)) := by
  have agree := twins.agree
  have claimed : TimedAlike session pagers alarms (r.state.timers.claim (r.timerId session place))
      (s.state.timers.claim (s.timerId session place)) := by
    rcases twins.timed place with ⟨last, last'⟩ | ⟨y, own, same, same'⟩
    · have untouched (t : Timers Alarm) : Untouched session t (t.claim t.all.length) :=
        .of_modified (t.modified_claim _) (TimedAlike.blind_claimAt t.now).action
          (length_notMem_idleTimers t session)
      rw [last, last']
      exact agree.timers.of_untouched (untouched _) (untouched _)
    · rw [same, same']
      exact agree.timers.claim own
  exact ⟨rfl, pagers, alarms,
    ⟨agree.ttl, agree.granted, agree.paired, claimed, agree.slot, agree.pages⟩, twins.used.same⟩

/-- A timer that ends the keeping of a cursor in the one run does so in the other. -/
theorem ring_idle (twins : Twins b index session pagers alarms r s uses more) {id other : Nat}
    {x : Nat × Nat} (own : x ∈ pagers)
    (timers : TimedAlike session pagers alarms (r.state.timers.take? id).2 (s.state.timers.take? other).2)
    (taken : (r.state.timers.take? id).1 = some (.idle session x.1))
    (taken' : (s.state.timers.take? other).1 = some (.idle session x.2)) :
    Tally b session r s uses more (.ring id) (.ring other) := by
  have agree := twins.agree
  have slot := agree.slot
  by_cases rings : ∃ held, r.state.slot? session = some (.live held) ∧ held.pager = x.1
  · obtain ⟨held, live, pager⟩ := rings
    rw [live] at slot
    obtain ⟨too, live', alike⟩ := slot.live_right
    have pager' : too.pager = x.2 := (agree.paired.eq_iff alike.pager own).mp pager
    rw [← pager] at taken
    rw [← pager'] at taken'
    refine (comes_rang b _ taken live).tally (comes_rang b _ taken' live') rfl pagers alarms
      ⟨agree.ttl, agree.granted, agree.paired, timers, ?_, agree.pages⟩
      (twins.used.append agree.paired alike.pager [.release])
    have left := slot_put r.state session .expired
    have right := slot_put s.state session .expired
    exact left.symm ▸ right.symm ▸ .expired
  · refine (comes_unheard b _ ?_).tally (comes_unheard b _ ?_) rfl pagers alarms
      ⟨agree.ttl, agree.granted, agree.paired, timers, agree.slot, agree.pages⟩ twins.used.same
    · rintro ⟨owner, held, live, is⟩
      obtain ⟨rfl, pager⟩ : session = owner ∧ x.1 = held.pager := by simpa using taken.symm.trans is
      exact rings ⟨held, live, pager.symm⟩
    · rintro ⟨owner, too, live', is⟩
      obtain ⟨rfl, pager⟩ : session = owner ∧ x.2 = too.pager := by simpa using taken'.symm.trans is
      rw [live'] at slot
      obtain ⟨held, live, alike⟩ := slot.live_left
      exact rings ⟨held, live, (agree.paired.eq_iff alike.pager own).mpr pager.symm⟩

theorem ring (twins : Twins b index session pagers alarms r s uses more) (place : Nat) :
    Tally b session r s uses more (.ring (r.timerId session place))
      (.ring (s.timerId session place)) := by
  have agree := twins.agree
  have silent {t : Run σ} {id : Nat} (none : (t.state.timers.take? id).1 = none) :
      ¬ ∃ owner held, t.state.slot? owner = some (.live held) ∧
        (t.state.timers.take? id).1 = some (.idle owner held.pager) := by
    rintro ⟨owner, held, -, is⟩
    cases none.symm.trans is
  rcases twins.timed place with ⟨last, last'⟩ | ⟨y, own, same, same'⟩
  · have untouched (t : Timers Alarm) : Untouched session t (t.take? t.all.length).2 :=
      .of_modified (t.modified_take? _) TimedAlike.blind_run.action (length_notMem_idleTimers t session)
    have none (t : Timers Alarm) : (t.take? t.all.length).1 = none := by simp [Timers.take?]
    rw [last, last']
    exact (comes_unheard b _ (silent (none _))).tally (comes_unheard b _ (silent (none _))) rfl pagers
      alarms ⟨agree.ttl, agree.granted, agree.paired,
        agree.timers.of_untouched (untouched _) (untouched _), agree.slot, agree.pages⟩ twins.used.same
  · obtain ⟨taken, timers⟩ := agree.timers.take? own
    rw [same, same']
    rcases taken with ⟨none, none'⟩ | ⟨x, pager, taken, taken'⟩
    · exact (comes_unheard b _ (silent none)).tally (comes_unheard b _ (silent none')) rfl pagers
        alarms ⟨agree.ttl, agree.granted, agree.paired, timers, agree.slot, agree.pages⟩
        twins.used.same
    · exact twins.ring_idle pager timers taken taken'

/-- Runs that agree about a session answer what it does alike, and agree about it afterwards. -/
theorem step (twins : Twins b index session pagers alarms r s uses more)
    (independent : b.Independent index) (deed : Deed) :
    Tally b session r s uses more (r.moveOf session deed) (s.moveOf session deed) := by
  cases deed with
  | request key start size => exact twins.request independent rfl
  | start key start size search => exact twins.start independent search rfl
  | read pager => exact twins.read independent pager
  | close pager => exact twins.close independent pager
  | drop pager => exact twins.drop independent pager
  | leave => exact twins.leave
  | claim timer => exact twins.claim timer
  | ring timer => exact twins.ring timer

end Twins

end GeoSearch.Paging.Run
