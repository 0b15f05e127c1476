import GeoSearch.Proofs.Paging.Custody
import GeoSearch.Source.Read
/-!
Positions of pagers. Where the next page of a session starts and how far its cursor has come go
together: both are the number of pages of the pager that were closed, the index modulo the word size.
-/
namespace GeoSearch.Paging.Run

variable {b : Backend σ} {r after : Run σ} {session : String} {slot : Option Slot}
  {binding : Binding} {page : Page}

/-- A page stands as many pages after its pager's first page as pages of the pager were closed, and
its cursor was advanced so often. It may have been read since. -/
def Stands (b : Backend σ) (r : Run σ) (page : Page) : Prop :=
  ∃ first cursor, r.firsts[page.pager]? = some first ∧
    page.key = first.key ∧ page.size = first.size ∧
    page.start = (r.closes page.pager).length * first.size % UInt64.size ∧
    first.cursor.Advanced b (r.closes page.pager) cursor ∧
    page.cursor.readOut = cursor.readOut

def Waits (b : Backend σ) (r : Run σ) (binding : Binding) : Prop :=
  ∃ first, r.firsts[binding.pager]? = some first ∧
    binding.key = first.key ∧ binding.size = first.size ∧
    1 ≤ (r.closes binding.pager).length ∧
    binding.next = (r.closes binding.pager).length * first.size % UInt64.size ∧
    first.cursor.Advanced b (r.closes binding.pager) binding.cursor

theorem Stands.later (stands : r.Stands b page) {pages : List Page}
    (firsts : after.firsts = r.firsts ++ pages) (closes : after.closes page.pager = r.closes page.pager) :
    after.Stands b page := by
  obtain ⟨first, cursor, started, agrees⟩ := stands
  obtain ⟨inside, -⟩ := List.getElem?_eq_some_iff.mp started
  refine ⟨first, cursor, ?_, closes ▸ agrees⟩
  rw [firsts, List.getElem?_append_left inside]
  exact started

theorem Waits.later (waits : r.Waits b binding) {pages : List Page}
    (firsts : after.firsts = r.firsts ++ pages)
    (closes : after.closes binding.pager = r.closes binding.pager) : after.Waits b binding := by
  obtain ⟨first, started, agrees⟩ := waits
  obtain ⟨inside, -⟩ := List.getElem?_eq_some_iff.mp started
  refine ⟨first, ?_, closes ▸ agrees⟩
  rw [firsts, List.getElem?_append_left inside]
  exact started

/-- A kept cursor that is handed out stands where it waited. -/
theorem Waits.stands (waits : r.Waits b binding) (session : String) :
    r.Stands b (binding.page session) := by
  obtain ⟨first, started, key, size, -, next, advanced⟩ := waits
  exact ⟨first, binding.cursor, started, key, size, next, advanced, rfl⟩

structure Positioned (b : Backend σ) (r : Run σ) : Prop where
  granted : ∀ q ∈ r.granted, q.start = 0
  closed : ∀ close ∈ r.closed, close.1 < r.state.store.issued
  pages : ∀ page ∈ r.pages, r.Stands b page
  kept : ∀ session binding, r.state.slot? session = some (.live binding) → r.Waits b binding

theorem positioned_initial (b : Backend σ) (ttlMillis : Nat) (timers : Timers Alarm) (index : σ) :
    Positioned b (initial ttlMillis timers index) where
  granted _ member := nomatch member
  closed _ member := nomatch member
  pages _ member := nomatch member
  kept _ _ found := nomatch found

/-- A move that closes no page and keeps no further cursor. -/
theorem Positioned.move (positioned : Positioned b r) {issued : Nat}
    {released : List (Nat × Cursor)} {pages : List Page}
    (change : Change r.state after.state issued session slot released)
    (unkept : ∀ binding, slot = some (.live binding) →
      r.state.slot? session = some (.live binding))
    (granted : ∀ q ∈ after.granted, q.start = 0) (closed : after.closed = r.closed)
    (firsts : after.firsts = r.firsts ++ pages) (stand : ∀ page ∈ after.pages, after.Stands b page) :
    Positioned b after where
  granted := granted
  closed close member := by
    have before := positioned.closed close (closed ▸ member)
    rw [change.issued]
    omega
  pages := stand
  kept other binding found := by
    have same := change.live_before unkept found
    have closes : after.closes binding.pager = r.closes binding.pager := by
      rw [Run.closes, Run.closes, closed]
    exact (positioned.kept other binding same).later firsts closes

/-- Pages that were there before stand as before. -/
theorem Positioned.stand (positioned : Positioned b r) {pages : List Page}
    (closed : after.closed = r.closed) (firsts : after.firsts = r.firsts ++ pages) :
    ∀ page ∈ r.pages, after.Stands b page := fun page member =>
  (positioned.pages page member).later firsts (by rw [Run.closes, Run.closes, closed])

/-- A move that leaves the pages as they are, or takes some away. -/
theorem Positioned.settle (positioned : Positioned b r) {released : List (Nat × Cursor)}
    (change : Change r.state after.state 0 session slot released)
    (unkept : ∀ binding, slot = some (.live binding) →
      r.state.slot? session = some (.live binding))
    (granted : ∀ q ∈ after.granted, q.start = 0) (closed : after.closed = r.closed)
    (firsts : after.firsts = r.firsts) (pages : after.pages ⊆ r.pages) : Positioned b after :=
  have same : after.firsts = r.firsts ++ [] := firsts.trans (List.append_nil _).symm
  positioned.move change unkept granted closed same fun page member =>
    positioned.stand closed same page (pages member)

theorem Positioned.lapse (positioned : Positioned b r) {state : State σ}
    (lapse : Lapse r.state state session) : Positioned b (r.setState state) := by
  cases lapse with
  | kept change =>
    exact positioned.settle change (fun _ same => same) positioned.granted rfl rfl
      (List.Subset.refl _)
  | expired live change =>
    refine positioned.settle change ?_ positioned.granted rfl rfl (List.Subset.refl _)
    rintro other ⟨⟩

theorem Positioned.idle (positioned : Positioned b r) (store : after.state.store = r.state.store)
    (releases : after.state.connection.releases = r.state.connection.releases)
    (granted : after.granted = r.granted) (closed : after.closed = r.closed)
    (firsts : after.firsts = r.firsts) (pages : after.pages ⊆ r.pages) : Positioned b after :=
  positioned.settle ((Change.refl r.state "").aside store releases) (fun _ same => same)
    (granted ▸ positioned.granted) closed firsts pages

theorem Positioned.resume (positioned : Positioned b r) {q : PageRequest} {state : State σ}
    (answer : r.state.begin b q = (.ok (.resume page), state)) :
    Positioned b { r with state, pages := page :: r.pages } := by
  obtain ⟨binding, live, -, -, -, rfl, change⟩ := State.begin_resume answer
  have same : r.firsts = r.firsts ++ [] := (List.append_nil _).symm
  refine positioned.move change ?_ positioned.granted rfl same ?_
  · rintro other ⟨⟩
  · intro page member
    rcases List.mem_cons.mp member with rfl | before
    · exact ((positioned.kept q.session binding live).stands q.session).later same rfl
    · exact (positioned.pages page before).later same rfl

/-- No page was closed of a pager that is yet to be issued. -/
theorem Positioned.closes_next (positioned : Positioned b r) :
    r.closes r.state.store.issued = [] := by
  have none : (r.closed.filter fun close => close.1 == r.state.store.issued) = [] := by
    refine List.filter_eq_nil_iff.mpr fun close member => ?_
    have before := positioned.closed close member
    simp only [beq_iff_eq]
    omega
  rw [Run.closes, none]
  rfl

theorem Custody.length_firsts (custody : Custody r) :
    r.firsts.length = r.state.store.issued := by
  have length := congrArg List.length custody.started
  rwa [List.length_map, List.length_range] at length

theorem Custody.pager_firsts (custody : Custody r) {pager : Nat}
    (started : r.firsts[pager]? = some page) : page.pager = pager := by
  have same := congrArg (·[pager]?) custody.started
  obtain ⟨inside, -⟩ := List.getElem?_eq_some_iff.mp started
  simp only [List.getElem?_map, started, Option.map_some] at same
  rw [List.getElem?_range (custody.length_firsts ▸ inside)] at same
  exact Option.some.inj same

theorem Positioned.start (positioned : Positioned b r) (custody : Custody r) {q : PageRequest}
    {s : Search} {cursor : Cursor} {connection : Connection σ} (granted : q ∈ r.granted)
    (opening : Cursor.open? b s.keepMillis s.index s.request s.maxHits r.state.connection =
      (.ok cursor, connection)) :
    let first := q.firstPage r.state.store.issued cursor
    Positioned b
      { r with state := (State.start b { r.state with connection } q cursor).2
               pages := first :: r.pages, firsts := r.firsts ++ [first] } := by
  intro first
  refine positioned.move (State.change_opened opening q) ?_ positioned.granted rfl rfl ?_
  · rintro other ⟨⟩
  · intro page member
    rcases List.mem_cons.mp member with rfl | before
    · refine ⟨first, cursor, ?_, rfl, rfl, ?_⟩
      · change (r.firsts ++ [first])[r.state.store.issued]? = some first
        rw [← custody.length_firsts]
        exact List.getElem?_concat_length
      · have zero : q.start = 0 := positioned.granted q granted
        change q.start = (r.closes r.state.store.issued).length * q.size % UInt64.size ∧
          cursor.Advanced b (r.closes r.state.store.issued) cursor ∧ _
        rw [positioned.closes_next, zero, List.length_nil, Nat.zero_mul]
        exact ⟨rfl, .opened, rfl⟩
    · exact (positioned.pages page before).later rfl rfl

theorem Positioned.read (positioned : Positioned b r) {position : Nat}
    (found : r.pages[position]? = some page) {hit : Hit} {cursor : Cursor}
    (next : page.cursor.next? = some (hit, cursor)) :
    Positioned b (r.setCursor position page cursor) := by
  have same : r.firsts = r.firsts ++ [] := (List.append_nil _).symm
  have unmoved : Change r.state (r.setCursor position page cursor).state 0 ""
      (r.state.slot? "") [] := Change.refl r.state ""
  refine positioned.move unmoved (fun _ same => same) positioned.granted rfl same ?_
  intro other member
  rcases List.mem_or_eq_of_mem_set member with before | rfl
  · exact (positioned.pages other before).later same rfl
  · obtain ⟨first, ahead, started, key, size, start, advanced, readOut⟩ :=
      positioned.pages page (List.mem_of_getElem? found)
    exact ⟨first, ahead, started, key, size, start, advanced,
      (Cursor.next?_some next).2.2.trans readOut⟩

/-! Closing a page. -/

section

variable {position : Nat} {released : List (Nat × Cursor)} {connection : Connection σ}

theorem closes_self (closed : after.closed = r.closed ++ [(page.pager, connection)]) :
    after.closes page.pager = r.closes page.pager ++ [connection] := by
  simp [Run.closes, closed, List.filter_append]

theorem closes_of_ne (closed : after.closed = r.closed ++ [(page.pager, connection)])
    {pager : Nat} (distinct : pager ≠ page.pager) : after.closes pager = r.closes pager := by
  have unlike : (page.pager == pager) = false := by simp [Ne.symm distinct]
  simp [Run.closes, closed, List.filter_append, unlike]

theorem Custody.pager_ne_of_mem_eraseIdx (custody : Custody r)
    (found : r.pages[position]? = some page) {other : Page}
    (member : other ∈ r.pages.eraseIdx position) : other.pager ≠ page.pager := by
  obtain ⟨inside, rfl⟩ := List.getElem?_eq_some_iff.mp found
  have apart := ((List.getElem_cons_eraseIdx_perm inside).map (·.pager)).nodup_iff.mpr
    custody.nodup_pages
  intro same
  exact (List.nodup_cons.mp apart).1 (List.mem_map.mpr ⟨other, member, same⟩)

theorem Custody.pager_lt (custody : Custody r) (member : page ∈ r.pages) :
    page.pager < r.state.store.issued := by
  have out : (page.pager, page.cursor) ∈ r.held ++ r.gone :=
    List.mem_append_left _ (List.mem_append_right _ (List.mem_map.mpr ⟨page, member, rfl⟩))
  exact List.mem_range.mp (custody.placed.mem_iff.mp (List.mem_map_of_mem out))

/-- A cursor that is kept when its page is closed has moved on together with the position. -/
theorem Stands.waits (stands : r.Stands b page) (active : page.cursor.isFinal = false)
    {fetched : Bool} {cursor : Cursor} {l : Connection σ} {timer : Nat}
    (advanced : page.cursor.advance b connection = (.ok fetched, cursor, l))
    (closed : after.closed = r.closed ++ [(page.pager, connection)])
    (firsts : after.firsts = r.firsts) :
    after.Waits b { pager := page.pager, key := page.key, next := page.next, size := page.size,
                    cursor, timer } := by
  obtain ⟨first, before, started, key, size, start, soFar, readOut⟩ := stands
  have unread : before.isFinal = false := (congrArg Cursor.isFinal readOut).symm.trans active
  have closes := closes_self closed
  refine ⟨first, firsts ▸ started, key, size, ?_, ?_, ?_⟩ <;> rw [closes]
  · simp
  · -- the sum of two remainders has the remainder of the sum
    simp only [List.length_append, List.length_singleton, Page.next, start, size]
    rw [Nat.mod_add_mod, Nat.succ_mul]
  · exact soFar.advance unread (Cursor.advance_readOut readOut active advanced)

/-- Closing a page moves its pager alone. -/
theorem Positioned.leavePage (positioned : Positioned b r) (custody : Custody r)
    (found : r.pages[position]? = some page)
    (change : Change r.state after.state 0 page.session slot released)
    (granted : after.granted = r.granted)
    (closed : after.closed = r.closed ++ [(page.pager, connection)])
    (firsts : after.firsts = r.firsts) (pages : after.pages = r.pages.eraseIdx position)
    (waits : ∀ binding, slot = some (.live binding) →
      r.state.slot? page.session = some (.live binding) ∨ after.Waits b binding) :
    Positioned b after := by
  have same : after.firsts = r.firsts ++ [] := firsts.trans (List.append_nil _).symm
  have inside : page ∈ r.pages := List.mem_of_getElem? found
  have unmoved {session : String} {binding : Binding}
      (live : r.state.slot? session = some (.live binding)) : after.Waits b binding :=
    (positioned.kept session binding live).later same
      (closes_of_ne closed (custody.pager_ne_of_live live inside))
  refine ⟨granted ▸ positioned.granted, ?_, ?_, ?_⟩
  · intro close member
    rw [change.issued, Nat.add_zero]
    rw [closed, List.mem_append, List.mem_singleton] at member
    rcases member with before | rfl
    · exact positioned.closed close before
    · exact custody.pager_lt inside
  · intro other member
    rw [pages] at member
    exact (positioned.pages other (List.mem_of_mem_eraseIdx member)).later same
      (closes_of_ne closed (custody.pager_ne_of_mem_eraseIdx found member))
  · intro session binding live
    rcases change.held_cases live with ⟨rfl, put⟩ | ⟨-, before⟩
    · rcases waits binding put with before | now
      · exact unmoved before
      · exact now
    · exact unmoved before

theorem Positioned.close (positioned : Positioned b r) (custody : Custody r)
    (found : r.pages[position]? = some page) :
    Positioned b
      { r with state := (r.state.closePage b page).2
               pages := r.pages.eraseIdx position
               closed := r.closed ++ [(page.pager, r.state.connection)] } := by
  have stands := positioned.pages page (List.mem_of_getElem? found)
  rcases State.change_closePage b r.state page with
    ⟨fetched, cursor, connection, timer, -, active, advanced, change⟩ | change
  · refine positioned.leavePage custody found change rfl rfl rfl rfl fun binding is => ?_
    cases is
    exact .inr (stands.waits active advanced rfl rfl)
  · exact positioned.leavePage custody found change rfl rfl rfl rfl fun binding left =>
      .inl (State.vacated_eq_some left).1

end

theorem Positioned.act (positioned : Positioned b r) (custody : Custody r) (move : Move) :
    Positioned b (r.act b move) := by
  have effect := effect b r move
  generalize r.act b move = after at effect ⊢
  cases effect with
  | rejected answer => exact positioned.lapse (State.begin_error answer)
  | granted answer =>
    obtain ⟨first, change⟩ := State.begin_fresh answer
    refine positioned.settle change ?_ ?_ rfl rfl (List.Subset.refl _)
    · rintro other ⟨⟩
    · intro other member
      rcases List.mem_cons.mp member with rfl | before
      · exact first
      · exact positioned.granted other before
  | resumed answer => exact positioned.resume answer
  | ungranted | unread | unclosed | undropped => exact positioned
  | unopened granted opening =>
    exact positioned.idle rfl (Cursor.open?_error opening) rfl rfl rfl (List.Subset.refl _)
  | started granted opening => exact positioned.start custody granted opening
  | read found next => exact positioned.read found next
  | closed found => exact positioned.close custody found
  | dropped found =>
    exact positioned.settle (State.change_dropPage b r.state _)
      (fun _ left => (State.vacated_eq_some left).1) positioned.granted rfl rfl
      List.eraseIdx_subset
  | left session =>
    refine positioned.settle (State.change_clear b r.state session) ?_ positioned.granted rfl rfl
      (List.Subset.refl _)
    rintro other ⟨⟩
  | rang taken => exact positioned.lapse (State.change_expire b r.state ..)
  | elapsed | claimed | silent | stopped =>
    exact positioned.idle rfl rfl rfl rfl rfl (List.Subset.refl _)

theorem Positioned.step (positioned : Positioned b r) (custody : Custody r) (move : Move) :
    Positioned b (r.step b move) := by
  have after := positioned.act custody move
  exact ⟨after.granted, after.closed, after.pages, after.kept⟩

theorem Positioned.run (positioned : Positioned b r) (custody : Custody r) (moves : List Move) :
    Positioned b (r.run b moves) := by
  induction moves generalizing r with
  | nil => exact positioned
  | cons move later ih => exact ih (positioned.step custody move) (custody.step b move)

/-- Whatever the index answers and the sessions do, a cursor that is kept was advanced exactly as
often since it was opened as pages of its pager were closed, at least once, and the next page starts
so many pages further on: exactly there if an index can be so great, and modulo the word size in any
case. Its key and size are those of the pager's first page. A page that resumes it starts there, and has
that size and key. -/
theorem position_and_cursor_agree (b : Backend σ) (ttlMillis : Nat) (timers : Timers Alarm)
    (index : σ) (moves : List Move) :
    let r := run b (initial ttlMillis timers index) moves
    (∀ session binding, r.state.slot? session = some (.live binding) →
      1 ≤ (r.closes binding.pager).length ∧
      binding.next = (r.closes binding.pager).length * binding.size % UInt64.size ∧
      ((r.closes binding.pager).length * binding.size < UInt64.size →
        binding.next = (r.closes binding.pager).length * binding.size) ∧
      ∃ first, r.firsts[binding.pager]? = some first ∧ first.pager = binding.pager ∧
        binding.size = first.size ∧ binding.key = first.key ∧
        first.cursor.Advanced b (r.closes binding.pager) binding.cursor) ∧
    ∀ q page after, r.state.begin b q = (.ok (.resume page), after) →
      ∃ binding, r.state.slot? q.session = some (.live binding) ∧
        page.pager = binding.pager ∧ page.cursor = binding.cursor ∧
        page.start = binding.next ∧ page.size = binding.size ∧ page.key = binding.key ∧
        q.start = page.start ∧ q.size = page.size ∧ q.key = page.key := by
  intro r
  have custody := custody_initial ttlMillis timers index
  have positioned : Positioned b r :=
    (positioned_initial b ttlMillis timers index).run custody moves
  refine ⟨fun session binding live => ?_, fun q page after answer => ?_⟩
  · obtain ⟨first, started, key, size, closed, next, advanced⟩ :=
      positioned.kept session binding live
    rw [← size] at next
    exact ⟨closed, next, fun fits => next.trans (Nat.mod_eq_of_lt fits), first, started,
      (custody.run b moves).pager_firsts started, size, key, advanced⟩
  · obtain ⟨binding, live, key, start, size, rfl, -⟩ := State.begin_resume answer
    exact ⟨binding, live, rfl, rfl, rfl, rfl, rfl, start, size, key⟩

/-- The second page of the session that closed its first one is next. -/
theorem next_page_waits_after_close :
    let r := run endless (initial 1000 {} ()) twoReaders
    ∃ binding, r.state.slot? "ann" = some (.live binding) ∧
      binding.next = (r.closes binding.pager).length * binding.size ∧ binding.next = 1 := by
  obtain ⟨waits, -⟩ := position_and_cursor_agree endless 1000 {} () twoReaders
  exact ⟨_, rfl, (waits "ann" _ rfl).2.2.1 (by decide), rfl⟩

/-- Past the greatest index a pager starts over. -/
example :
    let page (start : Nat) : PageRequest := { session := "ann", key := "q", start, size := 2 ^ 63 }
    let search : Search :=
      { keepMillis := 60000, index := "places", request := { query := .null, size := 1 }, maxHits := 9 }
    let r := run endless (initial 1000 {} ())
      [.request (page 0), .start (page 0) search, .close 0, .request (page (2 ^ 63)), .close 0]
    r.state.expectedIndex "ann" = some 0 := by
  decide

/-! ### The pages of a source -/

def searchOf (s : FeatureSource) (request : SearchRequest) : Search where
  keepMillis := s.config.scrollMillis
  index := s.config.indexName
  request := request
  maxHits := greatestCount

/-- A source that opens a page asks for it and, where that is granted, starts a pager. -/
theorem openPage_eq_run (b : Backend σ) (s : FeatureSource) (request : SearchRequest)
    (q : PageRequest) (r : Run σ) :
    ∃ moves, (moves = [.request q] ∨ moves = [.request q, .start q (searchOf s request)]) ∧
      (r.run b moves).state = (s.openPage b request q r.state).2 ∧
      ∀ page, (s.openPage b request q r.state).1 = .ok page →
        (r.run b moves).pages = page :: r.pages := by
  unfold FeatureSource.openPage
  rcases answer : r.state.begin b q with ⟨e | _ | page, state⟩
  · refine ⟨_, .inl rfl, ?_, ?_⟩
    · simp [run, Run.step, Run.act, Run.request, answer, setState]
    · intro page opened
      cases opened
  · refine ⟨_, .inr rfl, ?_⟩
    rcases opening : Cursor.open? b s.config.scrollMillis s.config.indexName request greatestCount
      state.connection with ⟨e | cursor, connection⟩
    · simp [run, Run.step, Run.act, Run.request, Run.start, answer, searchOf, opening, setState]
    · simp [run, Run.step, Run.act, Run.request, Run.start, answer, searchOf, opening, eq_comm]
  · refine ⟨_, .inl rfl, ?_, ?_⟩
    · simp [run, Run.step, Run.act, Run.request, answer]
    · intro other opened
      cases opened
      simp [run, Run.step, Run.act, Run.request, answer]

end GeoSearch.Paging.Run
