import GeoSearch.Proofs.Paging.Succession
import GeoSearch.Proofs.Source.Features
/-!
What a session reads that goes through the pages of a query in their order: all hits that the index
serves, cut into pages, of each what the predicate accepts.
-/
namespace GeoSearch

theorem Paging.Slot.releases_eq_map (slot : Option Slot) :
    Slot.releases slot = ((Slot.kept slot).flatMap (·.2.owed)).map .release := by
  rw [releases, List.map_flatMap]

/-- Reading a page changes nothing but what is left of its batch. -/
theorem Access.next_page {b : Backend σ} {a after : Access} {k l m : Connection σ}
    {answer : Option (Except BackendError Hit)} {page : Paging.Page}
    (read : a.next b k = (answer, after, l))
    (before : (∃ batch, a = .page { page with cursor := { page.cursor with batch } }) ∧ k = m) :
    (∃ batch, after = .page { page with cursor := { page.cursor with batch } }) ∧ l = m := by
  obtain ⟨⟨batch, rfl⟩, rfl⟩ := before
  cases batch with
  | nil =>
    cases read
    exact ⟨⟨[], rfl⟩, rfl⟩
  | cons hit rest =>
    cases read
    exact ⟨⟨rest, rfl⟩, rfl⟩

namespace FeatureSource

open Paging (Page PageRequest Slot Turn)

theorem pageCount_of_le {size length : Nat} (positive : 0 < size) (last : length ≤ size) :
    pageCount size length = 1 := by
  have few : (length + size - 1) / size ≤ 1 := by
    rw [Nat.div_le_iff_le_mul_add_pred positive]
    omega
  exact Nat.max_eq_left few

theorem pageCount_of_lt {size length : Nat} (positive : 0 < size) (more : size < length) :
    pageCount size length = pageCount size (length - size) + 1 := by
  have step : (length + size - 1) / size = (length - size + size - 1) / size + 1 := by
    rw [← Nat.add_div_right _ positive]
    congr 1
    omega
  have one : 1 ≤ (length - size + size - 1) / size := by
    rw [Nat.le_div_iff_mul_le positive]
    omega
  unfold pageCount
  omega

variable {b : Backend σ} {scrolling : Scrolling b} {s : FeatureSource} {q : FeatureQuery} {f : Filter}
  {session : String} {index : Nat} {p : Paging.State σ} {page : Page} {hits : List Hit}

def pageReader (s : FeatureSource) (q : FeatureQuery) (f : Filter) (page : Page) : FeatureReader :=
  { access := .page page, filter := s.postFilter? q f }

theorem read_page {k : Connection σ} {request : SearchRequest} {after : Paging.State σ}
    (prepared : s.prepare (pageQuery q session index) true p.connection =
      (.ok { request, filter := f }, k))
    (opened : s.openPage b request (s.pageRequest q ⟨session, index⟩) { p with connection := k } =
      (.ok page, after)) :
    s.read b (pageQuery q session index) (.ofState p) =
      (.ok (s.pageReader q f page), .ofState after) := by
  have answer : s.readPage b (pageQuery q session index) ⟨session, index⟩ p =
      (.ok (s.pageReader q f page), after) := by
    have same : s.openPage b request
        (s.pageRequest (pageQuery q session index) ⟨session, index⟩) { p with connection := k } =
        (.ok page, after) := opened
    simp only [readPage, prepared, same]
    rfl
  have reading : s.read b (pageQuery q session index) (.ofState p) =
      Prod.map id Desk.ofState (s.readPage b (pageQuery q session index) ⟨session, index⟩ p) := rfl
  rw [reading, answer]
  rfl

/-- The first page is read from a cursor that is opened for it. -/
theorem read_first (compiled : Filter.compile s.type q.predicate (q.native.getD {}) = .ok f)
    (plain : f.aggregations = none) (positive : 1 ≤ s.limit q) (fits : hits.length ≤ greatestCount)
    (served : scrolling.Serves s.config.indexName (· = s.request (pageQuery q session 0) f true) hits)
    (fresh : Slot.verdict (s.pageRequest q ⟨session, 0⟩) (p.slot? session) = .fresh) :
    ∃ page after,
      s.read b (pageQuery q session 0) (.ofState p) = (.ok (s.pageReader q f page), .ofState after) ∧
      Turn b p after session (some page.slot)
        (Slot.releases (p.slot? session) ++
          [.search s.config.indexName (s.request (pageQuery q session 0) f true)]) ∧
      page.cursor.batch = hits.take (s.limit q) ∧
      page.Gives scrolling after.connection.state (s.pageRequest q ⟨session, 0⟩) s.config.scrollMillis
        (b.givenIds (Slot.releases (p.slot? session) ++
          [.search s.config.indexName (s.request (pageQuery q session 0) f true)]) p.connection.state)
        hits := by
  let request := s.request (pageQuery q session 0) f true
  let r := s.pageRequest q ⟨session, 0⟩
  have size : request.size = s.limit q := by
    simp [request, FeatureSource.request, requestSize, plain, pageQuery, FeatureQuery.isPaging, limit]
  have all : hits.take greatestCount = hits := List.take_of_length_le fits
  obtain ⟨k, prepared, quiet⟩ := prepare_ok (q := pageQuery q session 0) compiled b true p.connection
  have first := Turn.connect p session quiet
  obtain ⟨p₁, begun, clear⟩ := Paging.State.turn_fresh (b := b) (p := { p with connection := k })
    (r := r) fresh
  obtain ⟨cursor, l, opened, batch, searched, fetch⟩ := Cursor.open?_served served rfl rfl
    (size ▸ positive) s.config.scrollMillis greatestCount p₁.connection
  obtain ⟨after, started, start⟩ := Paging.State.turn_start (p := { p₁ with connection := l }) (r := r) b
    cursor clear.own
  rw [size, all] at batch fetch
  have clear : Turn b { p with connection := k } p₁ session none (Slot.releases (p.slot? session)) :=
    clear
  have turn := (first.trans clear).trans ((Turn.connect p₁ session searched).trans start)
  have given : b.givenIds (Slot.releases (p.slot? session) ++ [.search s.config.indexName request])
      p.connection.state = b.givenIds [.search s.config.indexName request] p₁.connection.state := by
    have past : p.connection.Exchange b p₁.connection (Slot.releases (p.slot? session)) :=
      (first.trans clear).exchange
    rw [past.givenIds, Slot.releases_eq_map, Backend.givenIds_releases, List.nil_append]
  have current : after.connection.state = l.state := start.exchange.quiet
  refine ⟨_, after, ?_, by simpa using turn, batch, rfl, rfl, rfl, rfl, ?_⟩
  · have page : s.openPage b request r { p with connection := k } =
        (.ok (r.firstPage p₁.store.issued cursor), after) := by
      simp only [openPage, begun, request, opened, started]
    exact read_page prepared page
  · rw [given, current]
    exact fetch

/-- The page that is next is read from the cursor that was kept for it. -/
theorem read_next {binding : Paging.Binding} {state : σ} {keepMillis : Nat} {given : List String}
    (compiled : Filter.compile s.type q.predicate (q.native.getD {}) = .ok f)
    (kept : p.slot? session = some (.live binding))
    (gives : (binding.page session).Gives scrolling state (s.pageRequest q ⟨session, index⟩)
      keepMillis given hits)
    (timely : (p.timers.cancel binding.timer).1 = true) :
    ∃ after,
      s.read b (pageQuery q session index) (.ofState p) =
        (.ok (s.pageReader q f (binding.page session)), .ofState after) ∧
      Turn b p after session (some (binding.page session).slot) [] := by
  let r := s.pageRequest q ⟨session, index⟩
  obtain ⟨k, prepared, quiet⟩ := prepare_ok (q := pageQuery q session index) compiled b true p.connection
  obtain ⟨after, begun, resumed⟩ := Paging.State.turn_resume (p := { p with connection := k }) (r := r) b
    kept gives.key gives.start gives.size timely
  refine ⟨after, ?_, (Turn.connect p session quiet).trans resumed⟩
  have page : s.openPage b (s.request (pageQuery q session index) f true) r
      { p with connection := k } = (.ok (binding.page session), after) := by
    simp only [openPage, begun]
    rfl
  exact read_page prepared page

/-- A page is read to its end before it is closed. -/
theorem readThrough_page {d : Desk σ}
    (opened : s.read b (pageQuery q session index) d = (.ok (s.pageReader q f page), .ofState p))
    (short : page.cursor.batch.length ≤ greatestCount) :
    ∃ batch, ∀ after,
      p.closePage b { page with cursor := { page.cursor with batch } } = (.ok (), after) →
      s.readThrough b (pageQuery q session index) d =
        (.ok {
            taken := { hits := page.cursor.batch.filter (s.accepts q f), ended := true }
            isFinal := page.cursor.isFinal },
          .ofState after) := by
  obtain ⟨r, l, yields, ⟨batch, rest⟩, rfl⟩ := FeatureReader.yields _ (fun read => Access.next_page read)
    (Access.yields_page b p.connection page) (s.pageReader q f page) rfl
    ⟨⟨page.cursor.batch, rfl⟩, rfl⟩
  have all : ((page.cursor.batch.filter (s.pageReader q f page).accepts).take
      (s.pageReader q f page).remaining) = page.cursor.batch.filter (s.accepts q f) := by
    rw [pageReader, accepts_postFilter]
    exact List.take_of_length_le (Nat.le_trans (List.length_filter_le ..) short)
  rw [all] at yields
  have hits := FeatureReader.takeHits_of_yields yields
  refine ⟨batch, fun after closed => ?_⟩
  have finished : close b r { Desk.ofState p with connection := p.connection } =
      (.ok (), .ofState after) := by
    simp only [close, rest, Desk.state?, Desk.ofState, Option.map_some, closed]
  have final : r.isFinal = page.cursor.isFinal := by
    simp only [FeatureReader.isFinal, rest]
    rfl
  have taken : (s.pageReader q f page).takeHits b none (Desk.ofState p).connection =
      ({ hits := page.cursor.batch.filter (s.accepts q f), ended := true }, r, p.connection) := hits
  simp only [readThrough, opened, taken, finished, final]

/-- Reading at an index opens a page of the session. The page starts what is left of the hits, and
these calls were made until then. -/
structure Opened (scrolling : Scrolling b) (s : FeatureSource) (q : FeatureQuery) (f : Filter)
    (session : String) (start : Connection σ) (ttl : Nat) (made : List Call) (index : Nat)
    (hits : List Hit) (d : Desk σ) (page : Page) (p : Paging.State σ) : Prop where
  read : s.read b (pageQuery q session index) d = (.ok (s.pageReader q f page), .ofState p)
  holds : p.slot? session = some page.slot
  batch : page.cursor.batch = hits.take (s.limit q)
  gives : page.Gives scrolling p.connection.state (s.pageRequest q ⟨session, index⟩)
    s.config.scrollMillis (b.givenIds made start.state) hits
  exchange : start.Exchange b p.connection made
  ttl : p.store.ttlMillis = ttl

/-- The pages after the first are those of the hits after it. -/
theorem pageReading_succ (s : FeatureSource) (q : FeatureQuery) (f : Filter) (hits : List Hit)
    (count number : Nat) :
    s.pageReading q f hits (count + 1) (number + 1) =
      s.pageReading q f (hits.drop (s.limit q)) count number := by
  have further : (number + 1) * s.limit q = s.limit q + number * s.limit q := by
    rw [Nat.succ_mul, Nat.add_comm]
  simp [pageReading, further, List.drop_drop]

section

variable {start : Connection σ} {ttl : Nat} {made : List Call} {d : Desk σ}

namespace Opened

theorem short (out : Opened scrolling s q f session start ttl made index hits d page p)
    (fits : hits.length ≤ greatestCount) : page.cursor.batch.length ≤ greatestCount := by
  rw [out.batch]
  exact Nat.le_trans (List.length_take_le' ..) fits

/-- The last page is closed with one release. -/
theorem last (out : Opened scrolling s q f session start ttl made index hits d page p)
    (fits : hits.length ≤ greatestCount) (last : hits.drop (s.limit q) = []) :
    ∃ scrollIds after,
      s.readThrough b (pageQuery q session index) d =
        (.ok (s.pageReading q f hits 1 0), .ofState after) ∧
      after.slot? session = none ∧
      start.Exchange b after.connection (made ++ [.release scrollIds]) ∧
      ∀ id, id ∈ scrollIds ↔ id ∈ b.givenIds made start.state := by
  obtain ⟨batch, closing⟩ := readThrough_page out.read (out.short fits)
  have owner : page.session = session := out.gives.session
  obtain ⟨after, closed, turn, knows⟩ := (out.gives.read batch).finish (owner ▸ out.holds) last
  have final : page.cursor.isFinal = true := out.gives.fetch.ahead.isFinal_iff.mpr last
  have read := closing after closed
  rw [out.batch, final] at read
  refine ⟨page.cursor.ids, after, ?_, turn.own, out.exchange.trans turn.exchange, knows⟩
  simpa [pageReading] using read

/-- Any other page is closed with a continuation, and then the next one can be opened. -/
theorem next {pause : Timers Paging.Alarm → Timers Paging.Alarm}
    (out : Opened scrolling s q f session start ttl made index hits d page p)
    (compiled : Filter.compile s.type q.predicate (q.native.getD {}) = .ok f)
    (positive : 1 ≤ s.limit q) (fits : index + hits.length ≤ greatestCount)
    (spares : Timers.Spares ttl pause) (more : hits.drop (s.limit q) ≠ []) :
    ∃ closed scrollId after page,
      s.readThrough b (pageQuery q session index) d =
        (.ok { s.pageReading q f hits 1 0 with isFinal := false }, .ofState closed) ∧
      Opened scrolling s q f session start ttl
        (made ++ [.resume scrollId s.config.scrollMillis]) (index + s.limit q)
        (hits.drop (s.limit q))
        { Desk.ofState closed with timers := pause (Desk.ofState closed).timers } page after := by
  obtain ⟨batch, closing⟩ := readThrough_page out.read (out.short (by omega))
  have owner : page.session = session := out.gives.session
  -- the next page starts at a hit
  have further : index + s.limit q < UInt64.size := by
    rw [ne_eq, List.drop_eq_nil_iff] at more
    have greatest : greatestCount = UInt64.size - 1 := rfl
    omega
  obtain ⟨closed, binding, scrollId, done, turn, piece, gives, timely⟩ :=
    (out.gives.read batch).leave (owner ▸ out.holds) positive more further
  have active : page.cursor.isFinal = false := by
    rw [Bool.eq_false_iff]
    exact fun final => more (out.gives.fetch.ahead.isFinal_iff.mp final)
  have read := closing closed done
  rw [out.batch, active] at read
  obtain ⟨after, opened, resumed⟩ := read_next
    (p := { closed with timers := pause closed.timers }) compiled turn.own gives
    (timely pause (out.ttl.symm ▸ spares))
  have waited : Turn b closed { closed with timers := pause closed.timers } session
      (some (.live binding)) [] := ⟨turn.own, .refl b _, rfl⟩
  have on := turn.trans (waited.trans resumed)
  refine ⟨closed, scrollId, after, _, by simpa [pageReading] using read, opened, on.own, piece, ?_,
    ?_, on.ttl.trans out.ttl⟩
  · have same : after.connection.state = closed.connection.state :=
      (waited.trans resumed).exchange.quiet
    rw [same, out.exchange.givenIds]
    exact gives
  · exact out.exchange.trans on.exchange

end Opened

/-- From an open page on, all pages are read that are left, and the session holds nothing then. -/
theorem readPages_opened {count : Nat} {pause : Nat → Timers Paging.Alarm → Timers Paging.Alarm}
    (compiled : Filter.compile s.type q.predicate (q.native.getD {}) = .ok f)
    (positive : 1 ≤ s.limit q) (spares : ∀ index, Timers.Spares ttl (pause index))
    (counted : count = pageCount (s.limit q) hits.length) (fits : index + hits.length ≤ greatestCount)
    (out : Opened scrolling s q f session start ttl made index hits d page p) :
    ∃ (continued scrollIds : List String) (after : Paging.State σ),
      s.readPages b q session pause ((List.range count).map fun i => index + i * s.limit q) d =
        (.ok ((List.range count).map (s.pageReading q f hits count)), .ofState after) ∧
      after.slot? session = none ∧
      continued.length = count - 1 ∧
      start.Exchange b after.connection
        (made ++ continued.map (.resume · s.config.scrollMillis) ++ [.release scrollIds]) ∧
      ∀ id, id ∈ scrollIds ↔
        id ∈ b.givenIds (made ++ continued.map (.resume · s.config.scrollMillis)) start.state := by
  -- On the pages that are left: closing one opens the next over what is left of the hits.
  induction count generalizing hits index d page p made with
  | zero =>
    have one : 1 ≤ pageCount (s.limit q) hits.length := Nat.le_max_left ..
    omega
  | succ count ih =>
    by_cases last : hits.drop (s.limit q) = []
    · rw [pageCount_of_le positive (List.drop_eq_nil_iff.mp last)] at counted
      obtain rfl : count = 0 := by omega
      obtain ⟨scrollIds, after, read, free, exchange, known⟩ := out.last (by omega) last
      refine ⟨[], scrollIds, { after with timers := pause index after.timers }, ?_, free, rfl, ?_, ?_⟩
      · have starts : ((List.range (0 + 1)).map fun i => index + i * s.limit q) = [index] := by simp
        simp only [starts, readPages, read]
        rfl
      · simpa using exchange
      · simpa using known
    · have longer : s.limit q < hits.length := by
        rw [List.drop_eq_nil_iff] at last
        omega
      rw [pageCount_of_lt positive longer, Nat.add_right_cancel_iff, ← List.length_drop] at counted
      obtain ⟨closed, scrollId, later, page, read, next⟩ :=
        out.next compiled positive fits (spares index) last
      obtain ⟨continued, scrollIds, after, pages, free, length, exchange, known⟩ :=
        ih counted (by rw [List.length_drop]; omega) next
      have one : 1 ≤ count := counted ▸ Nat.le_max_left ..
      have starts : ((List.range (count + 1)).map fun i => index + i * s.limit q) =
          index :: (List.range count).map fun i => index + s.limit q + i * s.limit q := by
        simp [List.range_succ_eq_map, Function.comp_def, Nat.succ_mul, Nat.add_assoc,
          Nat.add_comm (s.limit q)]
      have first : { s.pageReading q f hits 1 0 with isFinal := false } =
          s.pageReading q f hits (count + 1) 0 := by
        simp [pageReading, Nat.ne_of_gt one]
      refine ⟨scrollId :: continued, scrollIds, after, ?_, free, ?_, ?_, ?_⟩
      · rw [starts, List.range_succ_eq_map, List.map_cons, List.map_map]
        simp only [readPages, read, pages, first, Function.comp_def, Nat.succ_eq_add_one,
          pageReading_succ]
      · rw [List.length_cons, length]
        omega
      · simpa using exchange
      · simpa using known

end

/-- A session that reads the pages of a query in their order, and for which no timer falls due between
two of them, reads all hits of the index, each in one page. It costs one search, a continuation for
each page after the first, and one release of all identifiers, apart from what the session gave up for
its first page. In the end it holds nothing. -/
theorem readPages_served {pause : Nat → Timers Paging.Alarm → Timers Paging.Alarm}
    (compiled : Filter.compile s.type q.predicate (q.native.getD {}) = .ok f)
    (plain : f.aggregations = none) (positive : 1 ≤ s.limit q) (fits : hits.length ≤ greatestCount)
    (served : scrolling.Serves s.config.indexName (· = s.request (pageQuery q session 0) f true) hits)
    (fresh : Slot.verdict (s.pageRequest q ⟨session, 0⟩) (p.slot? session) = .fresh)
    (spares : ∀ index, Timers.Spares p.store.ttlMillis (pause index)) :
    let count := pageCount (s.limit q) hits.length
    ∃ (continued scrollIds : List String) (made : List Call) (after : Paging.State σ),
      s.readPages b q session pause ((List.range count).map (· * s.limit q)) (.ofState p) =
        (.ok ((List.range count).map (s.pageReading q f hits count)), .ofState after) ∧
      made = Slot.releases (p.slot? session) ++
        .search s.config.indexName (s.request (pageQuery q session 0) f true) ::
          continued.map (.resume · s.config.scrollMillis) ∧
      after.connection.calls = p.connection.calls ++ made ++ [.release scrollIds] ∧
      continued.length = count - 1 ∧
      (∀ id, id ∈ scrollIds ↔ id ∈ b.givenIds made p.connection.state) ∧
      after.slot? session = none := by
  intro count
  obtain ⟨page, opened, read, turn, batch, gives⟩ :=
    read_first compiled plain positive fits served fresh
  have out : Opened scrolling s q f session p.connection p.store.ttlMillis _ 0 hits (.ofState p) page
      opened := ⟨read, turn.own, batch, gives, turn.exchange, turn.ttl⟩
  obtain ⟨continued, scrollIds, after, pages, free, length, exchange, known⟩ :=
    readPages_opened compiled positive spares rfl (by omega) out
  simp only [Nat.zero_add] at pages
  refine ⟨continued, scrollIds, _, after, pages, rfl, ?_, length, ?_, free⟩
  · simpa using exchange.calls
  · simpa using known

/-- Three hits on pages of two, of which the predicate rejects the second. -/
theorem two_pages_of_three_hits :
    let hit (id : String) (rank : Nat) : Hit :=
      { id, source := .object [("rank", .ofNat rank), ("best", .ofNat 1)] }
    let hits := [hit "a" 1, hit "b" 2, hit "c" 1]
    let s : FeatureSource := { type := { name := "places" } }
    let q : FeatureQuery :=
      { predicate := .compare .equal (.property "rank") (.property "best"), maxFeatures := some 2 }
    let p : Paging.State KeptScrolls :=
      { connection := { state := [] }, timers := {}, store := { ttlMillis := 60000 } }
    ∃ (continued scrollIds : List String) (after : Paging.State KeptScrolls) (request : SearchRequest),
      s.readPages (.listing fun _ => hits) q "s" (fun _ => Timers.wait 500) [0, 2] (.ofState p) =
        (.ok [{ taken := { hits := [hit "a" 1], ended := true }, isFinal := false },
            { taken := { hits := [hit "c" 1], ended := true }, isFinal := true }],
          .ofState after) ∧
      after.connection.calls =
        .search "features" request :: continued.map (.resume · 120000) ++ [.release scrollIds] ∧
      continued.length = 1 ∧ after.slot? "s" = none := by
  intro hit hits s q p
  let f : Filter := .ofParsed s.type q.predicate ⟨.matchAll, none, false⟩
  have compiled : Filter.compile s.type q.predicate (q.native.getD {}) = .ok f := by rfl
  have served : (Scrolling.ofListing fun _ => hits).Serves s.config.indexName
      (· = s.request (pageQuery q "s" 0) f true) hits :=
    Scrolling.ofListing_serves (fun _ _ => rfl) s.config.indexName
  have spares : Timers.Spares p.store.ttlMillis (Timers.wait 500 : Timers Paging.Alarm → _) :=
    Timers.spares_wait (by decide)
  have fresh : Slot.verdict (s.pageRequest q ⟨"s", 0⟩) (p.slot? "s") = .fresh := by rfl
  obtain ⟨continued, scrollIds, made, after, pages, rfl, calls, length, -, free⟩ :=
    readPages_served compiled rfl (by decide) (by decide) served fresh fun _ => spares
  have two : pageCount (s.limit q) hits.length = 2 := by decide
  have millis : s.config.scrollMillis = 120000 := by decide
  rw [two] at pages length
  rw [millis] at calls
  have first : s.pageReading q f hits 2 0 =
      { taken := { hits := [hit "a" 1], ended := true }, isFinal := false } := by
    have accepted : s.accepts q f (hit "a" 1) = true := by decide
    have rejected : s.accepts q f (hit "b" 2) = false := by decide
    change Reading.mk ⟨[hit "a" 1, hit "b" 2].filter (s.accepts q f), true, none⟩ _ = _
    rw [List.filter_cons_of_pos accepted, List.filter_cons_of_neg (by simp [rejected])]
    rfl
  have second : s.pageReading q f hits 2 1 =
      { taken := { hits := [hit "c" 1], ended := true }, isFinal := true } := by
    have accepted : s.accepts q f (hit "c" 1) = true := by decide
    change Reading.mk ⟨[hit "c" 1].filter (s.accepts q f), true, none⟩ _ = _
    rw [List.filter_cons_of_pos accepted]
    rfl
  refine ⟨continued, scrollIds, after, s.request (pageQuery q "s" 0) f true, ?_, calls, length, free⟩
  rw [← first, ← second]
  exact pages

end FeatureSource

end GeoSearch
