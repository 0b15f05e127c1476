import GeoSearch.Proofs.Search.Exchange
import GeoSearch.Proofs.Source.Pages
/-!
Reading a query with native aggregations. Without a page it makes one search, for no hits, and reads
the buckets of the answer. A page comes before the aggregations: it is read from a cursor, and the
buckets of the answer that opened the cursor are read by nobody.
-/
namespace GeoSearch

/-- The records of an aggregation hold its buckets, in their order. -/
theorem map_source_bucketRecords (aggregations : Option Json) :
    (bucketRecords aggregations).map (·.source) =
      ((firstBuckets? aggregations).getD []).map fun bucket => .object [(bucketAttribute, bucket)] := by
  apply List.ext_getElem?
  intro position
  simp [bucketRecords, bucketRecord, Function.comp_def]

theorem NativeQuery.parse_of_aggregations {q : NativeQuery}
    (reads : (q.parse.toOption.bind (·.aggregations)).isSome = true) :
    ∃ own aggregations, q.parse = .ok own ∧ own.aggregations = some aggregations := by
  cases parse : q.parse with
  | error e => simp [parse, Except.toOption] at reads
  | ok own =>
    simp only [parse, Except.toOption, Option.bind_some] at reads
    obtain ⟨aggregations, carries⟩ := Option.isSome_iff_exists.mp reads
    exact ⟨own, aggregations, rfl, carries⟩

/-- A native query that was read is compiled, if the dates beside it can be written. -/
theorem Filter.compile_of_parse {type : FeatureType} {p : Predicate} {native : NativeQuery}
    {own : NativeQuery.Parsed} (parsed : native.parse = .ok own)
    (writable : own.exclusive = true ∨ p.datesWritable type = true) :
    compile type p native = .ok (ofParsed type p own) := by
  have passes : (!own.exclusive && !p.datesWritable type) = false := by
    rcases writable with exclusive | dates <;> simp [*]
  simp only [compile, parsed, passes, Bool.false_eq_true, if_false]

namespace Access

theorem yields_buckets (b : Backend σ) (k : Connection σ) (records : List Hit) :
    Yields (next b) (.buckets records) k records (.buckets []) k := by
  induction records with
  | nil => exact .ended rfl
  | cons record rest ih => exact .hit rfl ih

/-- Reading buckets makes no call. -/
theorem next_buckets {b : Backend σ} {a after : Access} {k l m : Connection σ}
    {answer : Option (Except BackendError Hit)} (read : a.next b k = (answer, after, l))
    (before : (∃ rest, a = .buckets rest) ∧ k = m) : (∃ rest, after = .buckets rest) ∧ l = m := by
  obtain ⟨⟨_ | ⟨record, rest⟩, rfl⟩, rfl⟩ := before
  · cases read
    exact ⟨⟨[], rfl⟩, rfl⟩
  · cases read
    exact ⟨⟨rest, rfl⟩, rfl⟩

end Access

namespace FeatureSource

open Paging (Page PageRequest Slot)

variable {b : Backend σ} {s : FeatureSource} {q : FeatureQuery} {f : Filter}
  {own : NativeQuery.Parsed} {aggregations : Json.Members}

/-- Beside aggregations no hits are asked for. -/
theorem request_of_aggregations (carries : f.aggregations = some aggregations) (scroll : Bool) :
    (s.request q f scroll).size = 0 ∧
      (s.request q f scroll).aggregations =
        some (Grid.setPrecisions (s.gridLevel q) aggregations) := by
  constructor
  · simp [request, requestSize, carries]
  · simp [request, carries]

/-- A reader of buckets gives all of them, and leaves the index alone. -/
theorem takeHits_buckets (records : List Hit) (few : records.length ≤ greatestCount)
    (k : Connection σ) :
    ∃ rest, FeatureReader.takeHits b none { access := .buckets records } k =
      ({ hits := records, ended := true }, rest, k) ∧ ∃ left, rest.access = .buckets left := by
  obtain ⟨rest, l, yields, left, rfl⟩ := FeatureReader.yields _ (fun read => Access.next_buckets read)
    (Access.yields_buckets b k records) { access := .buckets records } rfl ⟨⟨records, rfl⟩, rfl⟩
  have all : (records.filter (FeatureReader.accepts { access := .buckets records })).take
      greatestCount = records := by
    have accepted : records.filter (FeatureReader.accepts { access := .buckets records }) = records :=
      List.filter_eq_self.mpr fun _ _ => rfl
    rw [accepted, List.take_of_length_le few]
  rw [all] at yields
  exact ⟨rest, FeatureReader.takeHits_of_yields yields, left⟩

/-- Without a page the aggregations are searched for, and nothing else. -/
theorem readAll_aggregations (compiled : Filter.compile s.type q.predicate (q.native.getD {}) = .ok f)
    (carries : f.aggregations = some aggregations) (k : Connection σ) :
    ∃ l, k.Exchange b l [.search s.config.indexName (s.request q f false)] ∧
      s.readAll b q k =
        (match (b.search s.config.indexName (s.request q f false) k.state).1 with
          | .ok r => .ok { access := .buckets (bucketRecords r.aggregations) }
          | .error e => .error (.ofBackend e), l) := by
  obtain ⟨k₁, prepared, quiet⟩ := prepare_ok compiled b false k
  have aggregated : (s.request q f false).aggregations.isSome = true := by
    rw [(request_of_aggregations carries false).2]
    rfl
  have answer := Connection.search_answer k₁ b s.config.indexName (s.request q f false)
  have exchange : k₁.Exchange b (k₁.search b s.config.indexName (s.request q f false)).2
      [.search s.config.indexName (s.request q f false)] := ⟨answer.2.2, answer.2.1⟩
  refine ⟨_, quiet.trans exchange, ?_⟩
  rw [← quiet.quiet, ← answer.1]
  simp only [readAll, prepared, readPrepared, aggregated, if_true]
  rcases k₁.search b s.config.indexName (s.request q f false) with ⟨_ | _, _⟩ <;> rfl

/-- A page that was opened holds the place of its session. -/
theorem openPage_holds {request : SearchRequest} {r : PageRequest} {p after : Paging.State σ}
    {page : Page} (opened : s.openPage b request r p = (.ok page, after)) :
    after.slot? r.session = some page.slot := by
  unfold openPage at opened
  split at opened
  · cases opened
  · next answer =>
    cases opened
    obtain ⟨-, -, -, -, -, -, change⟩ := Paging.State.begin_resume answer
    exact change.own
  · next between _ =>
    split at opened
    · cases opened
    · next cursor connection _ =>
      obtain ⟨started, start, change⟩ :=
        Paging.State.change_start b { between with connection } r cursor
      rw [start] at opened
      cases opened
      exact change.own

theorem readPage_holds {page : PageStart} {reader : FeatureReader} {p after : Paging.State σ}
    (opened : s.readPage b q page p = (.ok reader, after)) :
    ∃ out, reader.access = .page out ∧ after.slot? page.session = some out.slot := by
  unfold readPage at opened
  split at opened
  · cases opened
  · split at opened
    · cases opened
    · next out held answer =>
      cases opened
      exact ⟨out, rfl, openPage_holds answer⟩

/-- A page comes before everything else that a query carries. -/
theorem read_paged {page : PageStart} {reader : FeatureReader} {d after : Desk σ}
    (paged : q.page = some page) (opened : s.read b q d = (.ok reader, after)) :
    ∃ out p, reader.access = .page out ∧ after = .ofState p ∧
      p.slot? page.session = some out.slot := by
  simp only [read, paged] at opened
  split at opened
  · cases opened
  · next p _ =>
    rcases answer : s.readPage b q page p with ⟨_ | read, held⟩
    · rw [answer] at opened
      cases opened
    · rw [answer] at opened
      cases opened
      obtain ⟨out, access, slot⟩ := readPage_holds answer
      exact ⟨out, held, access, rfl, slot⟩

/-- A query with aggregations and without a page makes one search, for no hits and without a scroll;
it opens no pager, and reads one record for each bucket of the first aggregation of the answer. With a
page it reads no buckets: it opens a page of its session. -/
theorem read_aggregations (parsed : (q.native.getD {}).parse = .ok own)
    (carries : own.aggregations = some aggregations)
    (writable : own.exclusive = true ∨ q.predicate.datesWritable s.type = true) (d : Desk σ) :
    let request := s.request q (.ofParsed s.type q.predicate own) false
    let answer := (b.search s.config.indexName request d.connection.state).1
    (request.size = 0 ∧ request.scrollMillis = none ∧
      request.aggregations = some (Grid.setPrecisions (s.gridLevel q) aggregations)) ∧
    (q.page = none → ∃ l, d.connection.Exchange b l [.search s.config.indexName request] ∧
      (∀ e, answer = .error e →
        s.readThrough b q d = (.error (.ofBackend e), { d with connection := l })) ∧
      ∀ r, answer = .ok r → (bucketRecords r.aggregations).length ≤ greatestCount →
        s.readThrough b q d =
          (.ok { taken := { hits := bucketRecords r.aggregations, ended := true }, isFinal := true },
            { d with connection := l }) ∧
        (bucketRecords r.aggregations).map (·.source) =
          ((firstBuckets? r.aggregations).getD []).map fun bucket =>
            .object [(bucketAttribute, bucket)]) ∧
    (∀ page reader after, q.page = some page → s.read b q d = (.ok reader, after) →
      reader.isAggregation = false ∧
        ∃ out p, after = .ofState p ∧ p.slot? page.session = some (Page.slot out)) := by
  intro request answer
  have compiled : Filter.compile s.type q.predicate (q.native.getD {}) =
      .ok (.ofParsed s.type q.predicate own) := Filter.compile_of_parse parsed writable
  have carried : (Filter.ofParsed s.type q.predicate own).aggregations = some aggregations := carries
  obtain ⟨none, aggregated⟩ := request_of_aggregations (s := s) (q := q) carried false
  refine ⟨⟨none, rfl, aggregated⟩, ?_, ?_⟩
  · intro unpaged
    obtain ⟨l, exchange, read⟩ := readAll_aggregations (b := b) compiled carried d.connection
    have opened : s.read b q d =
        (match answer with
          | .ok r => .ok { access := .buckets (bucketRecords r.aggregations) }
          | .error e => .error (.ofBackend e), { d with connection := l }) := by
      simp only [FeatureSource.read, unpaged, read]
      rfl
    refine ⟨l, exchange, ?_, ?_⟩
    · intro e failed
      rw [failed] at opened
      simp only [readThrough, opened]
    · intro r found few
      rw [found] at opened
      obtain ⟨rest, taken, left, buckets⟩ := takeHits_buckets (b := b) _ few l
      refine ⟨?_, map_source_bucketRecords r.aggregations⟩
      simp only [readThrough, opened, taken, close, buckets, FeatureReader.isFinal]
  · intro page reader after paged opened
    obtain ⟨out, p, access, held, slot⟩ := read_paged paged opened
    refine ⟨?_, out, p, held, slot⟩
    simp only [FeatureReader.isAggregation, access]

/-- Two buckets are read of a sorted query with a limit of one, though the index leaves its predicate
to the reader. -/
theorem two_buckets_of_a_limited_query :
    let bucket (key : String) : Json := .object [("key", .string key)]
    let response : SearchResponse :=
      { total := 3, hits := []
        aggregations := some (.object [("kinds", .object [("buckets", .array [bucket "a", bucket "b"])])]) }
    let index : Backend Unit :=
      { search := fun _ _ state => (.ok response, state)
        resume := fun _ _ state => (.ok response, state)
        release := fun _ state => (.ok (), state) }
    let s : FeatureSource := { type := { name := "places" } }
    let q : FeatureQuery :=
      { predicate := .compare .equal (.property "rank") (.property "best")
        native := some
          { aggregations := some "\x7b\"kinds\":\x7b\"terms\":\x7b\"field\":\"kind\"\x7d\x7d\x7d" }
        sort := [{ property := some "rank" }]
        maxFeatures := some 1 }
    ∃ after, s.readThrough index q { connection := { state := () } } =
      (.ok {
          taken := { hits := [bucketRecord 0 (bucket "a"), bucketRecord 1 (bucket "b")], ended := true }
          isFinal := true }, after) := by
  intro bucket response index s q
  obtain ⟨own, aggregations, parsed, carries⟩ :=
    NativeQuery.parse_of_aggregations (q := q.native.getD {}) (by decide +kernel)
  obtain ⟨-, unpaged, -⟩ := read_aggregations (b := index) (s := s) parsed carries (.inr rfl)
    { connection := { state := () } }
  obtain ⟨l, -, -, found⟩ := unpaged rfl
  exact ⟨_, (found response rfl (by decide)).1⟩

/-- The same query for the first page of a session reads nothing, though the index answers it with
two buckets. -/
theorem page_of_aggregations_reads_no_bucket :
    let bucket (key : String) : Json := .object [("key", .string key)]
    let response : SearchResponse :=
      { total := 3, hits := [], scrollId := some "scroll-1"
        aggregations := some (.object [("kinds", .object [("buckets", .array [bucket "a", bucket "b"])])]) }
    let index : Backend Unit :=
      { search := fun _ _ state => (.ok response, state)
        resume := fun _ _ state => (.ok response, state)
        release := fun _ state => (.ok (), state) }
    let s : FeatureSource := { type := { name := "places" } }
    let q : FeatureQuery :=
      { predicate := .compare .equal (.property "rank") (.property "best")
        native := some
          { aggregations := some "\x7b\"kinds\":\x7b\"terms\":\x7b\"field\":\"kind\"\x7d\x7d\x7d" }
        sort := [{ property := some "rank" }]
        maxFeatures := some 1 }
    let p : Paging.State Unit :=
      { connection := { state := () }, timers := {}, store := { ttlMillis := 60000 } }
    (∃ own aggregations, (q.native.getD {}).parse = .ok own ∧ own.aggregations = some aggregations) ∧
      (bucketRecords response.aggregations).length = 2 ∧
      ∃ after, s.readThrough index (pageQuery q "s" 0) (.ofState p) =
        (.ok { taken := { hits := [], ended := true }, isFinal := true }, .ofState after) := by
  intro bucket response index s q p
  obtain ⟨own, aggregations, parsed, carries⟩ :=
    NativeQuery.parse_of_aggregations (q := q.native.getD {}) (by decide +kernel)
  refine ⟨⟨own, aggregations, parsed, carries⟩, by decide, ?_⟩
  let f : Filter := .ofParsed s.type q.predicate own
  let request := s.request (pageQuery q "s" 0) f true
  let r := s.pageRequest (pageQuery q "s" 0) ⟨"s", 0⟩
  have compiled : Filter.compile s.type q.predicate (q.native.getD {}) = .ok f :=
    Filter.compile_of_parse parsed (.inr rfl)
  obtain ⟨k, prepared, -⟩ := prepare_ok (q := pageQuery q "s" 0) compiled index true p.connection
  obtain ⟨p₁, begun, clear⟩ := Paging.State.turn_fresh (b := index) (p := { p with connection := k })
    (r := r) rfl
  let cursor := Cursor.ofResponse s.config.scrollMillis response (min greatestCount response.total)
  obtain ⟨l, opened⟩ : ∃ l, Cursor.open? index s.config.scrollMillis s.config.indexName request
      greatestCount p₁.connection = (.ok cursor, l) := ⟨_, rfl⟩
  obtain ⟨p₂, started, start⟩ := Paging.State.turn_start (p := { p₁ with connection := l }) (r := r)
    index cursor clear.own
  have page : s.openPage index request r { p with connection := k } =
      (.ok (r.firstPage p₁.store.issued cursor), p₂) := by
    simp only [openPage, begun, opened, started]
  obtain ⟨batch, closing⟩ := readThrough_page (read_page prepared page) (Nat.zero_le _)
  let left : Page := { r.firstPage p₁.store.issued cursor with cursor := { cursor with batch } }
  have holds : p₂.slot? left.session = some left.slot := start.own
  obtain ⟨after, closed, -⟩ := Paging.State.turn_finish index holds rfl
  exact ⟨after, closing after closed⟩

end FeatureSource

end GeoSearch
