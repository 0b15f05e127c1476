import GeoSearch.Proofs.Source.Features
/-!
Counting the features of a query. The index counts them for a query that it answers exactly; for any
other they are read without a limit and counted one by one. Either way there are as many as reading
the query gives.
-/
namespace GeoSearch.FeatureSource

variable {b : Backend σ} {scrolling : Scrolling b} {s : FeatureSource} {q : FeatureQuery} {f : Filter}
  {hits scrolled : List Hit}

/-- Without native aggregations there are none in the compiled query. -/
theorem aggregations_of_compile
    (compiled : Filter.compile s.type q.predicate (q.native.getD {}) = .ok f)
    (plain : (q.native.getD {}).aggregations = none) : f.aggregations = none := by
  obtain ⟨parsed, read, rfl⟩ := Filter.ofParsed_of_compile compiled
  obtain ⟨-, aggregations⟩ := NativeQuery.parse_ok read
  rw [plain] at aggregations
  exact (Except.ok.inj aggregations).symm

/-- Where an index answers a query exactly, its predicate accepts every hit. -/
theorem countP_of_exact (exact : f.exact = true) (hits : List Hit) :
    hits.countP (s.accepts q f) = hits.length := by
  apply List.countP_eq_length.mpr
  intro hit _
  simp [accepts, exact]

theorem length_taken (limit : Nat) (accepts : Hit → Bool) (hits : List Hit) :
    ((hits.filter accepts).take limit).length = min (hits.countP accepts) limit := by
  rw [List.length_take, ← List.countP_eq_length_filter, Nat.min_comm]

/-- Hits that come in another order are accepted as often. -/
theorem countP_fetched (alike : hits.Perm scrolled) (wanted : Nat) (accepts : Hit → Bool) :
    (s.fetched wanted hits scrolled).countP accepts = hits.countP accepts := by
  unfold fetched
  split
  · exact (alike.countP_eq accepts).symm
  · rfl

def unlimited (q : FeatureQuery) : FeatureQuery :=
  { q with page := none, maxFeatures := some greatestCount }

/-- A limit is no part of a request for hits without a page. -/
theorem request_unlimited (unpaged : q.page = none) (scroll : Bool) :
    s.request (unlimited q) f scroll = s.request q f scroll := by
  have size : s.requestSize (unlimited q) f = s.requestSize q f := by
    simp [requestSize, FeatureQuery.isPaging, unlimited, unpaged]
  unfold request
  rw [size]
  rfl

theorem asks_unlimited (unpaged : q.page = none) : s.Asks (unlimited q) f = s.Asks q f := by
  unfold Asks
  simp only [request_unlimited unpaged]

/-- Reading without a limit comes to all hits that the predicate accepts. -/
theorem countByReading_served
    (searches : scrolling.Serves s.config.indexName (s.SearchesFor q f) hits)
    (scrolls : scrolling.Serves s.config.indexName (s.ScrollsFor q f) scrolled)
    (alike : hits.Perm scrolled) (plain : f.aggregations = none) (unpaged : q.page = none)
    (positive : 0 < s.config.scrollSize) (fits : hits.length ≤ greatestCount) (k : Connection σ) :
    ∃ l, s.countByReading b q { request := s.request q f false, filter := f } k =
      (.ok (hits.countP (s.accepts q f)), l) := by
  have searches : scrolling.Serves s.config.indexName (s.SearchesFor (unlimited q) f) hits :=
    searches.mono fun _ ⟨asked, once⟩ => ⟨asks_unlimited unpaged ▸ asked, once⟩
  have scrolls : scrolling.Serves s.config.indexName (s.ScrollsFor (unlimited q) f) scrolled :=
    scrolls.mono fun _ ⟨asked, kept⟩ => ⟨asks_unlimited unpaged ▸ asked, kept⟩
  obtain ⟨reader, l, r, m, opened, yields, -⟩ :=
    readPrepared_served searches scrolls alike.length_eq.symm plain rfl positive k
  rw [request_unlimited unpaged, unlimited] at opened
  have taken := FeatureReader.takeHits_of_yields yields
  have accepted : s.accepts (unlimited q) f = s.accepts q f := rfl
  have few : hits.countP (s.accepts q f) ≤ greatestCount := Nat.le_trans List.countP_le_length fits
  have number : min (hits.countP (s.accepts q f)) (s.limit (unlimited q)) =
      hits.countP (s.accepts q f) := Nat.min_eq_left few
  refine ⟨m, ?_⟩
  simp only [countByReading, opened, taken, length_taken, accepted, countP_fetched alike, number]

/-- The features of a query are counted to be the hits that its predicate accepts, up to its limit. -/
theorem count_served (compiled : Filter.compile s.type q.predicate (q.native.getD {}) = .ok f)
    (searches : scrolling.Serves s.config.indexName (s.SearchesFor q f) hits)
    (scrolls : scrolling.Serves s.config.indexName (s.ScrollsFor q f) scrolled)
    (alike : hits.Perm scrolled) (plain : f.aggregations = none) (unpaged : q.page = none)
    (positive : 0 < s.config.scrollSize) (fits : hits.length ≤ greatestCount) (k : Connection σ) :
    (s.count b q k).1 = .ok (min (hits.countP (s.accepts q f)) (s.limit q)) := by
  obtain ⟨k₁, prepared, -⟩ := prepare_ok compiled b false k
  cases exact : f.exact with
  | true =>
    obtain ⟨l, counted⟩ := candidates_served searches k₁
    simp only [count, prepared, exact, if_true, counted, countP_of_exact exact]
  | false =>
    obtain ⟨l, counted⟩ :=
      countByReading_served searches scrolls alike plain unpaged positive fits k₁
    simp only [count, prepared, exact, Bool.false_eq_true, if_false, counted]

/-- A query is counted to have as many features as are read of it. The index may give its hits to
scrolls in another order than to other searches, as it does where a query is sorted. -/
theorem count_eq_length_features
    (compiled : Filter.compile s.type q.predicate (q.native.getD {}) = .ok f)
    (unpaged : q.page = none) (plain : (q.native.getD {}).aggregations = none)
    (positive : 1 ≤ s.config.scrollSize) (fits : hits.length ≤ greatestCount)
    (searches : scrolling.Serves s.config.indexName (s.SearchesFor q f) hits)
    (scrolls : scrolling.Serves s.config.indexName (s.ScrollsFor q f) scrolled)
    (alike : hits.Perm scrolled) (k : Connection σ) (d : Desk σ) :
    ∃ taken, s.features b q d = .ok taken ∧ taken.ended = true ∧ taken.failure = none ∧
      (s.count b q k).1 = .ok taken.hits.length := by
  have plain := aggregations_of_compile compiled plain
  have read := features_fetched compiled searches scrolls alike.length_eq.symm plain unpaged positive d
  refine ⟨_, read, rfl, rfl, ?_⟩
  rw [count_served compiled searches scrolls alike plain unpaged positive fits k, length_taken,
    countP_fetched alike]

/-- Three hits, sorted by rank except in scrolls, which come in rounds of one. Two of them are read,
and counted, whose rank is the best. -/
theorem two_best_of_three_ranks :
    let hit (id : String) (rank : Nat) : Hit :=
      { id, source := .object [("rank", .ofNat rank), ("best", .ofNat 1)] }
    let sorted := [hit "a" 1, hit "c" 1, hit "b" 2]
    let stored := [hit "a" 1, hit "b" 2, hit "c" 1]
    let index : Backend KeptScrolls :=
      .listing fun request => if request.scrollMillis.isSome then stored else sorted
    let s : FeatureSource := { type := { name := "places" }, config := { scrollSize := 1 } }
    let q : FeatureQuery :=
      { predicate := .compare .equal (.property "rank") (.property "best")
        sort := [{ property := some "rank" }] }
    ∃ taken, s.features index q { connection := { state := [] } } = .ok taken ∧
      taken.hits.length = 2 ∧ (s.count index q { state := [] }).1 = .ok 2 := by
  intro hit sorted stored index s q
  let f : Filter := .ofParsed s.type q.predicate ⟨.matchAll, none, false⟩
  have compiled : Filter.compile s.type q.predicate (q.native.getD {}) = .ok f := by rfl
  have searches : (Scrolling.ofListing _ : Scrolling index).Serves s.config.indexName
      (s.SearchesFor q f) sorted := by
    apply Scrolling.ofListing_serves
    rintro request ⟨-, once⟩
    simp [once]
  have scrolls : (Scrolling.ofListing _ : Scrolling index).Serves s.config.indexName
      (s.ScrollsFor q f) stored := by
    apply Scrolling.ofListing_serves
    rintro request ⟨-, kept⟩
    simp [kept]
  have alike : sorted.Perm stored := .cons _ (.swap _ _ _)
  obtain ⟨taken, read, -, -, counted⟩ := count_eq_length_features compiled rfl rfl (by decide)
    (by decide) searches scrolls alike { state := [] } { connection := { state := [] } }
  have limit : s.limit q = 10000 := by decide
  have two : (s.count index q { state := [] }).1 = .ok 2 := by
    rw [count_served compiled searches scrolls alike rfl rfl (by decide) (by decide) _, limit]
    have accepted : sorted.countP (s.accepts q f) = 2 := by decide
    rw [accepted]
    rfl
  rw [two] at counted
  exact ⟨taken, read, (Except.ok.inj counted).symm, two⟩

end GeoSearch.FeatureSource
