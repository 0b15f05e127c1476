import GeoSearch.Proofs.Source.Reading
import GeoSearch.Search.Listing
import GeoSearch.Source.Through
/-!
What a query without a page reads from an index that serves a list of hits: the first of those that
its predicate accepts, whether they come by one search or by a scroll.
-/
namespace GeoSearch

/-- Steps of an access that is no page lead to no page. -/
theorem Access.next_unpaged {b : Backend σ} {a a' : Access} {k k' : Connection σ}
    {answer : Option (Except BackendError Hit)} (read : a.next b k = (answer, a', k'))
    (unpaged : ∀ page, a ≠ .page page) (page : Paging.Page) : a' ≠ .page page := by
  unfold next at read
  split at read
  · cases read; exact unpaged page
  · cases read; nofun
  · cases read; exact unpaged page
  · cases read; nofun
  · cases read; nofun
  · next p => exact absurd rfl (unpaged p)

namespace FeatureSource

variable {b : Backend σ} {scrolling : Scrolling b} {s : FeatureSource} {q : FeatureQuery} {f : Filter}
  {k l : Connection σ} {hits : List Hit}

theorem accepts_postFilter (access : Access) (remaining : Nat) :
    FeatureReader.accepts { access, filter := s.postFilter? q f, remaining } = s.accepts q f := by
  funext hit
  cases exact : f.exact <;>
    simp [FeatureReader.accepts, postFilter?, accepts, PostFilter.accepts, exact]

/-- Compiling a query makes no call. -/
theorem prepare_ok (compiled : Filter.compile s.type q.predicate (q.native.getD {}) = .ok f)
    (b : Backend σ) (scroll : Bool) (k : Connection σ) :
    ∃ l, s.prepare q scroll k = (.ok { request := s.request q f scroll, filter := f }, l) ∧
      k.Exchange b l [] := by
  refine ⟨_, by simp only [prepare, compiled]; rfl, ?_⟩
  have reports (events : List Log.Event) (m : Connection σ) (quiet : k.Exchange b m []) :
      k.Exchange b (events.foldl Connection.report m) [] := by
    induction events generalizing m with
    | nil => exact quiet
    | cons e rest ih => exact ih _ (quiet.report e)
  exact reports _ _ ((Connection.Exchange.refl b k).count _)

def SearchesFor (s : FeatureSource) (q : FeatureQuery) (f : Filter) (request : SearchRequest) : Prop :=
  s.Asks q f request ∧ request.scrollMillis = none

/-- The searches for a query that open a scroll. They leave out the order of its properties. -/
def ScrollsFor (s : FeatureSource) (q : FeatureQuery) (f : Filter) (request : SearchRequest) : Prop :=
  s.Asks q f request ∧ request.scrollMillis.isSome

def fetched (s : FeatureSource) (wanted : Nat) (searched scrolled : List Hit) : List Hit :=
  if s.config.scrollEnabled && s.config.scrollSize < wanted then scrolled else searched

theorem fetched_self (s : FeatureSource) (wanted : Nat) (hits : List Hit) :
    s.fetched wanted hits hits = hits := ite_self ..

/-- Hits are fetched as many as are wanted, by a scroll or at once. -/
theorem fetch_served {scrolled : List Hit}
    (searches : scrolling.Serves s.config.indexName (s.SearchesFor q f) hits)
    (scrolls : scrolling.Serves s.config.indexName (s.ScrollsFor q f) scrolled)
    (plain : f.aggregations = none) (unpaged : q.page = none) (positive : 0 < s.config.scrollSize)
    (wanted : Nat) (k : Connection σ) :
    ∃ access l a m, s.fetch b q { request := s.request q f false, filter := f } wanted k =
        (.ok access, l) ∧
      Yields (Access.next b) access l ((s.fetched wanted hits scrolled).take wanted) a m ∧
      ∀ page, access ≠ .page page := by
  unfold fetch fetched
  split
  · have size : (s.request q f true).size = s.config.scrollSize := by
      simp [request, requestSize, plain, FeatureQuery.isPaging, unpaged]
    have asked : s.ScrollsFor q f (s.request q f true) := ⟨⟨true, _, rfl⟩, rfl⟩
    obtain ⟨c, l, opened, batch, -, fetch⟩ := Cursor.open?_served scrolls asked rfl
      (size ▸ positive) s.config.scrollMillis wanted k
    rw [size] at batch fetch
    obtain ⟨t, m, yields⟩ := HitStream.yields positive fetch
      (batch ▸ (List.take_append_drop s.config.scrollSize (scrolled.take wanted)).symm)
    refine ⟨_, l, _, m, by simp only [opened], Access.yields_stream yields, nofun⟩
  · have asked : s.SearchesFor q f { s.request q f false with size := wanted } :=
      ⟨⟨false, wanted, rfl⟩, rfl⟩
    obtain ⟨r, after, answer, -, found⟩ := searches.search k.state asked rfl
    obtain ⟨l, searched, -⟩ := Connection.search_ok answer
    refine ⟨.hits r.hits, l, .hits [], l, by simp only [searched], ?_, nofun⟩
    rw [← found]
    exact Access.yields_hits b l r.hits

/-- The index counts what it would find. -/
theorem candidates_served
    (searches : scrolling.Serves s.config.indexName (s.SearchesFor q f) hits) (k : Connection σ) :
    ∃ l, s.candidates b { request := s.request q f false, filter := f } k = (.ok hits.length, l) := by
  have asked : s.SearchesFor q f { s.request q f false with size := 0 } := ⟨⟨false, 0, rfl⟩, rfl⟩
  obtain ⟨r, after, answer, total, -⟩ := searches.search k.state asked rfl
  obtain ⟨l, counted, -⟩ := Connection.search_ok answer
  have same : k.search b s.config.indexName
      { s.request q f false with size := 0, scrollMillis := none } = (.ok r, l) := counted
  exact ⟨l, by simp only [candidates, same, total]⟩

/-- The hits that are fetched are enough: none that is left out could have been given. -/
theorem take_wanted (s : FeatureSource) (q : FeatureQuery) (f : Filter) (hits : List Hit) :
    ((hits.take (s.wanted q f hits.length)).filter (s.accepts q f)).take (s.limit q) =
      (hits.filter (s.accepts q f)).take (s.limit q) := by
  cases exact : f.exact with
  | true =>
    have all (hits : List Hit) : hits.filter (s.accepts q f) = hits :=
      List.filter_eq_self.mpr fun hit _ => by simp [accepts, exact]
    rw [all, all, List.take_take, List.take_eq_take_iff]
    simp only [wanted, exact, if_true]
    omega
  | false => simp [wanted, exact]

/-- A reader of a compiled query gives the first of the hits it is read from that the predicate
accepts. -/
theorem readPrepared_served {scrolled : List Hit}
    (searches : scrolling.Serves s.config.indexName (s.SearchesFor q f) hits)
    (scrolls : scrolling.Serves s.config.indexName (s.ScrollsFor q f) scrolled)
    (alike : scrolled.length = hits.length) (plain : f.aggregations = none) (unpaged : q.page = none)
    (positive : 0 < s.config.scrollSize) (k : Connection σ) :
    ∃ reader l r m, s.readPrepared b q { request := s.request q f false, filter := f } k =
        (.ok reader, l) ∧
      Yields (FeatureReader.next b) reader l
        (((s.fetched (s.wanted q f hits.length) hits scrolled).filter (s.accepts q f)).take (s.limit q))
        r m ∧
      ∀ page, r.access ≠ .page page := by
  have unaggregated : (s.request q f false).aggregations.isSome = false := by simp [request, plain]
  obtain ⟨k₂, candidates⟩ := candidates_served searches k
  obtain ⟨access, l, a, m, fetched, yields, outside⟩ := fetch_served searches scrolls plain unpaged
    positive (s.wanted q f hits.length) k₂
  obtain ⟨r, l', read, still⟩ := FeatureReader.yields (fun a _ => ∀ page, a ≠ .page page)
    (fun read => Access.next_unpaged read) yields
    { access, filter := s.postFilter? q f, remaining := s.limit q } rfl outside
  have length : (s.fetched (s.wanted q f hits.length) hits scrolled).length = hits.length := by
    unfold FeatureSource.fetched
    split
    · exact alike
    · rfl
  have enough := take_wanted s q f (s.fetched (s.wanted q f hits.length) hits scrolled)
  rw [length] at enough
  rw [accepts_postFilter, enough] at read
  refine ⟨_, l, r, l', ?_, read, still⟩
  simp only [readPrepared, unaggregated, candidates, fetched]
  rfl

theorem readAll_served {scrolled : List Hit}
    (compiled : Filter.compile s.type q.predicate (q.native.getD {}) = .ok f)
    (searches : scrolling.Serves s.config.indexName (s.SearchesFor q f) hits)
    (scrolls : scrolling.Serves s.config.indexName (s.ScrollsFor q f) scrolled)
    (alike : scrolled.length = hits.length) (plain : f.aggregations = none) (unpaged : q.page = none)
    (positive : 0 < s.config.scrollSize) (k : Connection σ) :
    ∃ reader l r m, s.readAll b q k = (.ok reader, l) ∧
      Yields (FeatureReader.next b) reader l
        (((s.fetched (s.wanted q f hits.length) hits scrolled).filter (s.accepts q f)).take (s.limit q))
        r m ∧
      ∀ page, r.access ≠ .page page := by
  obtain ⟨k₁, prepared, -⟩ := prepare_ok compiled b false k
  obtain ⟨reader, l, r, m, opened, yields, outside⟩ :=
    readPrepared_served searches scrolls alike plain unpaged positive k₁
  refine ⟨reader, l, r, m, ?_, yields, outside⟩
  simp only [readAll, prepared, opened]

theorem close_unpaged (b : Backend σ) {r : FeatureReader} (outside : ∀ page, r.access ≠ .page page)
    (d : Desk σ) : ∃ after, close b r d = (.ok (), after) := by
  unfold close
  split
  · next found _ => exact absurd found (outside _)
  · exact ⟨_, rfl⟩
  · exact ⟨_, rfl⟩

/-- The features of a query are the first of the hits it is read from that its predicate accepts. -/
theorem features_fetched {scrolled : List Hit}
    (compiled : Filter.compile s.type q.predicate (q.native.getD {}) = .ok f)
    (searches : scrolling.Serves s.config.indexName (s.SearchesFor q f) hits)
    (scrolls : scrolling.Serves s.config.indexName (s.ScrollsFor q f) scrolled)
    (alike : scrolled.length = hits.length) (plain : f.aggregations = none) (unpaged : q.page = none)
    (positive : 0 < s.config.scrollSize) (d : Desk σ) :
    s.features b q d =
      .ok {
        hits := ((s.fetched (s.wanted q f hits.length) hits scrolled).filter (s.accepts q f)).take
          (s.limit q)
        ended := true } := by
  obtain ⟨reader, l, r, m, opened, yields, outside⟩ :=
    readAll_served compiled searches scrolls alike plain unpaged positive d.connection
  have taken := FeatureReader.takeHits_of_yields yields
  obtain ⟨after, closed⟩ := close_unpaged b outside { d with connection := m }
  simp only [features, readThrough, read, unpaged, opened, taken, closed]
  rfl

/-- The same where scrolls keep the order of other searches. -/
theorem features_eq (compiled : Filter.compile s.type q.predicate (q.native.getD {}) = .ok f)
    (plain : f.aggregations = none) (unpaged : q.page = none) (positive : 0 < s.config.scrollSize)
    (served : scrolling.Serves s.config.indexName (s.Asks q f) hits) (d : Desk σ) :
    s.features b q d =
      .ok { hits := (hits.filter (s.accepts q f)).take (s.limit q), ended := true } := by
  rw [features_fetched compiled (served.mono fun _ => And.left) (served.mono fun _ => And.left) rfl plain
    unpaged positive d, fetched_self]

end FeatureSource

end GeoSearch
