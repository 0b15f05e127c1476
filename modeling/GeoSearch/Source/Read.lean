import GeoSearch.Source.Preparation
import GeoSearch.Source.Reader
/-!
Reading, counting and aggregating the features of a source.

A query with aggregations reads their buckets. Any other reads all hits by a scroll when scrolling is
enabled and more are wanted than one round holds, and by a single search otherwise; the page of a
session is read from the session's cursor. Where the compiled query leaves a part of the predicate
out, every candidate is fetched, and held to the predicate when it is read.
-/
namespace GeoSearch.FeatureSource

/-- An index and timers, with a store of pagers where pages can be read. -/
structure Desk (σ : Type) where
  connection : Connection σ
  timers : Timers Paging.Alarm := {}
  store : Option Paging.Store := none

namespace Desk

/-- A state of a store that takes the place of what was there before. -/
def ofState (p : Paging.State σ) : Desk σ :=
  { connection := p.connection, timers := p.timers, store := some p.store }

def state? (d : Desk σ) : Option (Paging.State σ) :=
  d.store.map fun store => { connection := d.connection, timers := d.timers, store }

end Desk

/-- What the predicate still has to be asked about a hit. -/
def postFilter? (s : FeatureSource) (q : FeatureQuery) (f : Filter) : Option PostFilter :=
  if f.exact then none else some { type := s.type, predicate := q.predicate }

/-- Hits that the index holds for the compiled query. -/
def candidates (b : Backend σ) (s : FeatureSource) (p : PreparedSearch) (k : Connection σ) :
    Except BackendError Nat × Connection σ :=
  match k.search b s.config.indexName { p.request with size := 0, scrollMillis := none } with
  | (.ok r, k) => (.ok r.total, k)
  | (.error e, k) => (.error e, k)

/-- Hits to be fetched: all candidates if some may be dropped later. -/
def wanted (s : FeatureSource) (q : FeatureQuery) (f : Filter) (candidates : Nat) : Nat :=
  if f.exact then min candidates (s.limit q) else candidates

/-- Fetches hits, by a scroll if there are too many for one search. -/
def fetch (b : Backend σ) (s : FeatureSource) (q : FeatureQuery) (p : PreparedSearch) (wanted : Nat)
    (k : Connection σ) : Except BackendError Access × Connection σ :=
  if s.config.scrollEnabled && s.config.scrollSize < wanted then
    match Cursor.open? b s.config.scrollMillis s.config.indexName (s.request q p.filter true) wanted k with
    | (.ok cursor, k) => (.ok (.stream { cursor }), k)
    | (.error e, k) => (.error e, k)
  else
    match k.search b s.config.indexName { p.request with size := wanted } with
    | (.ok r, k) => (.ok (.hits r.hits), k)
    | (.error e, k) => (.error e, k)

def readPrepared (b : Backend σ) (s : FeatureSource) (q : FeatureQuery) (p : PreparedSearch)
    (k : Connection σ) : Except BackendError FeatureReader × Connection σ :=
  if p.request.aggregations.isSome then
    match k.search b s.config.indexName p.request with
    | (.ok r, k) => (.ok { access := .buckets (bucketRecords r.aggregations) }, k)
    | (.error e, k) => (.error e, k)
  else
    match s.candidates b p k with
    | (.error e, k) => (.error e, k)
    | (.ok total, k) =>
      match s.fetch b q p (s.wanted q p.filter total) k with
      | (.error e, k) => (.error e, k)
      | (.ok access, k) =>
        (.ok { access, filter := s.postFilter? q p.filter, remaining := s.limit q }, k)

def readAll (b : Backend σ) (s : FeatureSource) (q : FeatureQuery) (k : Connection σ) :
    Except Error FeatureReader × Connection σ :=
  match s.prepare q false k with
  | (.error e, k) => (.error e, k)
  | (.ok p, k) =>
    match s.readPrepared b q p k with
    | (.ok reader, k) => (.ok reader, k)
    | (.error e, k) => (.error (.ofBackend e), k)

def pageRequest (s : FeatureSource) (q : FeatureQuery) (page : PageStart) : Paging.PageRequest where
  session := page.session
  key := q.key s.type.name
  start := page.index
  size := s.limit q

/-- The page of a request: the next one of the session's cursor, or the first of a new cursor. -/
def openPage (b : Backend σ) (s : FeatureSource) (request : SearchRequest) (r : Paging.PageRequest)
    (p : Paging.State σ) : Except Paging.Error Paging.Page × Paging.State σ :=
  match p.begin b r with
  | (.error e, p) => (.error e, p)
  | (.ok (.resume page), p) => (.ok page, p)
  | (.ok .fresh, p) =>
    match Cursor.open? b s.config.scrollMillis s.config.indexName request greatestCount p.connection with
    | (.error e, connection) => (.error (.backend e), { p with connection })
    | (.ok cursor, connection) =>
      let (page, p) := Paging.State.start b { p with connection } r cursor
      (.ok page, p)

/-- Opens a reader on a page of a session. The query is compiled before its place is looked at. -/
def readPage (b : Backend σ) (s : FeatureSource) (q : FeatureQuery) (page : PageStart)
    (p : Paging.State σ) : Except Error FeatureReader × Paging.State σ :=
  match s.prepare q true p.connection with
  | (.error e, connection) => (.error e, { p with connection })
  | (.ok prepared, connection) =>
    match s.openPage b prepared.request (s.pageRequest q page) { p with connection } with
    | (.error e, p) => (.error (.paging e), p)
    | (.ok page, p) =>
      (.ok { access := .page page, filter := s.postFilter? q prepared.filter }, p)

def read (b : Backend σ) (s : FeatureSource) (q : FeatureQuery) (d : Desk σ) :
    Except Error FeatureReader × Desk σ :=
  match q.page with
  | none =>
    match s.readAll b q d.connection with
    | (answer, connection) => (answer, { d with connection })
  | some page =>
    match d.state? with
    | none => (.error .pagingUnavailable, d)
    | some p =>
      match s.readPage b q page p with
      | (answer, p) => (answer, .ofState p)

/-- The number of hits that a query without a limit and a page reads. -/
def countByReading (b : Backend σ) (s : FeatureSource) (q : FeatureQuery) (p : PreparedSearch)
    (k : Connection σ) : Except BackendError Nat × Connection σ :=
  match s.readPrepared b { q with page := none, maxFeatures := some greatestCount } p k with
  | (.error e, k) => (.error e, k)
  | (.ok reader, k) =>
    match reader.takeHits b none k with
    | (taken, _, k) =>
      match taken.failure with
      | some e => (.error e, k)
      | none => (.ok taken.hits.length, k)

/-- The number of features of a query. The index counts them, unless its answer may hold others. -/
def count (b : Backend σ) (s : FeatureSource) (q : FeatureQuery) (k : Connection σ) :
    Except Error Nat × Connection σ :=
  match s.prepare q false k with
  | (.error e, k) => (.error e, k)
  | (.ok p, k) =>
    match if p.filter.exact then s.candidates b p k else s.countByReading b q p k with
    | (.ok total, k) => (.ok (min total (s.limit q)), k)
    | (.error e, k) => (.error (.ofBackend e), k)

/-- What the index answers to the aggregations of a query, if it has any. -/
def aggregate (b : Backend σ) (s : FeatureSource) (q : FeatureQuery) (k : Connection σ) :
    Except Error (Option Json) × Connection σ :=
  match s.prepare q false k with
  | (.error e, k) => (.error e, k)
  | (.ok p, k) =>
    if p.request.aggregations.isNone then (.ok none, k)
    else
      match k.search b s.config.indexName p.request with
      | (.ok r, k) => (.ok r.aggregations, k)
      | (.error e, k) => (.error (.ofBackend e), k)

end GeoSearch.FeatureSource
