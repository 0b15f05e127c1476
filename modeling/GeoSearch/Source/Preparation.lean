import GeoSearch.Config
import GeoSearch.Geometry.Grid
import GeoSearch.Paging.Basic
import GeoSearch.Predicate.Bounds
import GeoSearch.Query.Filter
import GeoSearch.Source.FeatureQuery
/-!
Sources of features, and the search requests that their queries come to: how many hits, in which
order, with which fields, and with which grid precision in the aggregations.
-/
namespace GeoSearch

structure FeatureSource where
  type : FeatureType := {}
  config : Config := {}

structure PreparedSearch where
  request : SearchRequest
  filter : Filter

namespace FeatureSource

inductive Error where
  | filter (error : Filter.Error)
  | paging (error : Paging.Error)
  /-- a page of a source that has no store of pagers -/
  | pagingUnavailable
  deriving Repr, DecidableEq

namespace Error

def ofBackend (e : BackendError) : Error := paging (.backend e)

def code : Error → String
  | filter e => e.code
  | paging e => e.code
  | pagingUnavailable => "ESGEO_PAGING_UNAVAILABLE"

def message : Error → String
  | filter e => e.message
  | paging e => e.message
  | pagingUnavailable => "Paging requires a pager store"

def isFatal : Error → Bool
  | filter _ => true
  | paging e => e.isFatal
  | pagingUnavailable => true

end Error

def limit (s : FeatureSource) (q : FeatureQuery) : Nat := q.maxFeatures.getD s.config.maxFeatures

/-! ### Order -/

/-- The sort keys of a query that name a property. -/
def propertyKeys (s : FeatureSource) (q : FeatureQuery) : List Json :=
  q.sort.filterMap fun key =>
    key.property.map fun name => SearchRequest.sortKey (s.type.resolve name).field key.order.text

/-- The order of the identifiers: what the last key says that names no property. -/
def naturalOrder (q : FeatureQuery) : SortOrder :=
  match (q.sort.filter (·.property.isNone)).getLast? with
  | some key => key.order
  | none => .ascending

/-- Sorted queries end with the identifier, unless the caller's own query is scored. A scroll keeps
no other order. -/
def sortKeys (s : FeatureSource) (q : FeatureQuery) (f : Filter) (scroll : Bool) : List Json :=
  (if scroll then [] else s.propertyKeys q) ++
    if q.isSorted && f.native.isMatchAll then
      [SearchRequest.sortKey "_id" (if scroll then SortOrder.ascending else naturalOrder q).text]
    else []

/-! ### Fields -/

def sourceIncludes (s : FeatureSource) (q : FeatureQuery) : List String :=
  match q.properties with
  | some names => names.map fun name => (s.type.resolve name).field
  | none => (s.type.usedAttributes.filter (!·.stored)).map (·.field)

def storedFields (s : FeatureSource) (q : FeatureQuery) : List String :=
  match q.properties with
  | some _ => []
  | none => (s.type.usedAttributes.filter (·.stored)).map (·.field)

/-! ### Requests -/

/-- The level of grids that fits the part of the world the predicate leaves. -/
def gridLevel (s : FeatureSource) (q : FeatureQuery) : Nat :=
  Grid.precision q.predicate.bounds.box s.config.gridSize

/-- Hits wanted at once: a page, a round of a scroll, or none beside aggregations. -/
def requestSize (s : FeatureSource) (q : FeatureQuery) (f : Filter) : Nat :=
  if f.aggregations.isSome then 0
  else if q.isPaging then s.limit q
  else s.config.scrollSize

def request (s : FeatureSource) (q : FeatureQuery) (f : Filter) (scroll : Bool) : SearchRequest where
  query := f.query.document
  size := s.requestSize q f
  scrollMillis := if scroll then some s.config.scrollMillis else none
  sort := s.sortKeys q f scroll
  sourceIncludes := if s.config.sourceFiltering then s.sourceIncludes q else []
  storedFields := if s.config.sourceFiltering then s.storedFields q else []
  aggregations := f.aggregations.map (Grid.setPrecisions (s.gridLevel q))

def requestEvents (s : FeatureSource) (q : FeatureQuery) (f : Filter) : List Log.Event :=
  if f.aggregations.isSome then [.gridPrecisionResolved s.type.name (s.gridLevel q)] else []

def prepare (s : FeatureSource) (q : FeatureQuery) (scroll : Bool) (k : Connection σ) :
    Except Error PreparedSearch × Connection σ :=
  match Filter.compile s.type q.predicate (q.native.getD {}) with
  | .error e => (.error (.filter e), k)
  | .ok f =>
    (.ok { request := s.request q f scroll, filter := f },
      (f.events s.type ++ s.requestEvents q f).foldl Connection.report
        (k.count fun m => m.countCompilation f.exact))

end FeatureSource

end GeoSearch
