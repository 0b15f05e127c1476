import GeoSearch.Search.Response
import GeoSearch.Json.Printer
import GeoSearch.Paging.Pages
import GeoSearch.Predicate.Evaluation
import GeoSearch.Scroll.Stream
/-!
Readers of features. A reader takes hits from wherever its query is answered from, drops those that
its predicate rejects, and stops at its limit. The buckets of an aggregation are read as records.
-/
namespace GeoSearch

def bucketAttribute : String := "_aggregation"

/-- The identifier of a bucket: its key, or its position when it has none. -/
def bucketId (position : Nat) (bucket : Json) : String :=
  match bucket.member? "key" with
  | some (.string key) => key
  | some key => key.text
  | none => toString position

def bucketRecord (position : Nat) (bucket : Json) : Hit :=
  { id := bucketId position bucket, source := .object [(bucketAttribute, bucket)] }

def firstBuckets? (aggregations : Option Json) : Option (List Json) := do
  let members ← (← aggregations).asObject?
  let (_, first) ← members.head?
  (← first.member? "buckets").asArray?

/-- One record for each bucket of the first aggregation; later ones are left out. -/
def bucketRecords (aggregations : Option Json) : List Hit :=
  ((firstBuckets? aggregations).getD []).mapIdx bucketRecord

/-- Where the hits of a reader come from. -/
inductive Access where
  | hits (rest : List Hit)
  /-- records of an aggregation -/
  | buckets (rest : List Hit)
  | stream (stream : HitStream)
  | page (page : Paging.Page)

namespace Access

def bound : Access → Nat
  | hits rest => rest.length
  | buckets rest => rest.length
  | stream s => s.cursor.bound
  | page p => p.cursor.bound

def next (b : Backend σ) (a : Access) (k : Connection σ) :
    Option (Except BackendError Hit) × Access × Connection σ :=
  match a with
  | hits [] => (none, a, k)
  | hits (hit :: rest) => (some (.ok hit), .hits rest, k)
  | buckets [] => (none, a, k)
  | buckets (hit :: rest) => (some (.ok hit), .buckets rest, k)
  | stream s =>
    match s.next b k with
    | (answer, s, k) => (answer, .stream s, k)
  | page p =>
    match p.cursor.next? with
    | some (hit, c) => (some (.ok hit), .page { p with cursor := c }, k)
    | none => (none, a, k)

theorem bound_next {b : Backend σ} {a a' : Access} {k k' : Connection σ} {hit : Hit}
    (h : a.next b k = (some (.ok hit), a', k')) : a'.bound < a.bound := by
  unfold next at h
  split at h
  · cases h
  · cases h; simp [bound]
  · cases h
  · cases h; simp [bound]
  · split at h
    next e =>
      cases h
      exact HitStream.bound_next e
  · split at h
    · next e =>
      cases h
      exact Cursor.bound_next? e
    · cases h

end Access

/-- A predicate that hits are held to after the index found them. -/
structure PostFilter where
  type : FeatureType
  predicate : Predicate

def PostFilter.accepts (f : PostFilter) (hit : Hit) : Bool :=
  f.predicate.holds f.type hit.id hit.source

structure FeatureReader where
  access : Access
  filter : Option PostFilter := none
  /-- accepted hits that may still be given -/
  remaining : Nat := greatestCount

namespace FeatureReader

def accepts (r : FeatureReader) (hit : Hit) : Bool :=
  match r.filter with
  | some f => f.accepts hit
  | none => true

def isPaged (r : FeatureReader) : Bool :=
  match r.access with
  | .page _ => true
  | _ => false

def isAggregation (r : FeatureReader) : Bool :=
  match r.access with
  | .buckets _ => true
  | _ => false

/-- The next accepted hit; nothing at the end or the limit. -/
def next (b : Backend σ) (r : FeatureReader) (k : Connection σ) :
    Option (Except BackendError Hit) × FeatureReader × Connection σ :=
  if r.remaining = 0 then (none, r, k)
  else
    match h : r.access.next b k with
    | (none, access, k) => (none, { r with access }, k)
    | (some (.error e), access, k) => (some (.error e), { r with access }, k)
    | (some (.ok hit), access, k) =>
      have := Access.bound_next h
      if r.accepts hit then
        (some (.ok hit), { r with access, remaining := r.remaining - 1 }, k)
      else next b { r with access } k
termination_by r.access.bound

theorem bound_next {b : Backend σ} {r r' : FeatureReader} {k k' : Connection σ} {hit : Hit}
    (h : r.next b k = (some (.ok hit), r', k')) : r'.access.bound < r.access.bound := by
  fun_induction next b r k with
  | case1 => cases h
  | case2 => cases h
  | case3 => cases h
  | case4 => cases h; assumption
  | case5 r k _ _ _ _ _ closer _ ih => exact Nat.lt_trans (ih h) closer

def takeHits (b : Backend σ) :
    Option Nat → FeatureReader → Connection σ → Taken × FeatureReader × Connection σ :=
  GeoSearch.takeHits (next b) (·.access.bound) bound_next

end FeatureReader

end GeoSearch
