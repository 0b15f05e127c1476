import GeoSearch.Source.Read
/-!
Reading to the end: what all hits of a query are, and what a session gets that reads its pages one
after the other.
-/
namespace GeoSearch

namespace FeatureReader

/-- Nothing follows what the reader reads: it reads no page, or the last one. -/
def isFinal (r : FeatureReader) : Bool :=
  match r.access with
  | .page page => page.cursor.isFinal
  | _ => true

end FeatureReader

namespace FeatureSource

/-- The searches for hits of a compiled query, whatever number of them they ask for. -/
def Asks (s : FeatureSource) (q : FeatureQuery) (f : Filter) (request : SearchRequest) : Prop :=
  ∃ scroll size, request = { s.request q f scroll with size }

/-- The predicate accepts a hit, or does not have to be asked. -/
def accepts (s : FeatureSource) (q : FeatureQuery) (f : Filter) (hit : Hit) : Bool :=
  f.exact || q.predicate.holds s.type hit.id hit.source

/-- Finishes with a reader. A page leaves its cursor to the next one, and a stream gives it up. -/
def close (b : Backend σ) (r : FeatureReader) (d : Desk σ) : Except Error Unit × Desk σ :=
  match r.access, d.state? with
  | .page page, some p =>
    match p.closePage b page with
    | (.ok _, p) => (.ok (), .ofState p)
    | (.error e, p) => (.error (.paging e), .ofState p)
  | .stream s, _ => (.ok (), { d with connection := (s.cursor.release b d.connection).2 })
  | _, _ => (.ok (), d)

/-- What was read of a query, or of one of its pages. -/
structure Reading where
  taken : Taken
  isFinal : Bool

/-- Opens a reader, reads it to its end and closes it. -/
def readThrough (b : Backend σ) (s : FeatureSource) (q : FeatureQuery) (d : Desk σ) :
    Except Error Reading × Desk σ :=
  match s.read b q d with
  | (.error e, d) => (.error e, d)
  | (.ok reader, d) =>
    match reader.takeHits b none d.connection with
    | (taken, reader, connection) =>
      match close b reader { d with connection } with
      | (.error e, d) => (.error e, d)
      | (.ok _, d) => (.ok { taken, isFinal := reader.isFinal }, d)

def features (b : Backend σ) (s : FeatureSource) (q : FeatureQuery) (d : Desk σ) : Except Error Taken :=
  (s.readThrough b q d).1.map (·.taken)

def featureIds (b : Backend σ) (s : FeatureSource) (q : FeatureQuery) (d : Desk σ) :
    Except Error (List String) :=
  (s.features b q d).map fun taken => taken.hits.map (·.id)

def filtering (s : FeatureSource) (on : Bool) : FeatureSource :=
  { s with config := { s.config with sourceFiltering := on } }

def pageQuery (q : FeatureQuery) (session : String) (index : Nat) : FeatureQuery :=
  { q with page := some { session, index } }

/-- The pages that a list of hits has. The last may be short, and the only one may be empty. -/
def pageCount (size length : Nat) : Nat := max 1 ((length + size - 1) / size)

/-- What there is to read of the page of this number, of so many: the part of its hits that the
predicate accepts. -/
def pageReading (s : FeatureSource) (q : FeatureQuery) (f : Filter) (hits : List Hit)
    (count number : Nat) : Reading where
  taken :=
    { hits := ((hits.drop (number * s.limit q)).take (s.limit q)).filter (s.accepts q f), ended := true }
  isFinal := number + 1 = count

/-- A session reads the pages that start at these indices, one after the other. It pauses after
each, and timers may fall due in the pause. -/
def readPages (b : Backend σ) (s : FeatureSource) (q : FeatureQuery) (session : String)
    (pause : Nat → Timers Paging.Alarm → Timers Paging.Alarm) :
    List Nat → Desk σ → Except Error (List Reading) × Desk σ
  | [], d => (.ok [], d)
  | index :: later, d =>
    match s.readThrough b (pageQuery q session index) d with
    | (.error e, d) => (.error e, d)
    | (.ok page, d) =>
      match s.readPages b q session pause later { d with timers := pause index d.timers } with
      | (.error e, d) => (.error e, d)
      | (.ok pages, d) => (.ok (page :: pages), d)

end FeatureSource

end GeoSearch
