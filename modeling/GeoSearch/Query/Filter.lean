import GeoSearch.Query.Compile
import GeoSearch.Log.Event
/-!
The query of a request: its predicate together with the native query beside it.
-/
namespace GeoSearch

structure Filter where
  query : Clause
  /-- what the caller wrote in the language of the index -/
  native : Clause
  aggregations : Option Json.Members
  /-- the predicate was left out -/
  exclusive : Bool
  notes : List Note

namespace Filter

inductive Error where
  | native (error : NativeQuery.Error)
  /-- a date whose pattern cannot be written -/
  | date
  deriving Repr, DecidableEq

namespace Error

def code : Error → String
  | native _ => NativeQuery.Error.code
  | date => "ESGEO_INTERNAL"

def message : Error → String
  | native e => e.message
  | date => "a date cannot be written in the pattern of its attribute"

end Error

/-- The query selects no more than the predicate. -/
def exact (f : Filter) : Bool := f.notes.isEmpty

def ofParsed (type : FeatureType) (p : Predicate) (native : NativeQuery.Parsed) : Filter :=
  let compiled := if native.exclusive then { clause := .matchAll } else p.compile type
  { query := native.query.both compiled.clause
    native := native.query
    aggregations := native.aggregations
    exclusive := native.exclusive
    notes := compiled.notes }

/-- Fails only on a native query that cannot be read and on dates that cannot be written. -/
def compile (type : FeatureType) (p : Predicate) (native : NativeQuery) : Except Error Filter :=
  match native.parse with
  | .error e => .error (.native e)
  | .ok parsed =>
    if !parsed.exclusive && !p.datesWritable type then .error .date
    else .ok (ofParsed type p parsed)

theorem ofParsed_of_compile {type : FeatureType} {p : Predicate} {native : NativeQuery} {f : Filter}
    (compiled : compile type p native = .ok f) :
    ∃ parsed, native.parse = .ok parsed ∧ f = ofParsed type p parsed := by
  unfold compile at compiled
  split at compiled
  · cases compiled
  · next parsed read =>
    split at compiled
    · cases compiled
    · exact ⟨parsed, read, (Except.ok.inj compiled).symm⟩

def events (type : FeatureType) (f : Filter) : List Log.Event :=
  (if f.exclusive then [.nativeQueryOnly type.name] else f.notes.map .predicateUnsupported) ++
    [.filterCompiled type.name f.exact f.notes.length]

def noteDocument (n : Note) : Json := .object [("kind", .string n.kind), ("reason", .string n.reason)]

def document (f : Filter) : Json :=
  .object
    [("query", f.query.document), ("fully_supported", .bool f.exact),
     ("aggregations", Json.ofOption .object f.aggregations),
     ("unsupported", .array (f.notes.map noteDocument))]

end Filter

end GeoSearch
