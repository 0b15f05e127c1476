import GeoSearch.Predicate.Document
import GeoSearch.Query.Native
/-!
Reads of a layer: which features, which of their properties, in which order, how many, and on which
page of a session.
-/
namespace GeoSearch

inductive SortOrder where
  | ascending
  | descending
  deriving Repr, DecidableEq

namespace SortOrder

def text : SortOrder → String
  | ascending => "asc"
  | descending => "desc"

def ofText? : String → Option SortOrder := Json.choice? text [ascending, descending]

def ofDocument? (document : Json) : Option SortOrder := document.asName?.bind ofText?

end SortOrder

structure SortKey where
  /-- the identifier of the feature when there is none -/
  property : Option String := none
  order : SortOrder := .ascending
  deriving Repr, DecidableEq

namespace SortKey

def memberNames : List String := ["property", "order"]

def document (k : SortKey) : Json :=
  .object [("property", Json.ofOption .string k.property), ("order", .string k.order.text)]

def ofDocument? (document : Json) : Option SortKey := do
  let members ← document.record? memberNames
  some {
    property := ← members.defaulted "property" none (Json.nullable Json.asString?)
    order := ← members.defaulted "order" .ascending SortOrder.ofDocument? }

end SortKey

/-- A page of a session, by the index of its first hit. -/
structure PageStart where
  session : String
  index : Nat
  deriving Repr, DecidableEq

namespace PageStart

def memberNames : List String := ["session", "start_index"]

def document (p : PageStart) : Json :=
  .object [("session", .string p.session), ("start_index", .ofNat p.index)]

def ofDocument? (document : Json) : Option PageStart := do
  let members ← document.record? memberNames
  some {
    session := ← members.required "session" Json.asString?
    index := ← members.required "start_index" Json.asUnsigned? }

end PageStart

structure FeatureQuery where
  predicate : Predicate
  native : Option NativeQuery := none
  /-- all attributes in use when there is none -/
  properties : Option (List String) := none
  sort : List SortKey := []
  /-- the limit of hits, and the size of a page -/
  maxFeatures : Option Nat := none
  page : Option PageStart := none

namespace FeatureQuery

def isPaging (q : FeatureQuery) : Bool := q.page.isSome

def isSorted (q : FeatureQuery) : Bool := !q.sort.isEmpty

/-- Queries with the same key read the same features. -/
def key (q : FeatureQuery) (typeName : String) : String :=
  let own := q.native.getD {}
  typeName ++ "|" ++ q.predicate.text ++ "|" ++ own.query.getD "" ++ "|" ++
    own.aggregations.getD ""

def memberNames : List String :=
  ["predicate", "native", "properties", "sort", "max_features", "paging"]

def document (q : FeatureQuery) : Json :=
  .object
    [("predicate", q.predicate.document), ("native", Json.ofOption NativeQuery.document q.native),
     ("properties", Json.ofOption Json.strings q.properties),
     ("sort", .array (q.sort.map SortKey.document)),
     ("max_features", Json.ofOption .ofNat q.maxFeatures),
     ("paging", Json.ofOption PageStart.document q.page)]

def ofDocument? (document : Json) : Option FeatureQuery := do
  let members ← document.record? memberNames
  some {
    predicate := ← members.required "predicate" Predicate.ofDocument?
    native := ← members.defaulted "native" none (Json.nullable NativeQuery.ofDocument?)
    properties := ← members.defaulted "properties" none (Json.nullable Json.asStrings?)
    sort := ← members.defaulted "sort" [] (Json.items? SortKey.ofDocument?)
    maxFeatures := ← members.defaulted "max_features" none (Json.nullable Json.asUnsigned?)
    page := ← members.defaulted "paging" none (Json.nullable PageStart.ofDocument?) }

end FeatureQuery

end GeoSearch
