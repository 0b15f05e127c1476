import GeoSearch.Document.Lookup
import GeoSearch.Search.Response
import GeoSearch.Search.Service
/-!
How hits are sent when only some of their fields are asked for, and an index that answers every search
from a list of hits.
-/
namespace GeoSearch.Hit

/-- The values of a field that is served apart from the source document. -/
def storedValues (h : Hit) (field : String) : List Json :=
  match (h.fields.getD []).get? field with
  | some (.array values) => values
  | _ => []

/-- A hit as it is sent to a search that lists fields of the source document and stored fields. The
source document is sent whole if none of its fields is listed, and with nothing but them otherwise. -/
structure SentAs (includes stored : List String) (whole sent : Hit) : Prop where
  id : sent.id = whole.id
  unlisted : includes = [] → sent.source = whole.source
  listed : ∀ field ∈ includes, Document.Agree sent.source whole.source field
  others : includes ≠ [] → ∀ field, (∀ other ∈ includes, ¬ Document.Meet other field) →
    Document.lookup sent.source field = []
  stored : ∀ field ∈ stored, sent.storedValues field = Document.lookup whole.source field

/-- Keeps the members of the source document that are listed, if any is listed. -/
def narrow (includes : List String) (h : Hit) : Hit :=
  match h.source with
  | .object members =>
    if includes.isEmpty then h
    else { h with source := .object (members.filter fun member => includes.contains member.1) }
  | _ => h

end GeoSearch.Hit

namespace GeoSearch

/-- The scrolls that are kept, by their identifiers: the size of the batches, and the hits that are
still to come. -/
abbrev KeptScrolls := List (String × Nat × List Hit)

namespace KeptScrolls

def nextId (kept : KeptScrolls) : String := "scroll-" ++ toString (kept.length + 1)

/-- Gives the next batch of a scroll, under an identifier of its own. -/
def answer (kept : KeptScrolls) (total size : Nat) (hits : List Hit) : SearchResponse × KeptScrolls :=
  ({ total, hits := hits.take size, scrollId := some kept.nextId },
    (kept.nextId, size, hits.drop size) :: kept)

end KeptScrolls

/-- What is found depends on the search alone. -/
def Backend.listing (found : SearchRequest → List Hit) : Backend KeptScrolls where
  search _ request kept :=
    let hits := found request
    if request.scrollMillis.isSome then
      let (response, kept) := kept.answer hits.length request.size hits
      (.ok response, kept)
    else (.ok { total := hits.length, hits := hits.take request.size }, kept)
  resume scrollId _ kept :=
    match kept.lookup scrollId with
    | none => (.error (.request ("unknown scroll " ++ scrollId)), kept)
    | some (size, hits) =>
      let (response, kept) := kept.answer hits.length size hits
      (.ok response, kept)
  release scrollIds kept := (.ok (), kept.filter fun scroll => !scrollIds.contains scroll.1)

/-- Only those members of the source documents are sent that a search lists. -/
def Backend.narrowing (hits : List Hit) : Backend KeptScrolls :=
  .listing fun request => hits.map (·.narrow request.sourceIncludes)

/-- The scroll that was answered last is known by the identifier it was given. -/
def Scrolling.ofListing (found : SearchRequest → List Hit) : Scrolling (.listing found) where
  holds kept scrollId size rest := kept.lookup scrollId = some (size, rest)
  resume {kept scrollId size rest} millis known := by
    refine ⟨_, _, by simp only [Backend.listing, known]; rfl, rfl, ?_⟩
    exact List.lookup_cons_self

theorem Scrolling.ofListing_serves {found : SearchRequest → List Hit} {hits : List Hit}
    {wanted : SearchRequest → Prop} (same : ∀ request, wanted request → found request = hits)
    (index : String) : (ofListing found).Serves index wanted hits where
  search {request} kept asked once := by
    obtain rfl := same request asked
    exact ⟨_, _, by simp only [Backend.listing, once]; rfl, rfl, rfl⟩
  scroll {request} kept asked scrolls _ := by
    obtain rfl := same request asked
    refine ⟨_, _, _, by simp only [Backend.listing, scrolls]; rfl, rfl, rfl, rfl, ?_⟩
    exact List.lookup_cons_self

end GeoSearch
