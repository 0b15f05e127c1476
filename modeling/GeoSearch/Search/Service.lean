import GeoSearch.Search.Connection
/-!
What can be expected of an index: that calls in a row are answered one after the other, that a scroll
gives its hits in batches of one size, and that all searches of a kind are answered from one list of
hits.
-/
namespace GeoSearch

namespace Backend

/-- What an index answers to a call, unless it fails or has nothing to say, and the state after it. -/
def answer (b : Backend σ) (state : σ) : Call → Option SearchResponse × σ
  | .search index request => ((b.search index request state).1.toOption, (b.search index request state).2)
  | .resume scrollId millis => ((b.resume scrollId millis state).1.toOption, (b.resume scrollId millis state).2)
  | .release scrollIds => (none, (b.release scrollIds state).2)

/-- The responses to calls in a row, and the state after them. -/
def replay (b : Backend σ) : List Call → σ → List SearchResponse × σ
  | [], state => ([], state)
  | call :: rest, state =>
    let (response, state) := b.answer state call
    let (responses, state) := b.replay rest state
    (response.toList ++ responses, state)

/-- The identifiers of scrolls that are given in answer to calls in a row. -/
def givenIds (b : Backend σ) (calls : List Call) (state : σ) : List String :=
  (b.replay calls state).1.filterMap (·.scrollId)

end Backend

/-- How an index keeps its scrolls. A continuation gives the next batch of what the scroll still
holds; it may give another identifier for the rest. -/
structure Scrolling (b : Backend σ) where
  /-- the scroll of the identifier still holds these hits, and gives them in batches of this size -/
  holds : σ → String → Nat → List Hit → Prop
  resume : ∀ {state : σ} {scrollId : String} {size : Nat} {rest : List Hit} (millis : Nat),
    holds state scrollId size rest →
    ∃ response after, b.resume scrollId millis state = (.ok response, after) ∧
      response.hits = rest.take size ∧
      holds after (response.scrollId.getD scrollId) size (rest.drop size)

/-- The searches that are wanted are answered from a list of hits: with the first of them, as many as
are asked for, and the number of all. One that opens a scroll leaves the others to it. -/
structure Scrolling.Serves {b : Backend σ} (scrolling : Scrolling b) (index : String)
    (wanted : SearchRequest → Prop) (hits : List Hit) : Prop where
  search : ∀ {request : SearchRequest} (state : σ), wanted request → request.scrollMillis = none →
    ∃ response after, b.search index request state = (.ok response, after) ∧
      response.total = hits.length ∧ response.hits = hits.take request.size
  scroll : ∀ {request : SearchRequest} (state : σ), wanted request → request.scrollMillis.isSome →
    0 < request.size →
    ∃ response after scrollId, b.search index request state = (.ok response, after) ∧
      response.total = hits.length ∧ response.hits = hits.take request.size ∧
      response.scrollId = some scrollId ∧
      scrolling.holds after scrollId request.size (hits.drop request.size)

/-- What is served to all of these searches is served to some of them. -/
theorem Scrolling.Serves.mono {b : Backend σ} {scrolling : Scrolling b} {index : String}
    {wanted fewer : SearchRequest → Prop} {hits : List Hit} (served : scrolling.Serves index wanted hits)
    (among : ∀ request, fewer request → wanted request) : scrolling.Serves index fewer hits where
  search state asked := served.search state (among _ asked)
  scroll state asked := served.scroll state (among _ asked)

end GeoSearch
