import GeoSearch.Search.Service
import GeoSearch.Scroll.Cursor
/-!
What passes between a connection and its index. Whatever is searched, continued or released, the
connection holds the index as the calls left it, and the calls are added to those before. Reports and
counters have no part in it.
-/
namespace GeoSearch

namespace Backend

variable (b : Backend σ)

theorem replay_append (before after : List Call) (state : σ) :
    b.replay (before ++ after) state =
      ((b.replay before state).1 ++ (b.replay after (b.replay before state).2).1,
        (b.replay after (b.replay before state).2).2) := by
  induction before generalizing state with
  | nil => rfl
  | cons call rest ih => simp [replay, ih]

theorem givenIds_append (before after : List Call) (state : σ) :
    b.givenIds (before ++ after) state =
      b.givenIds before state ++ b.givenIds after (b.replay before state).2 := by
  simp [givenIds, replay_append]

theorem replay_resume (id : String) (millis : Nat) (state : σ) :
    (b.replay [.resume id millis] state).1 = (b.resume id millis state).1.toOption.toList := by
  simp [replay, answer]

/-- Nothing is said to releases. -/
theorem replay_releases (released : List (List String)) (state : σ) :
    (b.replay (released.map .release) state).1 = [] := by
  induction released generalizing state with
  | nil => rfl
  | cons ids rest ih => exact ih _

theorem givenIds_releases (released : List (List String)) (state : σ) :
    b.givenIds (released.map .release) state = [] := by
  rw [givenIds, replay_releases, List.filterMap_nil]

end Backend

namespace Connection

/-- From one connection to another exactly these calls were made, in this order. -/
structure Exchange (b : Backend σ) (k l : Connection σ) (made : List Call) : Prop where
  calls : l.calls = k.calls ++ made
  state : l.state = (b.replay made k.state).2

namespace Exchange

variable {b : Backend σ} {k l m : Connection σ} {first second : List Call}

theorem refl (b : Backend σ) (k : Connection σ) : Exchange b k k [] := ⟨by simp, rfl⟩

theorem trans (before : Exchange b k l first) (after : Exchange b l m second) :
    Exchange b k m (first ++ second) where
  calls := by rw [after.calls, before.calls, List.append_assoc]
  state := by rw [after.state, before.state, Backend.replay_append]

/-- Without a call the index stays as it was. -/
theorem quiet (exchange : Exchange b k l []) : l.state = k.state := exchange.state

theorem report (exchange : Exchange b k l first) (e : Log.Event) :
    Exchange b k (l.report e) first := ⟨exchange.calls, exchange.state⟩

theorem count (exchange : Exchange b k l first) (f : Metrics → Metrics) :
    Exchange b k (l.count f) first := ⟨exchange.calls, exchange.state⟩

theorem givenIds (before : Exchange b k l first) :
    b.givenIds (first ++ second) k.state = b.givenIds first k.state ++ b.givenIds second l.state := by
  rw [Backend.givenIds_append, before.state]

end Exchange

variable {b : Backend σ} {k : Connection σ}

theorem exchange_release (b : Backend σ) (k : Connection σ) (scrollIds : List String) :
    Exchange b k (k.release b scrollIds) [.release scrollIds] := by
  unfold release
  rcases answer : b.release scrollIds k.state with ⟨_ | _, after⟩ <;>
    exact ⟨rfl, (congrArg Prod.snd answer).symm⟩

theorem exchange_resume (b : Backend σ) (k : Connection σ) (id : String) (millis : Nat) :
    Exchange b k (k.resume b id millis).2 [.resume id millis] := by
  unfold resume
  rcases answer : b.resume id millis k.state with ⟨_ | _, after⟩ <;>
    exact ⟨rfl, (congrArg Prod.snd answer).symm⟩

theorem Exchange.releases_of_resume {l : Connection σ} {id : String} {millis : Nat}
    (exchange : Exchange b k l [.resume id millis]) : l.releases = k.releases := by
  simp [releases, exchange.calls]

/-- A search that the index answers. -/
theorem search_ok {index : String} {request : SearchRequest} {response : SearchResponse} {after : σ}
    (answer : b.search index request k.state = (.ok response, after)) :
    ∃ l, k.search b index request = (.ok response, l) ∧ l.state = after ∧
      Exchange b k l [.search index request] ∧
      b.givenIds [.search index request] k.state = response.scrollId.toList := by
  have same : k.search b index request = (.ok response, (k.search b index request).2) := by
    simp only [search, answer]
  refine ⟨_, same, ?_, ⟨?_, ?_⟩, ?_⟩
  · simp [search, answer, report, count, called]
  · simp [search, answer, report, count, called]
  · simp [search, answer, report, count, called, Backend.replay, Backend.answer]
  · cases id : response.scrollId <;>
      simp [Backend.givenIds, Backend.replay, Backend.answer, answer, id, Except.toOption]

/-- A continuation that the index answers. -/
theorem resume_ok {scrollId : String} {millis : Nat} {response : SearchResponse} {after : σ}
    (answer : b.resume scrollId millis k.state = (.ok response, after)) :
    ∃ l, k.resume b scrollId millis = (.ok response, l) ∧ l.state = after ∧
      Exchange b k l [.resume scrollId millis] ∧
      b.givenIds [.resume scrollId millis] k.state = response.scrollId.toList := by
  have same : k.resume b scrollId millis = (.ok response, (k.resume b scrollId millis).2) := by
    simp only [resume, answer]
  refine ⟨_, same, ?_, ⟨?_, ?_⟩, ?_⟩
  · simp [resume, answer, count, called]
  · simp [resume, answer, count, called]
  · simp [resume, answer, count, called, Backend.replay, Backend.answer]
  · cases id : response.scrollId <;>
      simp [Backend.givenIds, Backend.replay, Backend.answer, answer, id, Except.toOption]

end Connection

namespace Connection

variable {σ : Type} (k : Connection σ) (b : Backend σ)

@[simp] theorem state_report (e : Log.Event) : (k.report e).state = k.state := rfl

@[simp] theorem calls_report (e : Log.Event) : (k.report e).calls = k.calls := rfl

@[simp] theorem state_count (f : Metrics → Metrics) : (k.count f).state = k.state := rfl

@[simp] theorem calls_count (f : Metrics → Metrics) : (k.count f).calls = k.calls := rfl

theorem search_answer (index : String) (request : SearchRequest) :
    (k.search b index request).1 = (b.search index request k.state).1 ∧
      (k.search b index request).2.state = (b.search index request k.state).2 ∧
      (k.search b index request).2.calls = k.calls ++ [.search index request] := by
  unfold search
  rcases b.search index request k.state with ⟨_ | response, after⟩ <;> exact ⟨rfl, rfl, rfl⟩

theorem resume_answer (scrollId : String) (millis : Nat) :
    (k.resume b scrollId millis).1 = (b.resume scrollId millis k.state).1 ∧
      (k.resume b scrollId millis).2.state = (b.resume scrollId millis k.state).2 ∧
      (k.resume b scrollId millis).2.calls = k.calls ++ [.resume scrollId millis] := by
  unfold resume
  rcases b.resume scrollId millis k.state with ⟨_ | response, after⟩ <;> exact ⟨rfl, rfl, rfl⟩

theorem release_answer (scrollIds : List String) :
    (k.release b scrollIds).state = (b.release scrollIds k.state).2 ∧
      (k.release b scrollIds).calls = k.calls ++ [.release scrollIds] := by
  unfold release
  rcases b.release scrollIds k.state with ⟨_ | _, after⟩ <;> exact ⟨rfl, rfl⟩

end Connection

namespace Cursor

/-- A cursor is released by the calls that were owed for it. -/
theorem calls_release (b : Backend σ) (c : Cursor) (k : Connection σ) :
    (c.release b k).2.calls = k.calls ++ c.owed.map .release := by
  unfold release owed
  split
  · simp
  · exact (k.release_answer b c.ids).2

end Cursor

end GeoSearch
