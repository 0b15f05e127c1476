import GeoSearch.Search.Request
import GeoSearch.Search.Response
import GeoSearch.Log.Event
/-!
The connection to an index. An index is whatever answers searches, continues scrolls and releases
them; a connection keeps its state, every call that was made, what was reported and the counters.
-/
namespace GeoSearch

/-! ### Counters -/

/-- What compilers, cursors and pagers did so far. -/
structure Metrics where
  compilations : Nat := 0
  /-- compilations that left a part of their predicate out -/
  degradedCompilations : Nat := 0
  searches : Nat := 0
  continuations : Nat := 0
  releases : Nat := 0
  releaseFailures : Nat := 0
  pagerExpiries : Nat := 0
  pagerRejections : Nat := 0
  deriving Repr, DecidableEq

namespace Metrics

def countCompilation (m : Metrics) (exact : Bool) : Metrics :=
  { m with
    compilations := m.compilations + 1
    degradedCompilations := m.degradedCompilations + if exact then 0 else 1 }

def document (m : Metrics) : Json :=
  .object
    [("compilations", .ofNat m.compilations),
     ("degraded_compilations", .ofNat m.degradedCompilations),
     ("searches", .ofNat m.searches), ("continuations", .ofNat m.continuations),
     ("releases", .ofNat m.releases), ("release_failures", .ofNat m.releaseFailures),
     ("pager_expiries", .ofNat m.pagerExpiries), ("pager_rejections", .ofNat m.pagerRejections)]

end Metrics

/-! ### Calls -/

/-- An index, by its answers. Each may depend on all calls before it. -/
structure Backend (σ : Type) where
  search : String → SearchRequest → σ → Except BackendError SearchResponse × σ
  /-- the next batch of a scroll, which is then kept for so many milliseconds -/
  resume : String → Nat → σ → Except BackendError SearchResponse × σ
  /-- forgets scrolls -/
  release : List String → σ → Except BackendError Unit × σ

inductive Call where
  | search (index : String) (request : SearchRequest)
  | resume (scrollId : String) (millis : Nat)
  | release (scrollIds : List String)

structure Connection (σ : Type) where
  state : σ
  /-- the calls so far, in order -/
  calls : List Call := []
  /-- what was reported so far, in order -/
  events : List Log.Event := []
  metrics : Metrics := {}

namespace Connection

def report (k : Connection σ) (e : Log.Event) : Connection σ := { k with events := k.events ++ [e] }

def count (k : Connection σ) (f : Metrics → Metrics) : Connection σ :=
  { k with metrics := f k.metrics }

/-- A call was answered, and the index is in another state. -/
def called (k : Connection σ) (call : Call) (state : σ) : Connection σ :=
  { k with state, calls := k.calls ++ [call] }

def search (k : Connection σ) (b : Backend σ) (index : String) (request : SearchRequest) :
    Except BackendError SearchResponse × Connection σ :=
  let (answer, state) := b.search index request k.state
  let k := (k.called (.search index request) state).count fun m => { m with searches := m.searches + 1 }
  match answer with
  | .ok r => (.ok r, k.report (.searchExecuted index r.total r.hits.length))
  | .error e => (.error e, k.report (.backendFailed "search" e.message))

/-- Asks for the next batch of a scroll. Only a failure is reported here. -/
def resume (k : Connection σ) (b : Backend σ) (scrollId : String) (millis : Nat) :
    Except BackendError SearchResponse × Connection σ :=
  let (answer, state) := b.resume scrollId millis k.state
  let k := (k.called (.resume scrollId millis) state).count fun m =>
    { m with continuations := m.continuations + 1 }
  match answer with
  | .ok r => (.ok r, k)
  | .error e => (.error e, k.report (.backendFailed "scroll" e.message))

/-- Releases scrolls. A failure is reported and counted, and nothing else comes of it. -/
def release (k : Connection σ) (b : Backend σ) (scrollIds : List String) : Connection σ :=
  let (answer, state) := b.release scrollIds k.state
  let k := k.called (.release scrollIds) state
  match answer with
  | .ok _ =>
    (k.count fun m => { m with releases := m.releases + 1 }).report
      (.scrollReleased scrollIds.length)
  | .error e =>
    (k.count fun m => { m with releaseFailures := m.releaseFailures + 1 }).report
      (.scrollReleaseFailed scrollIds.length e.message)

/-- The scrolls that were released, call by call. -/
def releases (k : Connection σ) : List (List String) :=
  k.calls.filterMap fun
    | .release scrollIds => some scrollIds
    | _ => none

@[simp] theorem releases_report (k : Connection σ) (e : Log.Event) :
    (k.report e).releases = k.releases := rfl

@[simp] theorem releases_count (k : Connection σ) (f : Metrics → Metrics) :
    (k.count f).releases = k.releases := rfl

@[simp] theorem releases_search (k : Connection σ) (b : Backend σ) (index : String)
    (request : SearchRequest) : (k.search b index request).2.releases = k.releases := by
  unfold search
  rcases b.search index request k.state with ⟨_ | _, _⟩ <;>
    simp [releases, report, count, called]

@[simp] theorem releases_resume (k : Connection σ) (b : Backend σ) (scrollId : String)
    (millis : Nat) : (k.resume b scrollId millis).2.releases = k.releases := by
  unfold resume
  rcases b.resume scrollId millis k.state with ⟨_ | _, _⟩ <;>
    simp [releases, report, count, called]

@[simp] theorem releases_release (k : Connection σ) (b : Backend σ) (scrollIds : List String) :
    (k.release b scrollIds).releases = k.releases ++ [scrollIds] := by
  unfold release
  rcases b.release scrollIds k.state with ⟨_ | _, _⟩ <;>
    simp [releases, report, count, called]

end Connection

end GeoSearch
