import GeoSearch.Log.Line
import GeoSearch.Query.Spatial
/-!
The events that the compiler, the cursors and the pagers report.
-/
namespace GeoSearch.Log

inductive Event where
  | configLoaded (path index : String)
  | filterCompiled (type : String) (exact : Bool) (notes : Nat)
  | predicateUnsupported (note : Note)
  | nativeQueryOnly (type : String)
  | gridPrecisionResolved (type : String) (level : Nat)
  | searchExecuted (index : String) (total returned : Nat)
  | scrollAdvanced (scrollId : String) (taken : Nat)
  | scrollReleased (count : Nat)
  | scrollReleaseFailed (count : Nat) (error : String)
  | backendFailed (operation error : String)
  | pagerCached (session : String) (next : Nat)
  | pagerRetrieved (session : String) (start : Nat)
  | pagerRejected (session : String) (start : Nat) (error : String)
  | pagerExpired (session : String) (next : Nat)
  | pagerFinished (session : String) (start : Nat)
  | schedulerShutdown (aborted : Nat)
  deriving Repr, DecidableEq

namespace Event

def natText (n : Nat) : String := toString n

def name : Event → String
  | configLoaded .. => "CONFIG_LOADED"
  | filterCompiled .. => "FILTER_COMPILED"
  | predicateUnsupported .. => "PREDICATE_UNSUPPORTED"
  | nativeQueryOnly .. => "NATIVE_QUERY_ONLY"
  | gridPrecisionResolved .. => "GRID_PRECISION_RESOLVED"
  | searchExecuted .. => "SEARCH_EXECUTED"
  | scrollAdvanced .. => "SCROLL_ADVANCED"
  | scrollReleased .. => "SCROLL_RELEASED"
  | scrollReleaseFailed .. => "SCROLL_RELEASE_FAILED"
  | backendFailed .. => "BACKEND_FAILED"
  | pagerCached .. => "PAGER_CACHED"
  | pagerRetrieved .. => "PAGER_RETRIEVED"
  | pagerRejected .. => "PAGER_REJECTED"
  | pagerExpired .. => "PAGER_EXPIRED"
  | pagerFinished .. => "PAGER_FINISHED"
  | schedulerShutdown .. => "SCHEDULER_SHUTDOWN"

def severity : Event → Severity
  | scrollAdvanced .. => .debug
  | pagerCached .. => .debug
  | pagerRetrieved .. => .debug
  | predicateUnsupported .. => .warn
  | scrollReleaseFailed .. => .warn
  | pagerRejected .. => .warn
  | pagerExpired .. => .warn
  | backendFailed .. => .error
  | _ => .info

def fields : Event → List (String × String)
  | configLoaded path index => [("path", path), ("index", index)]
  | filterCompiled type exact notes =>
    [("type", type), ("fully_supported", if exact then "true" else "false"),
     ("unsupported", natText notes)]
  | predicateUnsupported note => [("kind", note.kind), ("reason", note.reason)]
  | nativeQueryOnly type => [("type", type)]
  | gridPrecisionResolved type level => [("type", type), ("precision", natText level)]
  | searchExecuted index total returned =>
    [("index", index), ("total", natText total), ("returned", natText returned)]
  | scrollAdvanced scrollId taken => [("scroll_id", scrollId), ("taken", natText taken)]
  | scrollReleased count => [("count", natText count)]
  | scrollReleaseFailed count error => [("count", natText count), ("error", error)]
  | backendFailed operation error => [("operation", operation), ("error", error)]
  | pagerCached session next => [("session", session), ("next", natText next)]
  | pagerRetrieved session start => [("session", session), ("start", natText start)]
  | pagerRejected session start error =>
    [("session", session), ("start", natText start), ("error", error)]
  | pagerExpired session next => [("session", session), ("next", natText next)]
  | pagerFinished session start => [("session", session), ("start", natText start)]
  | schedulerShutdown aborted => [("aborted", natText aborted)]

def line (e : Event) : Line := ⟨e.severity, e.name, e.fields⟩

end Event

end GeoSearch.Log
