import GeoSearch.Json.Printer
/-!
Log lines. Each event is one line, a document that starts with the event's name and its severity;
the other fields follow in the order of their keys.
-/
namespace GeoSearch.Log

inductive Severity where
  | debug
  | info
  | warn
  | error
  deriving Repr, DecidableEq

def Severity.text : Severity → String
  | debug => "DEBUG"
  | info => "INFO"
  | warn => "WARN"
  | error => "ERROR"

def Severity.ofText? (text : String) : Option Severity :=
  [Severity.debug, .info, .warn, .error].find? fun s => s.text == text

/-- Where lines go that report no error. -/
inductive Sink where
  | output
  | errors
  deriving Repr, DecidableEq

structure Line where
  severity : Severity
  event : String
  fields : List (String × String)
  deriving Repr, DecidableEq

namespace Line

/-- The keys of the two leading members, which a field may not use. -/
def reserved (key : String) : Bool := key == "event" || key == "severity"

/-- The fields in the order of their keys; of equal keys the last field counts. -/
def ordered (fields : List (String × String)) : List (String × String) :=
  (fields.filter fun f => !reserved f.1).mergeSort fun a b => a.1 ≤ b.1

def members (l : Line) : Json.Members :=
  (ordered l.fields).foldl (fun ms f => Json.Members.put ms f.1 (.string f.2))
    [("event", .string l.event), ("severity", .string l.severity.text)]

def text (l : Line) : String := (Json.object l.members).text

def written (l : Line) : String := l.text ++ "\n"

/-- Errors are always reported as errors. -/
def destination (sink : Sink) (l : Line) : Sink :=
  if l.severity = .error then .errors else sink

end Line

end GeoSearch.Log
