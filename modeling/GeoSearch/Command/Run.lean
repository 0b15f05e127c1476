import GeoSearch.Command.Arguments
import GeoSearch.Config
import GeoSearch.Query.Filter
import GeoSearch.Predicate.Document
import GeoSearch.Schema.Document
import GeoSearch.Geometry.Envelope
import GeoSearch.Geometry.Grid
/-!
Running the commands: each answers one document, or fails with a code and a message.
-/
namespace GeoSearch

def NativeQuery.absent : NativeQuery := {}

namespace Envelope

def errorCode : String := "ESGEO_BBOX_INVALID"

def errorMessage (text : String) (e : ReadError) : String :=
  "Invalid bounding box: " ++ text ++ ": " ++ e.reason

end Envelope

namespace Command

inductive Error where
  | schemaUnreadable (path reason : String)
  | schemaMalformed (path : String)
  | emptyInput
  | malformedInput
  | zeroBins
  | config (error : Config.Error)
  | filter (error : Filter.Error)
  | box (text : String) (error : Envelope.ReadError)

namespace Error

def code : Error → String
  | schemaUnreadable .. => "ESGEO_CLI_CONFIG_ERROR"
  | schemaMalformed _ => "ESGEO_CLI_CONFIG_ERROR"
  | emptyInput => "ESGEO_CLI_INVALID_INPUT"
  | malformedInput => "ESGEO_CLI_INVALID_INPUT"
  | zeroBins => "ESGEO_CLI_INVALID_INPUT"
  | config e => e.code
  | filter e => e.code
  | box .. => Envelope.errorCode

def message : Error → String
  | schemaUnreadable path reason => "Cannot read schema '" ++ path ++ "': " ++ reason
  | schemaMalformed path => "Invalid schema '" ++ path ++ "': " ++ Json.unreadable
  | emptyInput => "Empty input"
  | malformedInput => "JSON error: " ++ Json.unreadable
  | zeroBins => "max-bins must be positive"
  | config e => e.message
  | filter e => e.message
  | box text e => Envelope.errorMessage text e

def text (e : Error) : String := e.code ++ ": " ++ e.message

end Error

/-! ### Requests -/

/-- A filter to be compiled, and the native query beside it. -/
structure CompileRequest where
  filter : Predicate
  native : Option NativeQuery

def CompileRequest.ofDocument? (document : Json) : Option CompileRequest := do
  let members ← document.record? ["filter", "native"]
  some {
    filter := ← members.required "filter" Predicate.ofDocument?
    native := ← members.defaulted "native" none (Json.nullable NativeQuery.ofDocument?) }

def parseInput (text : String) : Except Error Json :=
  if (Text.trim text).isEmpty then .error .emptyInput
  else
    match Json.parse? text with
    | some document => .ok document
    | none => .error .malformedInput

def compileRequest (type : FeatureType) (request : Json) : Except Error Filter :=
  match CompileRequest.ofDocument? request with
  | none => .error .malformedInput
  | some r => (Filter.compile type r.filter (r.native.getD .absent)).mapError .filter

/-- The budget is checked before the box is read. -/
def resolvePrecision (box : String) (maxBins : Nat) : Except Error Json :=
  if maxBins = 0 then .error .zeroBins
  else
    match Envelope.read box with
    | .error e => .error (.box box e)
    | .ok r => .ok (.object [("precision", .ofNat (Grid.precision r maxBins))])

def parseSchema (path text : String) : Except Error FeatureType :=
  match (Json.spelled? text).bind FeatureType.read? with
  | some type => .ok type
  | none => .error (.schemaMalformed path)

/-! ### Running -/

/-- What a command reaches outside: files by path, and the standard input. -/
structure Surroundings (m : Type → Type) where
  /-- the content of a file, or why it cannot be read -/
  file : String → m (Except String String)
  input : m String

/-- An answer, and the events before it. -/
structure Outcome where
  answer : Except Error Json
  events : List Log.Event

/-- The schema is read before the input. -/
def runCompile [Monad m] (s : Surroundings m) (path : String) : m Outcome := do
  match ← s.file path with
  | .error reason => pure ⟨.error (.schemaUnreadable path reason), []⟩
  | .ok text =>
    match parseSchema path text with
    | .error e => pure ⟨.error e, []⟩
    | .ok type =>
      match parseInput (← s.input) >>= compileRequest type with
      | .error e => pure ⟨.error e, []⟩
      | .ok f => pure ⟨.ok f.document, f.events type⟩

def loadConfig [Monad m] (s : Surroundings m) (path : String) :
    m (Except Error Config × List Log.Event) := do
  match ← s.file path with
  | .error reason => pure (.error (.config (.unreadable path reason)), [])
  | .ok text =>
    match Config.parse text with
    | .error e => pure (.error (.config e), [])
    | .ok c => pure (.ok c, [.configLoaded path c.indexName])

/-- The configured size of the grid counts only when no budget is given. -/
def runPrecision [Monad m] (s : Surroundings m) (box : String) (maxBins : Option Nat)
    (config : Option String) : m Outcome := do
  match maxBins, config with
  | some bins, _ => pure ⟨resolvePrecision box bins, []⟩
  | none, none => pure ⟨resolvePrecision box ({} : Config).gridSize, []⟩
  | none, some path =>
    let (loaded, events) ← loadConfig s path
    pure ⟨loaded >>= fun c => resolvePrecision box c.gridSize, events⟩

def run [Monad m] (s : Surroundings m) : Command → m Outcome
  | .compile schema => runCompile s schema
  | .precision box maxBins config => runPrecision s box maxBins config

/-! ### Answers -/

def success (data : Json) : Json := .object [("status", .string "ok"), ("data", data)]

def failure (e : Error) : Json :=
  .object
    [("status", .string "error"), ("code", .string e.code), ("message", .string e.message)]

def Outcome.document (o : Outcome) : Json :=
  match o.answer with
  | .ok data => success data
  | .error e => failure e

def Outcome.exitCode (o : Outcome) : Nat :=
  match o.answer with
  | .ok _ => 0
  | .error _ => 1

end Command

end GeoSearch
