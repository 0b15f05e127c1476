import GeoSearch.Json.Parser
import GeoSearch.Json.Record
import GeoSearch.Query.Native
import GeoSearch.Text.Split
/-!
The settings of a store. Every setting may be left out of a configuration text.
-/
namespace GeoSearch

structure Config where
  /-- the index that is searched -/
  indexName : String := "features"
  /-- hits in one round of a scroll -/
  scrollSize : Nat := 100
  /-- seconds for which an idle scroll is kept -/
  scrollSeconds : Nat := 120
  scrollEnabled : Bool := false
  /-- the limit of queries that state none -/
  maxFeatures : Nat := 10000
  /-- cells that a grid aggregation should have -/
  gridSize : Nat := 10000
  /-- only the attributes in use are asked for -/
  sourceFiltering : Bool := false
  deriving Repr, DecidableEq

namespace Config

inductive Error where
  | unreadable (path reason : String)
  /-- the text is not a configuration -/
  | malformed
  /-- the setting is empty -/
  | empty (setting : String)
  /-- the setting is zero -/
  | zero (setting : String)
  deriving Repr, DecidableEq

namespace Error

def code : Error → String
  | unreadable .. => "ESGEO_CONFIG_UNREADABLE"
  | _ => "ESGEO_CONFIG_INVALID"

def message : Error → String
  | unreadable path reason => "Cannot read config '" ++ path ++ "': " ++ reason
  | malformed => "Invalid config: " ++ Json.unreadable
  | empty setting => "Invalid config: " ++ setting ++ " must not be empty"
  | zero setting => "Invalid config: " ++ setting ++ " must be positive"

end Error

def memberNames : List String :=
  ["index_name", "scroll_size", "scroll_time_secs", "scroll_enabled", "default_max_features",
    "grid_size", "source_filtering"]

def document (c : Config) : Json :=
  .object
    [("index_name", .string c.indexName), ("scroll_size", .ofNat c.scrollSize),
     ("scroll_time_secs", .ofNat c.scrollSeconds), ("scroll_enabled", .bool c.scrollEnabled),
     ("default_max_features", .ofNat c.maxFeatures), ("grid_size", .ofNat c.gridSize),
     ("source_filtering", .bool c.sourceFiltering)]

def ofDocument? (document : Json) : Option Config := do
  let members ← document.record? memberNames
  let standard : Config := {}
  some {
    indexName := ← members.defaulted "index_name" standard.indexName Json.asString?
    scrollSize := ← members.defaulted "scroll_size" standard.scrollSize Json.asUnsigned?
    scrollSeconds := ← members.defaulted "scroll_time_secs" standard.scrollSeconds Json.asUnsigned?
    scrollEnabled := ← members.defaulted "scroll_enabled" standard.scrollEnabled Json.asBool?
    maxFeatures := ← members.defaulted "default_max_features" standard.maxFeatures Json.asUnsigned?
    gridSize := ← members.defaulted "grid_size" standard.gridSize Json.asUnsigned?
    sourceFiltering := ← members.defaulted "source_filtering" standard.sourceFiltering Json.asBool? }

/-- The first setting without a meaning, if there is one. -/
def fault? (c : Config) : Option Error :=
  if (Text.trim c.indexName).isEmpty then some (.empty "index_name")
  else if c.scrollSize = 0 then some (.zero "scroll_size")
  else if c.scrollSeconds = 0 then some (.zero "scroll_time_secs")
  else if c.maxFeatures = 0 then some (.zero "default_max_features")
  else if c.gridSize = 0 then some (.zero "grid_size")
  else none

/-- Reads and checks a configuration text. A setting may be given once only. -/
def parse (text : String) : Except Error Config :=
  match (Json.spelled? text).bind ofDocument? with
  | none => .error .malformed
  | some c =>
    match c.fault? with
    | some e => .error e
    | none => .ok c

/-- The time for which an idle scroll is kept, in milliseconds. -/
def scrollMillis (c : Config) : Nat := c.scrollSeconds * 1000

end Config

end GeoSearch
