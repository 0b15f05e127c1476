import GeoSearch.Source.Reader
import GeoSearch.Text.Quoted
/-!
Cursors, streams and readers in one line, for people.
-/
namespace GeoSearch

def braced (text : String) : String := "\x7b" ++ text ++ "\x7d"

def summary (name : String) (fields : List (String × String)) : String :=
  name ++ " " ++ braced (" " ++ ", ".intercalate (fields.map fun (k, v) => k ++ ": " ++ v) ++ " ")

def boolText (b : Bool) : String := if b then "true" else "false"

namespace Cursor

def Phase.text : Phase → String
  | active => "Active"
  | exhausted => "Exhausted"
  | closed => "Closed"

def summary (c : Cursor) : String :=
  GeoSearch.summary "ScrollCursor"
    [("state", c.phase.text), ("taken", toString c.taken), ("budget", toString c.budget),
     ("ids", braced (", ".intercalate (c.ids.map Text.quoted)))]

end Cursor

def HitStream.summary (s : HitStream) : String :=
  GeoSearch.summary "ScrollStream"
    [("cursor", s.cursor.summary), ("done", boolText s.finished)]

def Access.text : Access → String
  | hits _ => "hits"
  | buckets _ => "buckets"
  | stream _ => "stream"
  | page _ => "page"

def FeatureReader.summary (r : FeatureReader) : String :=
  GeoSearch.summary "FeatureReader"
    [("access", Text.quoted r.access.text), ("post_filtered", boolText r.filter.isSome),
     ("remaining", toString r.remaining)]

end GeoSearch
