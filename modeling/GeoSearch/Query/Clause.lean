import GeoSearch.Geometry.Document
import GeoSearch.Geometry.Distance
/-!
The queries of the index: clauses on fields and their boolean combinations, and the documents that
they are sent as.
-/
namespace GeoSearch

inductive Limit where
  | above
  | atLeast
  | below
  | atMost
  deriving Repr, DecidableEq

def Limit.text : Limit → String
  | above => "gt"
  | atLeast => "gte"
  | below => "lt"
  | atMost => "lte"

/-- How a stored shape has to lie to a shape. -/
inductive ShapeRelation where
  | disjoint
  | within
  | intersects
  deriving Repr, DecidableEq

def ShapeRelation.text : ShapeRelation → String
  | disjoint => "disjoint"
  | within => "within"
  | intersects => "intersects"

inductive Clause where
  | matchAll
  | term (field : String) (value : Json)
  | range (field : String) (limits : List (Limit × Json))
  | regexp (field pattern : String)
  /-- a pattern on an analyzed field -/
  | queryString (field pattern : String)
  | present (field : String)
  | ids (identifiers : List String)
  /-- at most so many metres from a position -/
  | near (field : String) (metres : Float) (centre : Coord Float)
  | inRing (field : String) (ring : List (Coord Float))
  | inBox (field : String) (topLeft bottomRight : Coord Float)
  | shape (field : String) (relation : ShapeRelation) (geometry : Geometry Float)
  | must (clauses : List Clause)
  | should (clauses : List Clause)
  | mustNot (clause : Clause)
  /-- a clause that selects without scoring -/
  | filtered (clause : Clause)
  /-- one document nested at the path satisfies the clause on its own -/
  | nested (path : String) (clause : Clause)
  /-- a query as its caller wrote it -/
  | native (document : Json)

namespace Clause

def matchNone : Clause := .mustNot .matchAll

/-- A document of one member. -/
def only (name : String) (value : Json) : Json := .object [(name, value)]

def onField (kind field : String) (body : Json) : Json := only kind (only field body)

def matchAllDocument : Json := only "match_all" (.object [])

/-- Distance and centre stand side by side, the centre under the name of its field. -/
def nearDocument (field : String) (metres : Float) (centre : Coord Float) : Json :=
  only "geo_distance"
    (.object (Json.Members.put [("distance", .string (Distance.clauseText metres))] field
      (GeoJson.position centre)))

mutual

def document : Clause → Json
  | .matchAll => matchAllDocument
  | .term field value => onField "term" field value
  | .range field limits =>
    onField "range" field (.object (limits.map fun (limit, value) => (limit.text, value)))
  | .regexp field pattern => onField "regexp" field (.string pattern)
  | .queryString field pattern =>
    only "query_string" (.object [("query", .string pattern), ("default_field", .string field)])
  | .present field => only "exists" (only "field" (.string field))
  | .ids identifiers => only "ids" (only "values" (Json.strings identifiers))
  | .near field metres centre => nearDocument field metres centre
  | .inRing field ring => onField "geo_polygon" field (only "points" (GeoJson.positions ring))
  | .inBox field topLeft bottomRight =>
    onField "geo_bounding_box" field
      (.object
        [("top_left", GeoJson.position topLeft), ("bottom_right", GeoJson.position bottomRight)])
  | .shape field relation geometry =>
    onField "geo_shape" field
      (.object [("shape", GeoJson.write geometry), ("relation", .string relation.text)])
  | .must clauses => only "bool" (only "must" (.array (documents clauses)))
  | .should clauses => only "bool" (only "should" (.array (documents clauses)))
  | .mustNot clause => only "bool" (only "must_not" (document clause))
  | .filtered clause =>
    only "bool" (.object [("must", matchAllDocument), ("filter", document clause)])
  | .nested path clause =>
    only "nested" (.object [("path", .string path), ("query", document clause)])
  | .native query => query

def documents : List Clause → List Json
  | [] => []
  | clause :: rest => document clause :: documents rest

end

def isMatchAll (c : Clause) : Bool := c.document.same matchAllDocument

/-- Both queries. One that selects everything is left out. -/
def both (a b : Clause) : Clause :=
  if a.isMatchAll then b else if b.isMatchAll then a else .must [a, b]

/-- A clause within the nested document of its field, if there is one. -/
def within : Option String → Clause → Clause
  | some path, clause => .nested path clause
  | none, clause => clause

def negatedIf (negated : Bool) (clause : Clause) : Clause :=
  if negated then .mustNot clause else clause

end Clause

end GeoSearch
