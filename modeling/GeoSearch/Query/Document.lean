import GeoSearch.Query.Selection
/-!
Queries as documents, in the form in which they are sent. A reading of such documents follows the rules
of an index if it takes the kinds that compiled queries are made of by these rules; documents of any
other kind are its own affair. `QueryDocument.selects` is such a reading.
-/
namespace GeoSearch

def Limit.ofText? : String → Option Limit
  | "gt" => some .above
  | "gte" => some .atLeast
  | "lt" => some .below
  | "lte" => some .atMost
  | _ => none

namespace Rules

/-- A value lies within all limits of a range. A name that is no limit admits nothing. -/
def within (rules : Rules) (limits : Json.Members) (v : Json) : Bool :=
  limits.all fun (name, bound) =>
    (Limit.ofText? name).any fun limit => (rules.order? v bound).any limit.admits

/-- A reading answers whether a query, as a document, selects the document of an identifier. It reads
these kinds by the rules. -/
structure ReadBy (rules : Rules) (reads : Json → String → Json → Bool) : Prop where
  everything (id : String) (source : Json) :
    reads (.object [("match_all", .object [])]) id source = true
  term (field : String) (value : Json) (id : String) (source : Json) :
    reads (.object [("term", .object [(field, value)])]) id source =
      (Document.lookup source field).any fun v => rules.order? v value == some .eq
  range (field : String) (limits : Json.Members) (id : String) (source : Json) :
    reads (.object [("range", .object [(field, .object limits)])]) id source =
      (Document.lookup source field).any (rules.within limits)
  present (field id : String) (source : Json) :
    reads (.object [("exists", .object [("field", .string field)])]) id source =
      !(Document.lookup source field).isEmpty
  ids (identifiers : List Json) (id : String) (source : Json) :
    reads (.object [("ids", .object [("values", .array identifiers)])]) id source =
      identifiers.any fun listed => listed.asString? == some id
  must (queries : List Json) (id : String) (source : Json) :
    reads (.object [("bool", .object [("must", .array queries)])]) id source =
      queries.all fun query => reads query id source
  should (queries : List Json) (id : String) (source : Json) :
    reads (.object [("bool", .object [("should", .array queries)])]) id source =
      queries.any fun query => reads query id source
  mustNot (query : Json.Members) (id : String) (source : Json) :
    reads (.object [("bool", .object [("must_not", .object query)])]) id source =
      !reads (.object query) id source
  filtered (query : Json.Members) (id : String) (source : Json) :
    reads
        (.object [("bool", .object
          [("must", .object [("match_all", .object [])]), ("filter", .object query)])]) id source =
      reads (.object query) id source
  nested (path : String) (query : Json) (id : String) (source : Json) :
    reads (.object [("nested", .object [("path", .string path), ("query", query)])]) id source =
      rules.inside path (reads query id) source

end Rules

namespace QueryDocument

/-- The one member of an object. -/
def entry : Json → String × Json
  | .object (member :: _) => member
  | _ => ("", .null)

section

variable (rules : Rules) (other : String → Json → String → Json → Bool) (id : String)

/-- Kinds without queries in them. -/
def selectsLeaf (kind : String) (body source : Json) : Bool :=
  match kind with
  | "match_all" => true
  | "term" =>
    (Document.lookup source (entry body).1).any fun v => rules.order? v (entry body).2 == some .eq
  | "range" =>
    match (entry body).2 with
    | .object limits => (Document.lookup source (entry body).1).any (rules.within limits)
    | _ => false
  | "exists" =>
    !(Document.lookup source (((body.member? "field").bind Json.asString?).getD "")).isEmpty
  | "ids" =>
    (((body.member? "values").bind Json.asArray?).getD []).any fun listed =>
      listed.asString? == some id
  | _ => other kind body id source

/-- What a member of a boolean query asks for, by whether all and whether any of its queries select.
Other members ask for nothing. -/
def occurs (name : String) (all any : Bool) : Bool :=
  match name with
  | "must" | "filter" => all
  | "should" => any
  | "must_not" => !any
  | _ => true

mutual

/-- Whether a query selects a document of an identifier. Kinds without a rule are read by `other`, and so
is what has no kind. -/
def selects : Json → Json → Bool
  | .object ((kind, body) :: _), source =>
    if kind = "bool" then selectsBoolean body source
    else if kind = "nested" then
      selectsNested body source (((body.member? "path").bind Json.asString?).getD "")
    else selectsLeaf rules other id kind body source
  | _, source => other "" .null id source

def selectsBoolean : Json → Json → Bool
  | .object members, source => allOccur members source
  | _, _ => true

/-- A member is a list of queries, or a single one. -/
def allOccur : List (String × Json) → Json → Bool
  | [], _ => true
  | (name, .array queries) :: rest, source =>
    occurs name (allSelect queries source) (anySelects queries source) && allOccur rest source
  | (name, query) :: rest, source =>
    occurs name (selects query source) (selects query source) && allOccur rest source

def selectsNested : Json → Json → String → Bool
  | .object members, source, path => selectsInside members source path
  | _, _, _ => false

def selectsInside : List (String × Json) → Json → String → Bool
  | [], _, _ => false
  | (name, query) :: rest, source, path =>
    if name = "query" then rules.inside path (selects query) source
    else selectsInside rest source path

def allSelect : List Json → Json → Bool
  | [], _ => true
  | query :: rest, source => selects query source && allSelect rest source

def anySelects : List Json → Json → Bool
  | [], _ => false
  | query :: rest, source => selects query source || anySelects rest source

end

end

end QueryDocument

end GeoSearch
