import GeoSearch.Query.Selection
/-!
Nested documents. An index keeps the objects at a nested path apart, and holds what stands in an
envelope of that path against each of them on its own.
-/
namespace GeoSearch

namespace Document

mutual

/-- A value that is an object, or the objects among the items of an array. -/
def objects : Json → List Json
  | .object members => [.object members]
  | .array items => itemObjects items
  | _ => []

def itemObjects : List Json → List Json
  | [] => []
  | item :: rest => objects item ++ itemObjects rest

end

/-- What the names of a path lead to, with arrays as they are at its end. -/
def reached (documents : List Json) : List String → List Json
  | [] => documents
  | name :: rest => reached (documents.flatMap (children name)) rest

def objectsAt (source : Json) (path : String) : List Json :=
  (reached [source] (segments path)).flatMap objects

def holding (value : Json) : List String → Json
  | [] => value
  | name :: rest => .object [(name, holding value rest)]

/-- The document that has nothing but one value, at a path. -/
def alone (value : Json) (path : String) : Json := holding value (segments path)

end Document

/-- One of the objects at the path of an envelope, on its own, has to satisfy all that it holds. -/
def Rules.apart : Rules where
  order? := Document.order?
  inside path asked source := (Document.objectsAt source path).any fun o => asked (Document.alone o path)

namespace Clause

variable (r : Reading) (id : String)

def selectsApart (clause : Clause) (source : Json) : Bool := selectsBy .apart r id clause source

@[simp] theorem selectsApart_nested (path : String) (c : Clause) (source : Json) :
    selectsApart r id (.nested path c) source =
      (Document.objectsAt source path).any fun o => selectsApart r id c (Document.alone o path) := rfl

@[simp] theorem selectsApart_mustNot (c : Clause) (source : Json) :
    selectsApart r id (.mustNot c) source = !selectsApart r id c source := rfl

@[simp] theorem selectsApart_term (field : String) (value source : Json) :
    selectsApart r id (.term field value) source = Rules.plain.hasTerm source field value := rfl

@[simp] theorem selectsApart_range (field : String) (limits : List (Limit × Json)) (source : Json) :
    selectsApart r id (.range field limits) source = Rules.plain.hasInRange source field limits := rfl

end Clause

end GeoSearch
