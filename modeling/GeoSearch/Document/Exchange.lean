import GeoSearch.Document.Lookup
import GeoSearch.Geometry.Document
/-!
Documents with another value at a path through objects, and values that are one geometry each.
-/
namespace GeoSearch

namespace Document

/-- A document with another value where a path through objects leads. -/
def exchanged (value : Json) : List String → Json → Json
  | [], _ => value
  | name :: rest, .object members =>
    let inner := exchanged value rest ((Json.Members.get? members name).getD .null)
    .object (Json.Members.put members name inner)
  | _ :: _, document => document

theorem memberAt?_object (members : Json.Members) (name : String) (rest : List String) :
    memberAt? (.object members) (name :: rest) =
      (Json.Members.get? members name).bind (memberAt? · rest) := rfl

/-- A path with a first name leads into an object. -/
theorem memberAt?_cons {document value : Json} {name : String} {rest : List String}
    (found : memberAt? document (name :: rest) = some value) :
    ∃ members inner, document = .object members ∧ Json.Members.get? members name = some inner ∧
      memberAt? inner rest = some value := by
  cases document with
  | object members =>
    obtain ⟨inner, member, below⟩ := Option.bind_eq_some_iff.mp found
    exact ⟨members, inner, rfl, member, below⟩
  | _ => cases found

theorem memberAt?_append (document : Json) (first rest : List String) :
    memberAt? document (first ++ rest) = (memberAt? document first).bind (memberAt? · rest) := by
  induction first generalizing document with
  | nil => rfl
  | cons name first ih =>
    cases document with
    | object members =>
      simp only [List.cons_append, memberAt?_object, Option.bind_assoc, ih]
    | _ => rfl

theorem memberAt?_exchanged {document old : Json} (value : Json) {names : List String}
    (found : memberAt? document names = some old) :
    memberAt? (exchanged value names document) names = some value := by
  induction names generalizing document with
  | nil => rfl
  | cons name rest ih =>
    obtain ⟨members, inner, rfl, member, below⟩ := memberAt?_cons found
    simpa [exchanged, memberAt?_object, member] using ih below

end Document

def Json.isArray : Json → Bool
  | .array _ => true
  | _ => false

/-- A value that is one geometry, in any form. Of a list the longitude and the latitude are the
geometry, and nothing after them is one. -/
def GeoJson.isGeometry (value : Json) : Bool :=
  (read? value).isSome &&
    match value with
    | .array items => (items.drop 2).all fun item => (read? item).isNone
    | _ => true

end GeoSearch
