import GeoSearch.Query.Nested
import GeoSearch.Schema.Basic
/-!
Values of nested documents. What a document has at a field below a path is what the objects at the path
have there, one after the other.
-/
namespace GeoSearch

namespace Attribute

theorem parentChars?_eq_none {field : List Char} (absent : parentChars? field = none) :
    '.' ∉ field := by
  induction field with
  | nil => exact List.not_mem_nil
  | cons c rest ih =>
    rw [parentChars?] at absent
    cases later : parentChars? rest with
    | some above => simp [later] at absent
    | none =>
      simp only [later, ite_eq_right_iff, reduceCtorEq, imp_false] at absent
      simp [ih later, Ne.symm absent]

/-- A field is its parent, a dot and a name without a dot. -/
theorem parentChars?_eq_some {field parent : List Char} (found : parentChars? field = some parent) :
    ∃ last, field = parent ++ '.' :: last ∧ '.' ∉ last := by
  induction field generalizing parent with
  | nil => cases found
  | cons c rest ih =>
    rw [parentChars?] at found
    cases later : parentChars? rest with
    | some above =>
      rw [later] at found
      cases found
      obtain ⟨last, rfl, plain⟩ := ih later
      exact ⟨last, rfl, plain⟩
    | none =>
      simp only [later, Option.ite_none_right_eq_some, Option.some.injEq] at found
      obtain ⟨rfl, rfl⟩ := found
      exact ⟨rest, rfl, parentChars?_eq_none later⟩

theorem segments_field {a : Attribute} {path : String} (nested : a.nestedPath? = some path) :
    ∃ last, Document.segments a.field = Document.segments path ++ [last] := by
  simp only [nestedPath?, Option.ite_none_right_eq_some, Option.map_eq_some_iff] at nested
  obtain ⟨-, parent, found, rfl⟩ := nested
  obtain ⟨last, whole, plain⟩ := parentChars?_eq_some found
  refine ⟨String.ofList last, ?_⟩
  rw [Document.segments, Document.segments, whole, Text.split_append, Text.split_of_notMem plain,
    String.toList_ofList, List.map_append]
  rfl

end Attribute

namespace Document

/-! ### Lookup by way of objects -/

mutual

/-- Only objects have members. -/
theorem flatMap_children_objects (name : String) :
    ∀ value, (objects value).flatMap (children name) = children name value
  | .object members => by simp [objects]
  | .array items => flatMap_children_itemObjects name items
  | .null => rfl
  | .bool _ => rfl
  | .number _ => rfl
  | .string _ => rfl

theorem flatMap_children_itemObjects (name : String) :
    ∀ items, (itemObjects items).flatMap (children name) = itemChildren name items
  | [] => rfl
  | item :: rest => by
    rw [itemObjects, itemChildren, List.flatMap_append, flatMap_children_objects name item,
      flatMap_children_itemObjects name rest]

end

theorem lookupFrom_append (documents : List Json) (first rest : List String) :
    lookupFrom documents (first ++ rest) = lookupFrom (reached documents first) rest := by
  induction first generalizing documents with
  | nil => rfl
  | cons name first ih => exact ih (documents.flatMap (children name))

/-- A value alone at a path is what the path leads to. -/
theorem reached_holding (value : Json) (names : List String) :
    reached [holding value names] names = [value] := by
  induction names with
  | nil => rfl
  | cons name rest ih =>
    have member : [holding value (name :: rest)].flatMap (children name) = [holding value rest] := by
      simp [holding, children, Json.Members.get?]
    rw [reached, member, ih]

theorem lookup_alone (value : Json) (path : String) : lookup (alone value path) path = settled value := by
  have whole := lookupFrom_append [alone value path] (segments path) []
  rw [List.append_nil, alone, reached_holding] at whole
  rw [lookup, alone, whole]
  exact List.flatMap_singleton ..

/-- What a document has at a field below a path, its objects at the path have there. -/
theorem lookup_eq_flatMap_objectsAt (source : Json) {field path last : String}
    (below : segments field = segments path ++ [last]) :
    lookup source field = (objectsAt source path).flatMap fun o => lookup (alone o path) field := by
  have here (o : Json) : lookup (alone o path) field = (children last o).flatMap settled := by
    rw [lookup, below, lookupFrom_append, alone, reached_holding]
    simp [lookupFrom]
  have through (documents : List Json) : lookupFrom documents [last] =
      (documents.flatMap objects).flatMap fun o => (children last o).flatMap settled := by
    have each : (documents.flatMap objects).flatMap (children last) =
        documents.flatMap (children last) := by
      simp only [List.flatMap_assoc, flatMap_children_objects]
    rw [← List.flatMap_assoc, each]
    rfl
  simp only [lookup.eq_1 source, below, lookupFrom_append, through, here, objectsAt]

end Document

end GeoSearch
