import GeoSearch.Json.Basic
import GeoSearch.Text.Split
/-!
The values of a document at a dotted path. Arrays on the way stand for all of their items.
-/
namespace GeoSearch.Document

def segments (path : String) : List String := (Text.split '.' path.toList).map String.ofList

/-- A path has a first name. -/
theorem segments_ne_nil (path : String) : segments path ≠ [] := by
  simp [segments, Text.split_ne_nil]

mutual

/-- The members of this name in a document, or in the items of an array. -/
def children (name : String) : Json → List Json
  | .object members => (Json.Members.get? members name).toList
  | .array items => itemChildren name items
  | _ => []

def itemChildren (name : String) : List Json → List Json
  | [] => []
  | item :: rest => children name item ++ itemChildren name rest

end

/-- The values that stand at the end of a path: the items of an array, and never null. -/
def settled : Json → List Json
  | .array items => items.filter fun item => !item.isNull
  | .null => []
  | value => [value]

def lookupFrom (documents : List Json) : List String → List Json
  | [] => documents.flatMap settled
  | name :: rest => lookupFrom (documents.flatMap (children name)) rest

theorem lookupFrom_nil (names : List String) : lookupFrom [] names = [] := by
  induction names with
  | nil => rfl
  | cons name rest ih => exact ih

def lookup (document : Json) (path : String) : List Json := lookupFrom [document] (segments path)

/-- The member that a path through objects alone leads to. -/
def memberAt? (document : Json) : List String → Option Json
  | [] => some document
  | name :: rest =>
    match document with
    | .object members => (Json.Members.get? members name).bind (memberAt? · rest)
    | _ => none

def single? (document : Json) (path : String) : Option Json := memberAt? document (segments path)

/-- Two documents have the same at a path: the same values, and the same member. -/
structure Agree (left right : Json) (path : String) : Prop where
  values : lookup left path = lookup right path
  member : single? left path = single? right path

/-- One of two paths goes on from where the other ends. -/
def Meet (path other : String) : Prop :=
  segments path <+: segments other ∨ segments other <+: segments path

end GeoSearch.Document
