/-!
Feature types and their attributes: under which field the index holds an attribute, whether the
field lies in a nested document, how geometries are indexed and dates are written.
-/
namespace GeoSearch

inductive Binding where
  | string
  | integer
  | float
  | boolean
  | date
  | geometry
  deriving Repr, DecidableEq

/-- How the index stores a geometry: not at all, as a point, as a shape. -/
inductive Storage where
  | absent
  | point
  | shape
  deriving Repr, DecidableEq

structure Attribute where
  name : String
  nativeName : Option String := none
  binding : Binding := .string
  /-- lives in a nested document -/
  nested : Bool := false
  storage : Storage := .absent
  /-- the index splits the text into words -/
  analyzed : Bool := false
  /-- the pattern dates are written in -/
  dateFormat : Option String := none
  /-- coordinates are longitude and latitude -/
  geographic : Bool := true
  used : Bool := true
  /-- served from stored fields rather than from the source document -/
  stored : Bool := false
  deriving Repr, DecidableEq

namespace Attribute

/-- An attribute about which nothing but its name is known. -/
def plain (name : String) : Attribute := { name := name }

def ofGeometry (name : String) (storage : Storage) : Attribute :=
  { name := name, binding := .geometry, storage := storage }

/-- Dates of the attribute are written in the pattern. -/
def withDateFormat (a : Attribute) (pattern : String) : Attribute :=
  { a with binding := .date, dateFormat := some pattern }

/-- The field of the index that holds the attribute. -/
def field (a : Attribute) : String := a.nativeName.getD a.name

/-- What stands before the last dot, if there is a dot. -/
def parentChars? : List Char → Option (List Char)
  | [] => none
  | c :: rest =>
    match parentChars? rest with
    | some parent => some (c :: parent)
    | none => if c = '.' then some [] else none

/-- The path of the nested document that holds the field. -/
def nestedPath? (a : Attribute) : Option String :=
  if a.nested then (parentChars? a.field.toList).map String.ofList else none

end Attribute

structure FeatureType where
  name : String := ""
  attributes : List Attribute := []
  defaultGeometry : Option String := none
  deriving Repr, DecidableEq

namespace FeatureType

/-- Adds an attribute; the first geometry becomes the default one. -/
def add (t : FeatureType) (a : Attribute) : FeatureType :=
  let geometry :=
    if t.defaultGeometry.isNone && a.storage != .absent then some a.name else t.defaultGeometry
  { t with attributes := t.attributes ++ [a], defaultGeometry := geometry }

def attribute? (t : FeatureType) (name : String) : Option Attribute :=
  t.attributes.find? fun a => a.name == name

/-- The attribute of a name; unknown names stand for plain attributes. -/
def resolve (t : FeatureType) (name : String) : Attribute :=
  (t.attribute? name).getD (Attribute.plain name)

def usedAttributes (t : FeatureType) : List Attribute := t.attributes.filter (·.used)

end FeatureType

end GeoSearch
