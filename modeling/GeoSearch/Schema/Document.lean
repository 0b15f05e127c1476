import GeoSearch.Schema.Basic
import GeoSearch.Json.Record
/-!
Feature types as documents.
-/
namespace GeoSearch

namespace Binding

def text : Binding → String
  | .string => "string"
  | .integer => "integer"
  | .float => "float"
  | .boolean => "boolean"
  | .date => "date"
  | .geometry => "geometry"

def ofText? : String → Option Binding :=
  Json.choice? text [.string, .integer, .float, .boolean, .date, .geometry]

def read? (document : Json) : Option Binding := document.asName?.bind ofText?

end Binding

namespace Storage

def text : Storage → String
  | .absent => "none"
  | .point => "point"
  | .shape => "shape"

def ofText? : String → Option Storage := Json.choice? text [.absent, .point, .shape]

def read? (document : Json) : Option Storage := document.asName?.bind ofText?

end Storage

namespace Attribute

def memberNames : List String :=
  ["name", "native_name", "binding", "nested", "geometry", "analyzed", "date_format", "geographic",
    "use", "stored"]

def document (a : Attribute) : Json :=
  .object
    [("name", .string a.name),
     ("native_name", Json.ofOption .string a.nativeName),
     ("binding", .string a.binding.text),
     ("nested", .bool a.nested),
     ("geometry", .string a.storage.text),
     ("analyzed", .bool a.analyzed),
     ("date_format", Json.ofOption .string a.dateFormat),
     ("geographic", .bool a.geographic),
     ("use", .bool a.used),
     ("stored", .bool a.stored)]

/-- Every member but the name may be left out. -/
def read? (document : Json) : Option Attribute := do
  let members ← document.record? memberNames
  let name ← members.required "name" Json.asString?
  let standard := plain name
  some {
    name
    nativeName := ← members.defaulted "native_name" standard.nativeName (Json.nullable Json.asString?)
    binding := ← members.defaulted "binding" standard.binding Binding.read?
    nested := ← members.defaulted "nested" standard.nested Json.asBool?
    storage := ← members.defaulted "geometry" standard.storage Storage.read?
    analyzed := ← members.defaulted "analyzed" standard.analyzed Json.asBool?
    dateFormat := ← members.defaulted "date_format" standard.dateFormat (Json.nullable Json.asString?)
    geographic := ← members.defaulted "geographic" standard.geographic Json.asBool?
    used := ← members.defaulted "use" standard.used Json.asBool?
    stored := ← members.defaulted "stored" standard.stored Json.asBool? }

end Attribute

namespace FeatureType

def memberNames : List String := ["type_name", "attributes", "default_geometry"]

def document (t : FeatureType) : Json :=
  .object
    [("type_name", .string t.name),
     ("attributes", .array (t.attributes.map Attribute.document)),
     ("default_geometry", Json.ofOption .string t.defaultGeometry)]

def read? (document : Json) : Option FeatureType := do
  let members ← document.record? memberNames
  some {
    name := ← members.defaulted "type_name" "" Json.asString?
    attributes := ← members.defaulted "attributes" [] (Json.items? Attribute.read?)
    defaultGeometry :=
      ← members.defaulted "default_geometry" none (Json.nullable Json.asString?) }

end FeatureType

end GeoSearch
