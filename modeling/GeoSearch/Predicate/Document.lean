import GeoSearch.Predicate.Basic
import GeoSearch.Json.Record
import GeoSearch.Json.Printer
import GeoSearch.Geometry.Wkt
import GeoSearch.Time.Rfc3339
/-!
Predicates as documents. A predicate is an object whose member `op` names its kind, or an array of
the kind and the members in their order; literals name their own kind. Geometries are written as
well-known text and instants as timestamps.
-/
namespace GeoSearch

def Json.ofChar (c : Char) : Json := .string (String.singleton c)

namespace Time

def Instant.document (i : Instant) : Json := .string (Rfc3339.write i)

def Instant.ofDocument? (document : Json) : Option Instant :=
  document.asString?.bind Rfc3339.readLenient?

namespace Period

def memberNames : List String := ["begin", "end"]

def document (p : Period) : Json :=
  .object [("begin", p.start.document), ("end", p.stop.document)]

def ofDocument? (document : Json) : Option Period := do
  let members ← document.record? memberNames
  some ⟨← members.required "begin" Instant.ofDocument?, ← members.required "end" Instant.ofDocument?⟩

end Period

end Time

namespace Literal

def document : Literal → Json
  | .value v => .object [("value", v)]
  | .instant i => .object [("date", i.document)]
  | .period p => .object [("period", p.document)]
  | .geometry g => .object [("geometry", .string (Wkt.write g))]

def ofDocument? : Json → Option Literal
  | .object [("value", v)] => some (.value v)
  | .object [("date", i)] => (Time.Instant.ofDocument? i).map .instant
  | .object [("period", p)] => (Time.Period.ofDocument? p).map .period
  | .object [("geometry", g)] => (g.asString?.bind Wkt.read?).map .geometry
  | _ => none

end Literal

namespace Operand

def document : Operand → Json
  | .property name => .object [("property", .string name)]
  | .literal l => .object [("literal", l.document)]

def ofDocument? : Json → Option Operand
  | .object [("property", name)] => name.asString?.map .property
  | .object [("literal", l)] => (Literal.ofDocument? l).map .literal
  | _ => none

end Operand

def Comparison.ofText? : String → Option Comparison :=
  Json.choice? text [equal, unequal, greater, greaterOrEqual, less, lessOrEqual]

def SpatialRelation.ofText? : String → Option SpatialRelation :=
  Json.choice? text
    [bbox, contains, crosses, disjoint, equals, intersects, overlaps, touches, within]

def DistanceRelation.ofText? : String → Option DistanceRelation := Json.choice? text [within, beyond]

def TemporalRelation.ofText? : String → Option TemporalRelation :=
  Json.choice? text
    [after, before, begins, begunBy, during, endedBy, ends, meets, metBy, overlappedBy, contains,
      equals, overlaps, anyInteracts]

namespace Wildcards

def memberNames : List String := ["wildcard", "single_char", "escape", "match_case"]

def document (w : Wildcards) : Json :=
  .object
    [("wildcard", Json.ofChar w.anyRun), ("single_char", Json.ofChar w.single),
     ("escape", Json.ofChar w.escape), ("match_case", .bool w.matchCase)]

def ofDocument? (document : Json) : Option Wildcards := do
  let members ← document.record? memberNames
  let standard : Wildcards := {}
  some {
    anyRun := ← members.defaulted "wildcard" standard.anyRun Json.asChar?
    single := ← members.defaulted "single_char" standard.single Json.asChar?
    escape := ← members.defaulted "escape" standard.escape Json.asChar?
    matchCase := ← members.defaulted "match_case" standard.matchCase Json.asBool? }

end Wildcards

namespace Predicate

def tagged (kind : String) (members : Json.Members) : Json := .object (("op", .string kind) :: members)

mutual

def document : Predicate → Json
  | .everything => tagged "include" []
  | .nothing => tagged "exclude" []
  | .and children => tagged "and" [("children", .array (documents children))]
  | .or children => tagged "or" [("children", .array (documents children))]
  | .not child => tagged "not" [("child", document child)]
  | .compare relation left right =>
    tagged "compare"
      [("operator", .string relation.text), ("left", left.document), ("right", right.document)]
  | .between operand lower upper =>
    tagged "between"
      [("expr", operand.document), ("lower", lower.document), ("upper", upper.document)]
  | .like operand pattern wildcards =>
    tagged "like"
      [("expr", operand.document), ("pattern", .string pattern), ("syntax", wildcards.document)]
  | .isNull operand => tagged "is_null" [("expr", operand.document)]
  | .ids identifiers => tagged "ids" [("ids", Json.strings identifiers)]
  | .spatial relation left right =>
    tagged "spatial"
      [("operator", .string relation.text), ("left", left.document), ("right", right.document)]
  | .distance relation left right limit units =>
    tagged "distance"
      [("operator", .string relation.text), ("left", left.document), ("right", right.document),
       ("distance", Json.ofFloat limit), ("units", .string units)]
  | .temporal relation left right =>
    tagged "temporal"
      [("operator", .string relation.text), ("left", left.document), ("right", right.document)]

def documents : List Predicate → List Json
  | [] => []
  | child :: rest => document child :: documents rest

end

def text (p : Predicate) : String := p.document.text

/-! ### Reading -/

/-- The kinds of predicates with the names of their members. -/
def shapes : List (String × List String) :=
  [("include", []), ("exclude", []), ("and", ["children"]), ("or", ["children"]), ("not", ["child"]),
   ("compare", ["operator", "left", "right"]), ("between", ["expr", "lower", "upper"]),
   ("like", ["expr", "pattern", "syntax"]), ("is_null", ["expr"]), ("ids", ["ids"]),
   ("spatial", ["operator", "left", "right"]),
   ("distance", ["operator", "left", "right", "distance", "units"]),
   ("temporal", ["operator", "left", "right"])]

/-- The kind that a tag names. Within another predicate the number of the kind is a tag, too. -/
def shape? (inner : Bool) : Json → Option (String × List String)
  | .string kind => shapes.find? (·.1 == kind)
  | .number n => if inner then (Json.number n).asUnsigned?.bind (shapes[·]?) else none
  | _ => none

/-- The kind of a document and its members. -/
def parts? (inner : Bool) : Json → Option (String × Json.Members)
  | .object members => do
    let (kind, _) ← (Json.Members.get? members "op").bind (shape? inner)
    some (kind, members)
  | .array (tag :: items) => do
    let (kind, names) ← shape? inner tag
    if items.length ≤ names.length then some (kind, names.zip items) else none
  | _ => none

/-- The name of a relation, which may stand as the key of an empty object. -/
def relation? (ofText? : String → Option α) : Json → Option α
  | .object [(name, .object [])] => ofText? name
  | document => document.asName?.bind ofText?

theorem sizeOf_lt_of_mem {members : List (String × Json)} {name : String} {value : Json}
    (h : (name, value) ∈ members) : sizeOf value < sizeOf members := by
  have h := List.sizeOf_lt_of_mem h
  simp only [Prod.mk.sizeOf_spec] at h
  omega

theorem mem_of_get? {members : Json.Members} {name : String} {value : Json}
    (h : members.get? name = some value) : (name, value) ∈ members := by
  induction members with
  | nil => simp [Json.Members.get?] at h
  | cons member rest ih =>
    obtain ⟨k, v⟩ := member
    by_cases hk : name = k
    · simp_all [Json.Members.get?]
    · have hk' : (name == k) = false := by simpa using hk
      simp only [Json.Members.get?, List.lookup_cons, hk'] at h
      exact List.mem_cons_of_mem _ (ih h)

/-- The members of a document are smaller than the document. -/
theorem sizeOf_lt_of_parts? {inner : Bool} {document : Json} {kind : String}
    {members : Json.Members} {name : String} {value : Json}
    (hp : parts? inner document = some (kind, members)) (hv : members.get? name = some value) :
    sizeOf value < sizeOf document := by
  have hm := mem_of_get? hv
  unfold parts? at hp
  split at hp
  · next all =>
    simp only [bind, Option.bind_eq_some_iff] at hp
    obtain ⟨_, _, hp⟩ := hp
    cases hp
    have := sizeOf_lt_of_mem hm
    simp only [Json.object.sizeOf_spec]
    omega
  · next tag items =>
    simp only [bind, Option.bind_eq_some_iff] at hp
    obtain ⟨⟨_, names⟩, _, hp⟩ := hp
    dsimp only at hp
    split at hp
    · cases hp
      have := List.sizeOf_lt_of_mem (List.of_mem_zip hm).2
      simp only [Json.array.sizeOf_spec, List.cons.sizeOf_spec]
      omega
    · cases hp
  · cases hp

def readLeaf (kind : String) (members : Json.Members) : Option Predicate :=
  let operand (name : String) : Option Operand := members.required name Operand.ofDocument?
  match kind with
  | "include" => some .everything
  | "exclude" => some .nothing
  | "compare" => do
    some (.compare (← members.required "operator" (relation? Comparison.ofText?))
      (← operand "left") (← operand "right"))
  | "between" => do some (.between (← operand "expr") (← operand "lower") (← operand "upper"))
  | "like" => do
    some (.like (← operand "expr") (← members.required "pattern" Json.asString?)
      (← members.defaulted "syntax" {} Wildcards.ofDocument?))
  | "is_null" => (operand "expr").map .isNull
  | "ids" => (members.required "ids" Json.asStrings?).map .ids
  | "spatial" => do
    some (.spatial (← members.required "operator" (relation? SpatialRelation.ofText?))
      (← operand "left") (← operand "right"))
  | "distance" => do
    some (.distance (← members.required "operator" (relation? DistanceRelation.ofText?))
      (← operand "left") (← operand "right") (← members.required "distance" Json.asFloat?)
      (← members.defaulted "units" "" Json.asString?))
  | "temporal" => do
    some (.temporal (← members.required "operator" (relation? TemporalRelation.ofText?))
      (← operand "left") (← operand "right"))
  | _ => none

set_option linter.unusedVariables false in
/-- Reads a predicate; `inner` tells that it stands within another one. -/
def readAt (inner : Bool) (document : Json) : Option Predicate :=
  match hp : parts? inner document with
  | none => none
  | some (kind, members) =>
    let children : Option (List Predicate) :=
      match hv : members.get? "children" with
      | some (.array items) => items.attach.mapM fun ⟨item, _⟩ => readAt true item
      | _ => none
    if kind = "and" then children.map .and
    else if kind = "or" then children.map .or
    else if kind = "not" then
      match hv : members.get? "child" with
      | some child => (readAt true child).map .not
      | none => none
    else readLeaf kind members
termination_by sizeOf document
decreasing_by
  · have h₁ := sizeOf_lt_of_parts? hp hv
    have h₂ := List.sizeOf_lt_of_mem ‹item ∈ items›
    simp only [Json.array.sizeOf_spec] at h₁
    omega
  · exact sizeOf_lt_of_parts? hp hv

def ofDocument? (document : Json) : Option Predicate := readAt false document

end Predicate

end GeoSearch
