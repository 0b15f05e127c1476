import GeoSearch.Query.Native
import GeoSearch.Query.Spatial
import GeoSearch.Document.Order
import GeoSearch.Text.Sorted
/-!
Predicates compiled to queries. A part that has no clause selects everything and leaves a note;
where there is a note, the results have to be filtered by the predicate itself.
-/
namespace GeoSearch

/-- A query and the parts of its predicate that it leaves out. -/
structure Compilation where
  clause : Clause
  notes : List Note := []

namespace Compilation

/-- Every part has its clause. -/
def exact (c : Compilation) : Bool := c.notes.isEmpty

/-- A part without a clause selects everything. -/
def ofExcept : Except Note Clause → Compilation
  | .ok clause => { clause }
  | .error note => { clause := .matchAll, notes := [note] }

/-- The opposite of a query that leaves something out would lose results; it is left out whole. -/
def negate (c : Compilation) : Compilation :=
  { c with clause := if c.exact then .mustNot c.clause else .matchAll }

end Compilation

/-- A date as a clause states it. -/
def Attribute.dateValue (a : Attribute) (i : Time.Instant) : Json :=
  .string ((a.writeDate? i).getD "")

/-- A literal as a clause states it: a scalar or a date. -/
def Attribute.clauseValue? (a : Attribute) : Literal → Option Json
  | .value (.bool b) => some (.bool b)
  | .value (.number n) => some (.number n)
  | .value (.string s) => some (.string s)
  | .instant i => some (a.dateValue i)
  | _ => none

/-- A clause on an attribute, within the nested document that holds it. -/
def Attribute.enclose (a : Attribute) (clause : Clause) : Clause := Clause.within a.nestedPath? clause

theorem Attribute.enclose_flat {a : Attribute} (flat : a.nested = false) (clause : Clause) :
    a.enclose clause = clause := by
  simp [enclose, nestedPath?, flat, Clause.within]

theorem Attribute.enclose_nested {a : Attribute} {path : String} (nested : a.nestedPath? = some path)
    (clause : Clause) : a.enclose clause = .nested path clause := by
  rw [enclose, nested, Clause.within]

def Window.clause (a : Attribute) : Window → Clause
  | later i => .range a.field [(.above, a.dateValue i)]
  | earlier i => .range a.field [(.below, a.dateValue i)]
  | inside start stop => .range a.field [(.above, a.dateValue start), (.below, a.dateValue stop)]
  | .at i => .term a.field (a.dateValue i)

namespace TemporalRelation

/-- The instants that a relation to a literal singles out. -/
def literalWindow (relation : TemporalRelation) (l : Literal) (swapped : Bool) :
    Except Note Window :=
  match l.temporal? with
  | none => .error ⟨relation.text, "literal is not an instant or period"⟩
  | some value => (relation.window value swapped).mapError (⟨relation.text, ·⟩)

def clause (relation : TemporalRelation) (a : Attribute) (l : Literal) (swapped : Bool) :
    Except Note Clause :=
  (relation.literalWindow l swapped).map (·.clause a)

end TemporalRelation

namespace Comparison

def limit? : Comparison → Option Limit
  | greater => some .above
  | greaterOrEqual => some .atLeast
  | less => some .below
  | lessOrEqual => some .atMost
  | _ => none

def clause (relation : Comparison) (field : String) (value : Json) : Clause :=
  match relation.limit? with
  | some limit => .range field [(limit, value)]
  | none => .negatedIf (relation = unequal) (.term field value)

end Comparison

/-- A clause sends the identifiers without the name of their type, each once and in order. -/
def FeatureType.plainIdentifier (type : FeatureType) (id : String) : String :=
  if type.name.isEmpty then id
  else
    match Text.after? (type.name ++ ".").toList id.toList with
    | some rest => String.ofList rest
    | none => id

namespace Predicate

def pairReason : String := "needs one attribute and one literal"

def compareClause (type : FeatureType) (relation : Comparison) (left right : Operand) :
    Except Note Clause :=
  match pairing? left right with
  | none => .error ⟨relation.text, pairReason⟩
  | some p =>
    let a := type.resolve p.property
    match a.clauseValue? p.literal with
    | none => .error ⟨relation.text, "literal is not a scalar or instant"⟩
    | some value =>
      .ok (a.enclose ((if p.swapped then relation.mirror else relation).clause a.field value))

def betweenClause (type : FeatureType) (operand lower upper : Operand) : Except Note Clause :=
  match operand, lower, upper with
  | .property name, .literal lower, .literal upper =>
    let a := type.resolve name
    match a.clauseValue? lower, a.clauseValue? upper with
    | some low, some high => .ok (a.enclose (.range a.field [(.atLeast, low), (.atMost, high)]))
    | _, _ => .error ⟨"between", "bounds are not scalars"⟩
  | _, _, _ => .error ⟨"between", "needs an attribute and two literal bounds"⟩

def likeClause (type : FeatureType) (operand : Operand) (pattern : String) (w : Wildcards) :
    Except Note Clause :=
  match operand with
  | .property name =>
    let a := type.resolve name
    .ok (a.enclose
      (if a.analyzed then .queryString a.field (Like.queryString.render w pattern)
      else .regexp a.field (Like.regexp.render w pattern)))
  | .literal _ => .error ⟨"like", "operand is not an attribute"⟩

def presentClause (type : FeatureType) (name : String) : Clause :=
  (type.resolve name).enclose (.present (type.resolve name).field)

def isNullClause (type : FeatureType) : Operand → Except Note Clause
  | .property name => .ok (.mustNot (presentClause type name))
  | .literal _ => .error ⟨"is_null", "operand is not an attribute"⟩

def spatialClause (type : FeatureType) (relation : SpatialRelation) (left right : Operand) :
    Except Note Clause :=
  match pairing? left right with
  | none => .error ⟨relation.text, pairReason⟩
  | some ⟨name, .geometry g, swapped⟩ => relation.clause (type.resolve name) g swapped
  | some _ => .error ⟨relation.text, "literal is not a geometry"⟩

def distanceClause (type : FeatureType) (relation : DistanceRelation) (left right : Operand)
    (limit : Float) (units : String) : Except Note Clause :=
  match pairing? left right with
  | none => .error ⟨relation.text, pairReason⟩
  | some ⟨name, .geometry g, swapped⟩ => relation.clause (type.resolve name) g limit units swapped
  | some _ => .error ⟨relation.text, "literal is not a geometry"⟩

def temporalClause (type : FeatureType) (relation : TemporalRelation) (left right : Operand) :
    Except Note Clause :=
  match pairing? left right with
  | none => .error ⟨relation.text, pairReason⟩
  | some p =>
    let a := type.resolve p.property
    (relation.clause a p.literal p.swapped).map a.enclose

mutual

def compile (type : FeatureType) : Predicate → Compilation
  | .everything => { clause := .matchAll }
  | .nothing => { clause := .matchNone }
  | .and children =>
    let parts := compileAll type children
    { clause := .must (parts.map (·.clause)), notes := parts.flatMap (·.notes) }
  | .or children =>
    let parts := compileAll type children
    { clause := .should (parts.map (·.clause)), notes := parts.flatMap (·.notes) }
  | .not (.isNull (.property name)) => { clause := presentClause type name }
  | .not child => (compile type child).negate
  | .compare relation left right => .ofExcept (compareClause type relation left right)
  | .between operand lower upper => .ofExcept (betweenClause type operand lower upper)
  | .like operand pattern wildcards => .ofExcept (likeClause type operand pattern wildcards)
  | .isNull operand => .ofExcept (isNullClause type operand)
  | .ids identifiers =>
    { clause := .ids (Text.sortedSet (identifiers.map type.plainIdentifier)) }
  | .spatial relation left right => .ofExcept (spatialClause type relation left right)
  | .distance relation left right limit units =>
    .ofExcept (distanceClause type relation left right limit units)
  | .temporal relation left right => .ofExcept (temporalClause type relation left right)

def compileAll (type : FeatureType) : List Predicate → List Compilation
  | [] => []
  | child :: rest => compile type child :: compileAll type rest

end

theorem compileAll_eq_map (type : FeatureType) (children : List Predicate) :
    compileAll type children = children.map (compile type) := by
  induction children with
  | nil => rfl
  | cons child rest ih => exact congrArg (compile type child :: ·) ih

theorem compile_and (type : FeatureType) (children : List Predicate) :
    compile type (.and children) =
      { clause := .must (children.map fun c => (compile type c).clause)
        notes := children.flatMap fun c => (compile type c).notes } := by
  simp [compile, compileAll_eq_map, List.flatMap_map, Function.comp_def]

theorem compile_or (type : FeatureType) (children : List Predicate) :
    compile type (.or children) =
      { clause := .should (children.map fun c => (compile type c).clause)
        notes := children.flatMap fun c => (compile type c).notes } := by
  simp [compile, compileAll_eq_map, List.flatMap_map, Function.comp_def]

/-- The opposite of a null check is existence; any other negation negates the query of its child. -/
theorem compile_not (type : FeatureType) (child : Predicate) :
    (∃ name, child = .isNull (.property name) ∧
      compile type (.not child) = { clause := presentClause type name }) ∨
    compile type (.not child) = (compile type child).negate := by
  by_cases check : ∃ name, child = .isNull (.property name)
  · obtain ⟨name, rfl⟩ := check
    exact .inl ⟨name, rfl, by simp [compile]⟩
  · refine .inr ?_
    rw [compile]
    exact fun name same => check ⟨name, same⟩

/-! ### Dates -/

def writable (a : Attribute) (i : Time.Instant) : Bool := (a.writeDate? i).isSome

def writableLiteral (a : Attribute) : Literal → Bool
  | .instant i => writable a i
  | _ => true

/-- Whether all dates of the clause of a temporal relation can be written. -/
def writableTemporal (a : Attribute) (relation : TemporalRelation) (l : Literal) (swapped : Bool) :
    Bool :=
  match relation.literalWindow l swapped with
  | .ok w => w.instants.all (writable a)
  | .error _ => true

mutual

/-- Whether all dates that the compilation states can be written. -/
def datesWritable (type : FeatureType) : Predicate → Bool
  | .and children => allDatesWritable type children
  | .or children => allDatesWritable type children
  | .not child => datesWritable type child
  | .compare _ left right =>
    match pairing? left right with
    | some p => writableLiteral (type.resolve p.property) p.literal
    | none => true
  | .between (.property name) (.literal lower) (.literal upper) =>
    writableLiteral (type.resolve name) lower && writableLiteral (type.resolve name) upper
  | .temporal relation left right =>
    match pairing? left right with
    | some p => writableTemporal (type.resolve p.property) relation p.literal p.swapped
    | none => true
  | _ => true

def allDatesWritable (type : FeatureType) : List Predicate → Bool
  | [] => true
  | child :: rest => datesWritable type child && allDatesWritable type rest

end

end Predicate

end GeoSearch
