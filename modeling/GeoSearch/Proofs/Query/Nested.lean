import GeoSearch.Proofs.Document.Nested
import GeoSearch.Proofs.Query.Comparison
import GeoSearch.Proofs.Query.Document
import GeoSearch.Query.Nested
/-!
Comparisons on nested attributes. The envelope asks for one object that satisfies the comparison on its
own. So does the predicate, but for inequality: there every object has to satisfy it, which one object
alone cannot settle.
-/
namespace GeoSearch.Predicate

open Document (objectsAt alone)

variable {type : FeatureType} {left right : Operand} {p : Pairing} {path : String}

/-- The values of all objects stand in a relation if those of one object do, and differ if those of
every object do. -/
theorem compareData_flatMap (relation : Comparison) (a : Option Attribute) (objects : List Json)
    (values : Json → List Json) (literal : List Datum) :
    compareData relation a ((objects.flatMap values).map .value) literal =
      if relation = .unequal then
        objects.all fun o => compareData relation a ((values o).map .value) literal
      else objects.any fun o => compareData relation a ((values o).map .value) literal := by
  by_cases different : relation = .unequal
  · simp [compareData, different, List.any_flatMap, List.any_map, List.not_any_eq_all_not]
  · simp [compareData, different, List.any_flatMap, List.any_map]

/-- The clause of a comparison looks at no nested object. -/
theorem selectsApart_comparison (r : Reading) (id : String) (relation : Comparison) (field : String)
    (value source : Json) : (relation.clause field value).selectsApart r id source =
      (relation.clause field value).selects r id source := by
  cases relation <;> rfl

/-- The objects at the path of a nested attribute have all of its values. -/
theorem holds_compare_nested (relation : Comparison) {v : Json} (id : String) (source : Json)
    (paired : pairing? left right = some p)
    (nested : (type.resolve p.property).nestedPath? = some path)
    (single : ∀ source, (Operand.literal p.literal).data type source = [.value v]) :
    holds type id source (.compare relation left right) =
      if relation = .unequal then
        (objectsAt source path).all fun o =>
          holds type id (alone o path) (.compare relation left right)
      else
        (objectsAt source path).any fun o =>
          holds type id (alone o path) (.compare relation left right) := by
  obtain ⟨last, below⟩ := Attribute.segments_field nested
  have oriented : (if p.swapped then relation.mirror else relation) = .unequal ↔
      relation = .unequal := by split <;> simp
  have values := Document.lookup_eq_flatMap_objectsAt source below
  simp only [holds_compare id _ paired (single _), values, compareData_flatMap, oriented]

/-- A scalar other than null goes into a clause. -/
theorem clauseValue?_of_isScalar {l : Literal} (type : FeatureType) (a : Attribute)
    (scalar : (Operand.literal l).isScalar = true) (given : l ≠ .value .null) :
    ∃ v, a.clauseValue? l = some v ∧
      ∀ source, (Operand.literal l).data type source = [.value v] := by
  obtain ⟨v, sent⟩ : ∃ v, a.clauseValue? l = some v := by
    cases l with
    | value v =>
      cases v with
      | null => exact absurd rfl given
      | array | object => cases scalar
      | _ => exact ⟨_, rfl⟩
    | _ => cases scalar
  exact ⟨v, sent, fun source => Attribute.scalar_of_clauseValue? source type scalar sent⟩

/-- A comparison of a nested attribute with a scalar selects the documents with an object that satisfies
it on its own. Of these documents it holds, and of no others, unless it is an inequality: an inequality
holds of the documents whose objects all satisfy it. Only null has no clause. -/
theorem nested_comparison (type : FeatureType) (relation : Comparison) (left right : Operand)
    (p : Pairing) (path : String) (r : Reading) (id : String) (source : Json)
    (paired : pairing? left right = some p)
    (nested : (type.resolve p.property).nestedPath? = some path)
    (scalar : (Operand.literal p.literal).isScalar = true) :
    ((compile type (.compare relation left right)).exact = true ↔ p.literal ≠ .value .null) ∧
    (p.literal ≠ .value .null →
      (compile type (.compare relation left right)).clause.selectsApart r id source =
        ((objectsAt source path).any fun o =>
          holds type id (alone o path) (.compare relation left right)) ∧
      (relation ≠ .unequal →
        (compile type (.compare relation left right)).clause.selectsApart r id source =
          holds type id source (.compare relation left right)) ∧
      (relation = .unequal →
        holds type id source (.compare relation left right) =
          (objectsAt source path).all fun o =>
            holds type id (alone o path) (.compare relation left right)) ∧
      ∀ reads, Rules.apart.ReadBy reads →
        reads (compile type (.compare relation left right)).clause.document id source =
          ((objectsAt source path).any fun o =>
            holds type id (alone o path) (.compare relation left right))) := by
  by_cases null : p.literal = .value .null
  · have noted : (compile type (.compare relation left right)).exact = false := by
      simp [compile, compareClause, paired, null, Attribute.clauseValue?, Compilation.ofExcept,
        Compilation.exact]
    exact ⟨by simp [noted, null], fun given => absurd null given⟩
  · obtain ⟨v, sent, single⟩ :=
      clauseValue?_of_isScalar type (type.resolve p.property) scalar null
    have compiled : compile type (.compare relation left right) =
        { clause := .nested path ((if p.swapped then relation.mirror else relation).clause
            (type.resolve p.property).field v) } := by
      simp [compile, compareClause, paired, sent, Attribute.enclose_nested nested,
        Compilation.ofExcept]
    have selected (r : Reading) :
        (compile type (.compare relation left right)).clause.selectsApart r id source =
          (objectsAt source path).any fun o =>
            holds type id (alone o path) (.compare relation left right) := by
      simp only [compiled, Clause.selectsApart_nested, selectsApart_comparison,
        selects_comparison r id _ _ (some (type.resolve p.property)), holds_compare id _ paired (single _)]
    have answer := holds_compare_nested relation id source paired nested single
    refine ⟨by simp [compiled, Compilation.exact, null], fun _ =>
      ⟨selected r, fun ordered => ?_, fun different => ?_, fun reads reading => ?_⟩⟩
    · rw [selected, answer, if_neg ordered]
    · rw [answer, if_pos different]
    · exact (reads_compile reading _ id source).trans (selected (.ofDocuments reads id))

def taggedPlaces : FeatureType where
  name := "places"
  attributes := [{ name := "tag", nativeName := some "tags.name", nested := true }]

def parkAtHarbor : Json :=
  .object [("tags", .array
    [.object [("name", .string "park")], .object [("name", .array [.string "harbor", .null])], .object []])]

/-- A literal-first comparison of texts, of which one object of three holds. -/
theorem nested_comparison_of_tags :
    let literal : Literal := .value (.string "kiosk")
    pairing? (.literal literal) (.property "tag") = some ⟨"tag", literal, true⟩ ∧
      (taggedPlaces.resolve "tag").nestedPath? = some "tags" ∧
      (Operand.literal literal).isScalar = true ∧
      (compile taggedPlaces (.compare .less (.literal literal) (.property "tag"))).clause.selectsApart
          ⟨fun _ _ => false, fun _ _ _ => false⟩ "1" parkAtHarbor =
        holds taggedPlaces "1" parkAtHarbor (.compare .less (.literal literal) (.property "tag")) ∧
      holds taggedPlaces "1" parkAtHarbor
        (.compare .less (.literal literal) (.property "tag")) = true := by
  intro literal
  have path : (taggedPlaces.resolve "tag").nestedPath? = some "tags" := by decide
  have given : literal ≠ .value .null := by simp [literal]
  have agrees := nested_comparison taggedPlaces .less (.literal literal) (.property "tag")
    ⟨"tag", literal, true⟩ "tags" ⟨fun _ _ => false, fun _ _ _ => false⟩ "1" parkAtHarbor rfl path rfl
  exact ⟨rfl, path, rfl, (agrees.2 given).2.1 nofun, by decide +kernel⟩

/-- One tag differs, which selects the place, and one does not. -/
theorem inequality_is_settled_by_one_object :
    ¬ ∀ (type : FeatureType) (relation : Comparison) (left right : Operand) (p : Pairing)
        (path : String) (r : Reading) (id : String) (source : Json),
      pairing? left right = some p → (type.resolve p.property).nestedPath? = some path →
      (Operand.literal p.literal).isScalar = true → p.literal ≠ .value .null →
      (compile type (.compare relation left right)).clause.selectsApart r id source =
        holds type id source (.compare relation left right) := by
  intro agree
  have same := agree taggedPlaces .unequal (.property "tag") (.literal (.value (.string "park")))
    ⟨"tag", .value (.string "park"), false⟩ "tags" ⟨fun _ _ => false, fun _ _ _ => false⟩ "1"
    parkAtHarbor rfl (by decide) rfl nofun
  exact absurd same (by decide +kernel)

end GeoSearch.Predicate
