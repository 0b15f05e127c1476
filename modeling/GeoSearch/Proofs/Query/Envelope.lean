import GeoSearch.Predicate.Tree
import GeoSearch.Proofs.Query.Leaf
import GeoSearch.Query.Filter
/-!
Envelopes around the clauses on nested attributes. Comparisons, ranges, patterns, null checks and
temporal relations stand in an envelope of exactly the path of their attribute, at any depth and under
any negation. Relations to geometries stand in none, whether their attribute is nested or not.
-/
namespace GeoSearch

namespace Clause

def PlacedOn (field : String) (envelopes : List String) (clause : Clause) : Prop :=
  ∀ p ∈ clause.placed, p.clause.field? = some field ∧ p.envelopes = envelopes

namespace PlacedOn

variable {field : String} {envelopes : List String} {clause : Clause}

theorem of_placed_nil (none : clause.placed = []) : clause.PlacedOn field envelopes := by
  simp [PlacedOn, none]

theorem of_field? (on : clause.field? = some field) : clause.PlacedOn field [] := by
  simp [PlacedOn, placed_of_field? on, on]

theorem mustNot (within : clause.PlacedOn field envelopes) :
    (Clause.mustNot clause).PlacedOn field envelopes := by
  simpa [PlacedOn] using within

theorem filtered (within : clause.PlacedOn field envelopes) :
    (Clause.filtered clause).PlacedOn field envelopes := by
  simpa [PlacedOn] using within

theorem negatedIf (negated : Bool) (within : clause.PlacedOn field envelopes) :
    (Clause.negatedIf negated clause).PlacedOn field envelopes := by
  cases negated with
  | false => exact within
  | true => exact within.mustNot

/-- An envelope is added outside of those that are there. -/
theorem within (path : Option String) (on : clause.PlacedOn field envelopes) :
    (Clause.within path clause).PlacedOn field (path.toList ++ envelopes) := by
  cases path with
  | none => exact on
  | some path =>
    intro p member
    simp only [Clause.within, placed_nested, List.mem_map] at member
    obtain ⟨inner, inside, rfl⟩ := member
    obtain ⟨field, envelopes⟩ := on inner inside
    exact ⟨field, by simp [envelopes]⟩

end PlacedOn

end Clause

/-- Enclosing a bare clause puts it into the envelope of its attribute. -/
theorem Attribute.placedOn_enclose (a : Attribute) {clause : Clause}
    (bare : clause.PlacedOn a.field []) :
    (a.enclose clause).PlacedOn a.field a.nestedPath?.toList := by
  simpa [enclose] using bare.within a.nestedPath?

/-! ### Bare clauses -/

theorem Comparison.placedOn_clause (relation : Comparison) (field : String) (value : Json) :
    (relation.clause field value).PlacedOn field [] := by
  unfold Comparison.clause
  split
  · exact .of_field? rfl
  · exact .negatedIf _ (.of_field? rfl)

theorem Window.placedOn_clause (w : Window) (a : Attribute) : (w.clause a).PlacedOn a.field [] := by
  cases w <;> exact .of_field? rfl

/-- No way of storing a geometry looks at the path of its attribute. -/
theorem SpatialRelation.placedOn_clause {relation : SpatialRelation} {a : Attribute}
    {g : Geometry Float} {swapped : Bool} {clause : Clause}
    (compiled : relation.clause a g swapped = .ok clause) : clause.PlacedOn a.field [] := by
  rcases clause_cases compiled with rfl | rfl | stored
  · exact .of_placed_nil rfl
  · exact .of_placed_nil rfl
  · obtain ⟨own, on, rfl⟩ := storedClause_ok stored
    exact .filtered (.of_field? on)

theorem DistanceRelation.placedOn_clause {relation : DistanceRelation} {a : Attribute}
    {g : Geometry Float} {limit : Float} {units : String} {swapped : Bool} {clause : Clause}
    (compiled : relation.clause a g limit units swapped = .ok clause) :
    clause.PlacedOn a.field [] := by
  obtain ⟨centre, -, rfl⟩ := clause_ok compiled
  exact .negatedIf _ (.filtered (.of_field? rfl))

/-! ### Leaves and trees -/

namespace Predicate

variable {type : FeatureType}

/-- A leaf without a clause puts nothing into the query. -/
theorem placedOn_ofExcept {e : Except Note Clause} {field : String} {envelopes : List String}
    (within : ∀ clause, e = .ok clause → clause.PlacedOn field envelopes) :
    (Compilation.ofExcept e).clause.PlacedOn field envelopes := by
  cases e with
  | error note => exact .of_placed_nil (by simp [Compilation.ofExcept])
  | ok clause => exact within clause rfl

theorem placed_ofExcept_error (note : Note) :
    (Compilation.ofExcept (.error note)).clause.placed = [] := by
  simp [Compilation.ofExcept]

/-- A leaf about no attribute puts nothing into the query either. -/
theorem placed_of_subject?_eq_none {leaf : Predicate} (isLeaf : leaf.isLeaf = true)
    (none : leaf.subject? type = none) : (leaf.compile type).clause.placed = [] := by
  have unpaired {left right : Operand}
      (h : (pairing? left right).map (fun p => type.resolve p.property) = Option.none) :
      pairing? left right = Option.none := by simpa using h
  have literal {operand : Operand} (h : operand.property?.map type.resolve = Option.none) :
      ∃ l, operand = .literal l := by
    cases operand with
    | property name => cases h
    | literal l => exact ⟨l, rfl⟩
  cases leaf <;> first | exact absurd isLeaf Bool.false_ne_true | simp only [compile]
  case compare => simp only [compareClause, unpaired none, placed_ofExcept_error]
  case between =>
    obtain ⟨l, rfl⟩ := literal none
    simp only [betweenClause, placed_ofExcept_error]
  case like =>
    obtain ⟨l, rfl⟩ := literal none
    simp only [likeClause, placed_ofExcept_error]
  case isNull =>
    obtain ⟨l, rfl⟩ := literal none
    simp only [isNullClause, placed_ofExcept_error]
  case ids => simp
  case spatial => simp only [spatialClause, unpaired none, placed_ofExcept_error]
  case distance => simp only [distanceClause, unpaired none, placed_ofExcept_error]
  case temporal => simp only [temporalClause, unpaired none, placed_ofExcept_error]

theorem placedOn_presentClause (name : String) :
    (presentClause type name).PlacedOn (type.resolve name).field
      (type.resolve name).nestedPath?.toList :=
  Attribute.placedOn_enclose _ (.of_field? rfl)

theorem resolve_of_pairing? {left right : Operand} {p : Pairing} {a : Attribute}
    (paired : pairing? left right = some p)
    (subject : ((pairing? left right).map fun p => type.resolve p.property) = some a) :
    type.resolve p.property = a := by
  rw [paired] at subject
  exact Option.some.inj subject

/-- The envelope of a leaf's clauses: that of its attribute, unless it relates to a geometry. -/
def envelopesOf (leaf : Predicate) (a : Attribute) : List String :=
  if leaf.isGeometric then [] else a.nestedPath?.toList

theorem placedOn_compile {leaf : Predicate} {a : Attribute} (isLeaf : leaf.isLeaf = true)
    (subject : leaf.subject? type = some a) :
    (leaf.compile type).clause.PlacedOn a.field (leaf.envelopesOf a) := by
  cases leaf <;> first | exact absurd isLeaf Bool.false_ne_true | simp only [compile]
  case compare =>
    refine placedOn_ofExcept fun clause compiled => ?_
    obtain ⟨p, value, paired, -, rfl⟩ := compareClause_ok compiled
    obtain rfl := resolve_of_pairing? paired subject
    exact Attribute.placedOn_enclose _ (Comparison.placedOn_clause _ _ _)
  case between =>
    refine placedOn_ofExcept fun clause compiled => ?_
    obtain ⟨name, _, _, _, _, rfl, -, -, -, -, rfl⟩ := betweenClause_ok compiled
    cases subject
    exact Attribute.placedOn_enclose _ (.of_field? rfl)
  case like =>
    refine placedOn_ofExcept fun clause compiled => ?_
    obtain ⟨name, rfl, rfl⟩ := likeClause_ok compiled
    cases subject
    refine Attribute.placedOn_enclose _ ?_
    split <;> exact .of_field? rfl
  case isNull =>
    refine placedOn_ofExcept fun clause compiled => ?_
    obtain ⟨name, rfl, rfl⟩ := isNullClause_ok compiled
    cases subject
    exact (placedOn_presentClause name).mustNot
  case ids => cases subject
  case spatial =>
    refine placedOn_ofExcept fun clause compiled => ?_
    obtain ⟨name, g, swapped, paired, compiled⟩ := spatialClause_ok compiled
    obtain rfl := resolve_of_pairing? paired subject
    exact SpatialRelation.placedOn_clause compiled
  case distance =>
    refine placedOn_ofExcept fun clause compiled => ?_
    obtain ⟨name, g, swapped, paired, compiled⟩ := distanceClause_ok compiled
    obtain rfl := resolve_of_pairing? paired subject
    exact DistanceRelation.placedOn_clause compiled
  case temporal =>
    refine placedOn_ofExcept fun clause compiled => ?_
    obtain ⟨p, window, paired, -, rfl⟩ := temporalClause_ok compiled
    obtain rfl := resolve_of_pairing? paired subject
    exact Attribute.placedOn_enclose _ (Window.placedOn_clause _ _)

theorem placed_of_isLeaf {leaf : Predicate} (isLeaf : leaf.isLeaf = true) :
    (leaf.compile type).clause.placed = (leaf.ownProductions type).map (·.placed) := by
  unfold ownProductions
  cases about : leaf.subject? type with
  | none => exact placed_of_subject?_eq_none isLeaf about
  | some subject => simp [Function.comp_def]

theorem productions_of_isLeaf {leaf : Predicate} (isLeaf : leaf.isLeaf = true) :
    leaf.productions type = leaf.ownProductions type := by
  cases leaf <;> first | exact absurd isLeaf Bool.false_ne_true | simp only [productions]

theorem flatMap_placed {children : List Predicate}
    (ih : ∀ child ∈ children,
      (child.compile type).clause.placed = (child.productions type).map (·.placed)) :
    (children.map fun c => (c.compile type).clause).flatMap Clause.placed =
      (allProductions type children).map (·.placed) := by
  rw [allProductions_eq_flatMap, List.map_flatMap, List.flatMap_map]
  induction children with
  | nil => rfl
  | cons first rest inner =>
    simp only [List.flatMap_cons, ih first List.mem_cons_self,
      inner fun child member => ih child (List.mem_cons_of_mem first member)]

/-- The clauses on fields of a query are those that its leaves put there. -/
theorem placed_compile (p : Predicate) :
    (p.compile type).clause.placed = (p.productions type).map (·.placed) := by
  induction p using tree_induction with
  | everything => simp [compile, productions]
  | nothing => simp [compile, productions]
  | and children ih =>
    rw [compile_and]
    simpa [productions] using flatMap_placed ih
  | or children ih =>
    rw [compile_or]
    simpa [productions] using flatMap_placed ih
  | not child ih =>
    rcases compile_not type child with ⟨name, rfl, rewritten⟩ | negated
    · -- Existence puts the same clause into the query as the null check it is the opposite of.
      have check : ((isNull (.property name)).compile type).clause.placed =
          (presentClause type name).placed := by
        simp [compile, isNullClause, Compilation.ofExcept]
      have exact : ((isNull (.property name)).compile type).exact = true := by
        simp [compile, isNullClause, Compilation.ofExcept, Compilation.exact]
      rw [rewritten, productions, if_pos exact, ← ih, check]
    · rw [negated, productions]
      by_cases exact : (child.compile type).exact = true
      · simp [Compilation.negate, exact, ih]
      · simp [Compilation.negate, exact]
  | leaf p isLeaf => rw [placed_of_isLeaf isLeaf, productions_of_isLeaf isLeaf]

theorem mem_ownProductions {leaf : Predicate} (isLeaf : leaf.isLeaf = true) {o : Production}
    (member : o ∈ leaf.ownProductions type) :
    o.placed.clause.field? = some o.subject.field ∧
      o.placed.envelopes = o.leaf.envelopesOf o.subject := by
  unfold ownProductions at member
  cases about : leaf.subject? type with
  | none => simp [about] at member
  | some subject =>
    simp only [about, List.mem_map] at member
    obtain ⟨placed, inside, rfl⟩ := member
    exact placedOn_compile isLeaf about placed inside

theorem mem_allProductions {children : List Predicate} {o : Production} :
    o ∈ allProductions type children ↔ ∃ child ∈ children, o ∈ child.productions type := by
  rw [allProductions_eq_flatMap]
  exact List.mem_flatMap

theorem mem_productions (p : Predicate) : ∀ o ∈ p.productions type,
    o.placed.clause.field? = some o.subject.field ∧
      o.placed.envelopes = o.leaf.envelopesOf o.subject := by
  induction p using tree_induction with
  | everything => simp [productions]
  | nothing => simp [productions]
  | and children ih =>
    intro o member
    obtain ⟨child, inside, member⟩ := mem_allProductions.mp member
    exact ih child inside o member
  | or children ih =>
    intro o member
    obtain ⟨child, inside, member⟩ := mem_allProductions.mp member
    exact ih child inside o member
  | not child ih =>
    intro o member
    rw [productions] at member
    split at member
    · exact ih o member
    · cases member
  | leaf p isLeaf =>
    intro o member
    rw [productions_of_isLeaf isLeaf] at member
    exact mem_ownProductions isLeaf member

end Predicate

namespace Filter

/-- Without a native query nothing stands beside the compiled predicate. -/
theorem query_of_compile {type : FeatureType} {p : Predicate} {f : Filter}
    (compiled : compile type p {} = .ok f) : f.query = (p.compile type).clause := by
  obtain ⟨parsed, read, rfl⟩ := ofParsed_of_compile compiled
  cases read
  rfl

/-- Every clause on a field of a compiled query comes from a leaf about an attribute of that field.
One on a nested attribute stands in an envelope of exactly its path, and in no other, just when the
leaf does not relate to a geometry. -/
theorem compile_envelopes (type : FeatureType) (p : Predicate) (f : Filter)
    (compiled : compile type p {} = .ok f) :
    f.query.placed = (p.productions type).map (·.placed) ∧
    ∀ o ∈ p.productions type, o.placed.clause.field? = some o.subject.field ∧
      ∀ path, o.subject.nestedPath? = some path →
        (o.placed.envelopes = [path] ↔ o.leaf.isGeometric = false) ∧
        (o.placed.envelopes = [] ↔ o.leaf.isGeometric = true) := by
  rw [query_of_compile compiled]
  refine ⟨Predicate.placed_compile p, fun o member => ?_⟩
  obtain ⟨field, envelopes⟩ := Predicate.mem_productions p o member
  refine ⟨field, fun path nested => ?_⟩
  rw [envelopes, Predicate.envelopesOf, nested]
  cases o.leaf.isGeometric <;> simp

def nestedParts : FeatureType where
  name := "buildings"
  attributes :=
    [{ name := "parts.kind", nested := true },
     { name := "parts.outline", nested := true, storage := .shape, geographic := false }]

def outlineOfOtherKind : Predicate :=
  .and
    [.not (.compare .equal (.literal (.value (.string "door"))) (.property "parts.kind")),
     .spatial .intersects (.property "parts.outline") (.literal (.geometry (.point ⟨1, 2⟩)))]

theorem compile_envelopes_nestedParts :
    ∃ f, compile nestedParts outlineOfOtherKind {} = .ok f ∧
      f.query.placed = (outlineOfOtherKind.productions nestedParts).map (·.placed) ∧
      ∀ o ∈ outlineOfOtherKind.productions nestedParts,
        o.placed.clause.field? = some o.subject.field ∧
        ∀ path, o.subject.nestedPath? = some path →
          (o.placed.envelopes = [path] ↔ o.leaf.isGeometric = false) ∧
          (o.placed.envelopes = [] ↔ o.leaf.isGeometric = true) :=
  ⟨_, rfl, compile_envelopes nestedParts outlineOfOtherKind _ rfl⟩

/-- The outline is looked for outside of the nested document that holds it. -/
theorem nested_outline_has_no_envelope :
    ¬ ∀ (type : FeatureType) (p : Predicate) (f : Filter), compile type p {} = .ok f →
      ∀ o ∈ p.productions type, ∀ path, o.subject.nestedPath? = some path →
        path ∈ o.placed.envelopes := by
  intro enveloped
  have second : (outlineOfOtherKind.productions nestedParts)[1]? = some
      { leaf := .spatial .intersects (.property "parts.outline")
          (.literal (.geometry (.point ⟨1, 2⟩)))
        subject := { name := "parts.outline", nested := true, storage := .shape, geographic := false }
        placed := ⟨[], .shape "parts.outline" .intersects (.point ⟨1, 2⟩)⟩ } := by rfl
  have inside : "parts" ∈ ([] : List String) :=
    enveloped nestedParts outlineOfOtherKind _ rfl _ (List.mem_of_getElem? second) "parts" rfl
  cases inside

end Filter

end GeoSearch
