import GeoSearch.Predicate.Tree
import GeoSearch.Proofs.Query.Leaf
import GeoSearch.Query.Document
import GeoSearch.Query.Filter
/-!
Queries read from the documents that they are sent as. By any rules the document of a query selects what
the query does as a clause; the recursion is on the clause, and what callers wrote in the language of the
index stays the affair of the reading.
-/
namespace GeoSearch

@[simp] theorem Limit.ofText?_text (limit : Limit) : ofText? limit.text = some limit := by
  cases limit <;> rfl

namespace QueryDocument

section

variable (rules : Rules) (other : String → Json → String → Json → Bool) (id : String)

theorem allSelect_eq_all (queries : List Json) (source : Json) :
    allSelect rules other id queries source =
      queries.all fun query => selects rules other id query source := by
  induction queries with
  | nil => simp [allSelect]
  | cons query rest ih => simp [allSelect, ih]

theorem anySelects_eq_any (queries : List Json) (source : Json) :
    anySelects rules other id queries source =
      queries.any fun query => selects rules other id query source := by
  induction queries with
  | nil => simp [anySelects]
  | cons query rest ih => simp [anySelects, ih]

end

/-- The evaluator reads documents by its rules, whatever it makes of other kinds. -/
theorem readBy_selects (rules : Rules) (other : String → Json → String → Json → Bool) :
    rules.ReadBy fun query id source => selects rules other id query source where
  everything _ _ := by simp [selects, selectsLeaf]
  term _ _ _ _ := by simp [selects, selectsLeaf, entry]
  range _ _ _ _ := by simp [selects, selectsLeaf, entry]
  present _ _ _ := by simp [selects, selectsLeaf, Json.member?, Json.Members.get?, Json.asString?]
  ids _ _ _ := by simp [selects, selectsLeaf, Json.member?, Json.Members.get?, Json.asArray?]
  must _ _ _ := by simp [selects, selectsBoolean, allOccur, occurs, allSelect_eq_all]
  should _ _ _ := by simp [selects, selectsBoolean, allOccur, occurs, anySelects_eq_any]
  mustNot _ _ _ := by simp [selects, selectsBoolean, allOccur, occurs]
  filtered _ _ _ := by simp [selects, selectsBoolean, allOccur, occurs, selectsLeaf]
  nested _ _ _ _ := by
    simp [selects, selectsNested, selectsInside, Json.member?, Json.Members.get?, Json.asString?]

end QueryDocument

/-! ### Queries of callers -/

namespace Clause

mutual

/-- What callers wrote within a query. -/
def natives : Clause → List Json
  | .must clauses => allNatives clauses
  | .should clauses => allNatives clauses
  | .mustNot clause => natives clause
  | .filtered clause => natives clause
  | .nested _ clause => natives clause
  | .native query => [query]
  | _ => []

def allNatives : List Clause → List Json
  | [] => []
  | clause :: rest => natives clause ++ allNatives rest

end

theorem allNatives_eq_flatMap (clauses : List Clause) :
    allNatives clauses = clauses.flatMap natives := by
  induction clauses with
  | nil => rfl
  | cons clause rest ih => exact congrArg (natives clause ++ ·) ih

@[simp] theorem natives_must (clauses : List Clause) :
    (must clauses).natives = clauses.flatMap natives := allNatives_eq_flatMap clauses

@[simp] theorem natives_should (clauses : List Clause) :
    (should clauses).natives = clauses.flatMap natives := allNatives_eq_flatMap clauses

@[simp] theorem natives_matchAll : matchAll.natives = [] := rfl

@[simp] theorem natives_mustNot (clause : Clause) : (mustNot clause).natives = clause.natives := rfl

@[simp] theorem natives_filtered (clause : Clause) : (filtered clause).natives = clause.natives := rfl

@[simp] theorem natives_native (query : Json) : (native query).natives = [query] := rfl

@[simp] theorem natives_negatedIf (negated : Bool) (clause : Clause) :
    (negatedIf negated clause).natives = clause.natives := by
  cases negated <;> rfl

@[simp] theorem natives_enclose (a : Attribute) (clause : Clause) :
    (a.enclose clause).natives = clause.natives := by
  unfold Attribute.enclose
  cases a.nestedPath? <;> rfl

theorem natives_of_field? {clause : Clause} {field : String} (on : clause.field? = some field) :
    clause.natives = [] := by
  cases clause <;> first | rfl | cases on

theorem mem_natives_both {a b : Clause} {query : Json} (member : query ∈ (both a b).natives) :
    query ∈ a.natives ∨ query ∈ b.natives := by
  unfold both at member
  split at member
  · exact .inr member
  · split at member
    · exact .inl member
    · simpa using member

theorem document_object {c : Clause} (written : ∀ q ∈ c.natives, NativeQuery.isObject q = true) :
    ∃ members, c.document = .object members := by
  cases c with
  | native query =>
    have object : NativeQuery.isObject query = true := written query (by simp)
    cases query with
    | object members => exact ⟨members, rfl⟩
    | _ => cases object
  | _ => exact ⟨_, rfl⟩

/-- Only one document is the query of everything. -/
theorem eq_of_isMatchAll {query : Json} (everything : (native query).isMatchAll = true) :
    query = .object [("match_all", .object [])] := by
  have same : query.same (.object [("match_all", .object [])]) = true := everything
  cases query with
  | object members =>
    obtain ⟨length, inside⟩ := Bool.and_eq_true_iff.mp same
    obtain ⟨⟨name, value⟩, rfl⟩ := List.length_eq_one_iff.mp (beq_iff_eq.mp length)
    by_cases named : name = "match_all"
    · subst named
      cases value with
      | object inner =>
        obtain ⟨rfl, -⟩ : inner = [] ∧ Json.sameMembers inner [] = true := by
          simpa [Json.sameMembers, Json.same] using inside
        rfl
      | _ => simp [Json.sameMembers, Json.same] at inside
    · simp [Json.sameMembers, List.lookup_cons, beq_eq_false_iff_ne.mpr named] at inside
  | _ => simp [Json.same] at same

theorem documents_eq_map (clauses : List Clause) : documents clauses = clauses.map document := by
  induction clauses with
  | nil => rfl
  | cons clause rest ih => exact congrArg (document clause :: ·) ih

theorem document_must (clauses : List Clause) :
    (must clauses).document = .object [("bool", .object [("must", .array (clauses.map document))])] := by
  rw [document, documents_eq_map, only, only]

theorem document_should (clauses : List Clause) :
    (should clauses).document =
      .object [("bool", .object [("should", .array (clauses.map document))])] := by
  rw [document, documents_eq_map, only, only]

end Clause

/-! ### Both readings -/

/-- The reading of clauses that a reading of documents comes to. -/
def Reading.ofDocuments (reads : Json → String → Json → Bool) (id : String) : Reading where
  special clause source := reads clause.document id source
  native := reads

namespace Rules.ReadBy

variable {rules : Rules} {reads : Json → String → Json → Bool}

theorem range_limits (reading : rules.ReadBy reads) (field : String) (limits : List (Limit × Json))
    (id : String) (source : Json) :
    reads (Clause.range field limits).document id source = rules.hasInRange source field limits := by
  have stated : (Clause.range field limits).document = .object [("range", .object
    [(field, .object (limits.map fun limit => (limit.1.text, limit.2)))])] := rfl
  have each (v : Json) : rules.within (limits.map fun limit => (limit.1.text, limit.2)) v =
      limits.all fun limit => (rules.order? v limit.2).any limit.1.admits := by
    simp [within, List.all_map, Function.comp_def]
  rw [stated, reading.range, funext each]
  rfl

theorem ids_strings (reading : rules.ReadBy reads) (identifiers : List String) (id : String)
    (source : Json) :
    reads (Clause.ids identifiers).document id source = identifiers.contains id := by
  have stated : (Clause.ids identifiers).document =
    .object [("ids", .object [("values", .array (identifiers.map .string))])] := rfl
  rw [stated, reading.ids, List.any_map, Bool.eq_iff_iff, List.any_eq_true, List.contains_iff_mem]
  simp [Json.asString?]

/-- By the rules of an index, a query selects what its document does. -/
theorem reads_document (reading : rules.ReadBy reads) (id : String) : ∀ c : Clause,
    (∀ q ∈ c.natives, NativeQuery.isObject q = true) → ∀ source,
      reads c.document id source = c.selectsBy rules (.ofDocuments reads id) id source
  | .matchAll, _, source => reading.everything id source
  | .term field value, _, source => reading.term field value id source
  | .range field limits, _, source => reading.range_limits field limits id source
  | .present field, _, source => reading.present field id source
  | .ids identifiers, _, source => reading.ids_strings identifiers id source
  | .must clauses, written, source => by
    have each : ∀ c ∈ clauses, reads c.document id source =
        c.selectsBy rules (.ofDocuments reads id) id source := fun c member =>
      reads_document reading id c (fun q inside => written q (by simpa using ⟨c, member, inside⟩)) source
    rw [Clause.document_must, reading.must, List.all_map, Clause.selectsBy, Clause.allSelect_eq_all]
    rw [Bool.eq_iff_iff, List.all_eq_true, List.all_eq_true]
    exact forall₂_congr fun c member => by rw [Function.comp, each c member]
  | .should clauses, written, source => by
    have each : ∀ c ∈ clauses, reads c.document id source =
        c.selectsBy rules (.ofDocuments reads id) id source := fun c member =>
      reads_document reading id c (fun q inside => written q (by simpa using ⟨c, member, inside⟩)) source
    rw [Clause.document_should, reading.should, List.any_map, Clause.selectsBy, Clause.anySelects_eq_any]
    rw [Bool.eq_iff_iff, List.any_eq_true, List.any_eq_true]
    exact exists_congr fun c => and_congr_right fun member => by rw [Function.comp, each c member]
  | .mustNot clause, written, source => by
    obtain ⟨members, object⟩ := Clause.document_object (c := clause) written
    have negated := reading.mustNot members id source
    rw [← object] at negated
    exact negated.trans (congrArg (! ·) (reads_document reading id clause written source))
  | .filtered clause, written, source => by
    obtain ⟨members, object⟩ := Clause.document_object (c := clause) written
    have unscored := reading.filtered members id source
    rw [← object] at unscored
    exact unscored.trans (reads_document reading id clause written source)
  | .nested path clause, written, source =>
    (reading.nested path clause.document id source).trans (congrArg (rules.inside path · source)
      (funext (reads_document reading id clause written)))
  | .native query, _, source => by
    -- As a clause the query of everything selects everything, whoever wrote it.
    change reads query id source = ((Clause.native query).isMatchAll || reads query id source)
    cases everything : (Clause.native query).isMatchAll with
    | false => rfl
    | true => rw [Clause.eq_of_isMatchAll everything, reading.everything, Bool.or_true]
  -- The other kinds are the affair of the reading on both sides.
  | .regexp .., _, _ => rfl
  | .queryString .., _, _ => rfl
  | .near .., _, _ => rfl
  | .inRing .., _, _ => rfl
  | .inBox .., _, _ => rfl
  | .shape .., _, _ => rfl

end Rules.ReadBy

/-! ### Comparisons -/

namespace Clause

/-- Terms, ranges and existence under negations and envelopes, or the query of everything. -/
def compares : Clause → Bool
  | .matchAll => true
  | .term .. => true
  | .range .. => true
  | .present _ => true
  | .mustNot clause => compares clause
  | .nested _ clause => compares clause
  | _ => false

/-- By the same rules such clauses select alike, whatever else a reading knows and whichever document
it is. -/
theorem selectsBy_of_compares (rules : Rules) (r s : Reading) (id other : String) : ∀ c : Clause,
    c.compares = true → ∀ source, c.selectsBy rules r id source = c.selectsBy rules s other source
  | .matchAll, _, _ => rfl
  | .term .., _, _ => rfl
  | .range .., _, _ => rfl
  | .present _, _, _ => rfl
  | .mustNot clause, compares, source =>
    congrArg (! ·) (selectsBy_of_compares rules r s id other clause compares source)
  | .nested path clause, compares, source => congrArg (rules.inside path · source)
      (funext (selectsBy_of_compares rules r s id other clause compares))

end Clause

/-! ### Compiled queries -/

namespace Predicate

variable {type : FeatureType}

theorem natives_ofExcept {e : Except Note Clause}
    (none : ∀ clause, e = .ok clause → clause.natives = []) :
    (Compilation.ofExcept e).clause.natives = [] := by
  cases e with
  | error note => rfl
  | ok clause => exact none clause rfl

theorem natives_clause (relation : Comparison) (field : String) (value : Json) :
    (relation.clause field value).natives = [] := by
  unfold Comparison.clause
  split
  · rfl
  · simp [Clause.natives]

theorem natives_of_isLeaf {leaf : Predicate} (isLeaf : leaf.isLeaf = true) :
    (leaf.compile type).clause.natives = [] := by
  cases leaf <;> first | exact absurd isLeaf Bool.false_ne_true | simp only [compile]
  case ids => rfl
  all_goals refine natives_ofExcept fun clause compiled => ?_
  case compare =>
    obtain ⟨p, value, -, -, rfl⟩ := compareClause_ok compiled
    simp [natives_clause]
  case between =>
    obtain ⟨name, _, _, _, _, rfl, -, -, -, -, rfl⟩ := betweenClause_ok compiled
    simp [Clause.natives]
  case like =>
    obtain ⟨name, rfl, rfl⟩ := likeClause_ok compiled
    split <;> simp [Clause.natives]
  case isNull =>
    obtain ⟨name, rfl, rfl⟩ := isNullClause_ok compiled
    simp [presentClause, Clause.natives]
  case spatial =>
    obtain ⟨name, g, swapped, -, compiled⟩ := spatialClause_ok compiled
    rcases SpatialRelation.clause_cases compiled with rfl | rfl | stored
    · rfl
    · rfl
    · obtain ⟨own, on, rfl⟩ := SpatialRelation.storedClause_ok stored
      exact (Clause.natives_filtered own).trans (Clause.natives_of_field? on)
  case distance =>
    obtain ⟨name, g, swapped, -, compiled⟩ := distanceClause_ok compiled
    obtain ⟨centre, -, rfl⟩ := DistanceRelation.clause_ok compiled
    simp [Clause.natives]
  case temporal =>
    obtain ⟨p, window, -, -, rfl⟩ := temporalClause_ok compiled
    rw [Clause.natives_enclose]
    cases window <;> rfl

/-- A predicate brings nothing of a caller into its query. -/
theorem natives_compile (p : Predicate) : (p.compile type).clause.natives = [] := by
  induction p using tree_induction with
  | everything => rfl
  | nothing => rfl
  | and children ih =>
    rw [compile_and]
    simpa using ih
  | or children ih =>
    rw [compile_or]
    simpa using ih
  | not child ih =>
    rcases compile_not type child with ⟨name, rfl, rewritten⟩ | negated
    · rw [rewritten]
      simp [presentClause, Clause.natives]
    · rw [negated, Compilation.negate]
      dsimp only
      split
      · exact ih
      · rfl
  | leaf p isLeaf => exact natives_of_isLeaf isLeaf

variable {rules : Rules} {reads : Json → String → Json → Bool}

theorem reads_compile (reading : rules.ReadBy reads) (p : Predicate) (id : String) (source : Json) :
    reads (p.compile type).clause.document id source =
      (p.compile type).clause.selectsBy rules (.ofDocuments reads id) id source :=
  reading.reads_document id _ (by simp [natives_compile]) source

def isComparison : Predicate → Bool
  | .compare .. => true
  | .between .. => true
  | _ => false

theorem compares_ofExcept {e : Except Note Clause}
    (each : ∀ clause, e = .ok clause → clause.compares = true) :
    (Compilation.ofExcept e).clause.compares = true := by
  cases e with
  | error note => rfl
  | ok clause => exact each clause rfl

theorem compares_enclose (a : Attribute) (clause : Clause) :
    (a.enclose clause).compares = clause.compares := by
  unfold Attribute.enclose
  cases a.nestedPath? <;> rfl

theorem compares_clause (relation : Comparison) (field : String) (value : Json) :
    (relation.clause field value).compares = true := by
  cases relation <;> rfl

/-- The document of a comparison is read by the rules alone. -/
theorem reads_comparison (reading : rules.ReadBy reads) {leaf : Predicate}
    (comparison : leaf.isComparison = true) (id : String) (source : Json) :
    reads (leaf.compile type).clause.document id source =
      (leaf.compile type).clause.selectsBy rules .blank "" source := by
  rw [reads_compile reading]
  refine Clause.selectsBy_of_compares rules _ _ _ _ _ ?_ source
  cases leaf with
  | compare relation left right =>
    simp only [compile]
    refine compares_ofExcept fun clause compiled => ?_
    obtain ⟨p, value, -, -, rfl⟩ := compareClause_ok compiled
    rw [compares_enclose, compares_clause]
  | between operand lower upper =>
    simp only [compile]
    refine compares_ofExcept fun clause compiled => ?_
    obtain ⟨name, _, _, _, _, rfl, -, -, -, -, rfl⟩ := betweenClause_ok compiled
    rw [compares_enclose]
    rfl
  | _ => cases comparison

end Predicate

namespace Filter

variable {type : FeatureType} {p : Predicate} {native : NativeQuery} {f : Filter}

theorem natives_of_parseQuery {text : Option String} {clause : Clause}
    (read : NativeQuery.parseQuery text = .ok clause) :
    ∀ q ∈ clause.natives, NativeQuery.isObject q = true := by
  cases text with
  | none =>
    cases read
    simp
  | some text =>
    cases part : NativeQuery.parsePart .query text with
    | error e => simp [NativeQuery.parseQuery, part, Except.map] at read
    | ok members =>
      obtain rfl : .native (.object members) = clause := by
        simpa [NativeQuery.parseQuery, part, Except.map] using read
      simp [NativeQuery.isObject]

/-- What callers wrote within a compiled query are objects. -/
theorem natives_of_compile (compiled : compile type p native = .ok f) :
    (∀ q ∈ f.native.natives, NativeQuery.isObject q = true) ∧
      ∀ q ∈ f.query.natives, NativeQuery.isObject q = true := by
  obtain ⟨parsed, read, rfl⟩ := ofParsed_of_compile compiled
  have written := natives_of_parseQuery (NativeQuery.parse_ok read).1
  refine ⟨written, fun q member => ?_⟩
  rcases Clause.mem_natives_both member with own | beside
  · exact written q own
  · split at beside
    · cases beside
    · simp [Predicate.natives_compile] at beside

variable {rules : Rules} {reads : Json → String → Json → Bool}

theorem reads_native (reading : rules.ReadBy reads) (compiled : compile type p native = .ok f)
    (id : String) (source : Json) :
    reads f.native.document id source =
      f.native.selectsBy rules (.ofDocuments reads id) id source :=
  reading.reads_document id f.native (natives_of_compile compiled).1 source

theorem reads_query (reading : rules.ReadBy reads) (compiled : compile type p native = .ok f)
    (id : String) (source : Json) :
    reads f.query.document id source =
      f.query.selectsBy rules (.ofDocuments reads id) id source :=
  reading.reads_document id f.query (natives_of_compile compiled).2 source

end Filter

end GeoSearch
