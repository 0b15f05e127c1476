import GeoSearch.Proofs.Query.Degradation
import GeoSearch.Proofs.Time.Milliseconds
/-!
Temporal relations. A term or a range states instants as texts and the index reads them back; an instant
of whole milliseconds comes back as it was, so that the query selects the documents with a stored instant
in the window of the relation, which are the documents that the relation holds of.
-/
namespace GeoSearch

open Time (Instant)

/-! ### Relations and windows -/

namespace TemporalRelation

variable {relation : TemporalRelation} {value : TemporalValue} {swapped : Bool} {w : Window}

theorem instants_beside (value : TemporalValue) (side : Side) :
    ∀ i ∈ (beside value side).instants, i ∈ value.instants := by
  cases value <;> cases side <;> simp [beside, Window.instants, TemporalValue.instants]

/-- A window has its ends from the literal. -/
theorem instants_of_window (found : relation.window value swapped = .ok w) :
    ∀ i ∈ w.instants, i ∈ value.instants := by
  unfold window at found
  cases ordered : relation.side? swapped with
  | some side =>
    simp only [ordered, Except.ok.injEq] at found
    exact found ▸ instants_beside value side
  | none =>
    simp only [ordered] at found
    split at found <;> cases found <;> simp [Window.instants, TemporalValue.instants]

/-- Where a relation has a window, it holds of the instants in the window. -/
theorem holds_of_window (found : relation.window value swapped = .ok w) (v : Instant) :
    relation.holds v value swapped = w.admits v := by
  unfold window at found
  unfold holds
  cases ordered : relation.side? swapped with
  | some side =>
    simp only [ordered, Except.ok.injEq] at found ⊢
    rw [found]
  | none =>
    simp only [ordered] at found ⊢
    split at found <;> cases found <;> rfl

theorem clause_ok {a : Attribute} {l : Literal} {clause : Clause}
    (compiled : relation.clause a l swapped = .ok clause) :
    ∃ value w, l.temporal? = some value ∧ relation.window value swapped = .ok w ∧
      clause = w.clause a := by
  unfold TemporalRelation.clause literalWindow at compiled
  cases temporal : l.temporal? with
  | none => simp [temporal, Except.map] at compiled
  | some value =>
    cases found : relation.window value swapped with
    | error reason => simp [temporal, found, Except.map, Except.mapError] at compiled
    | ok w =>
      exact ⟨value, w, rfl, found,
        by simpa [temporal, found, Except.map, Except.mapError] using compiled.symm⟩

end TemporalRelation

/-! ### Clauses and stored instants -/

theorem Time.Instant.before_eq_gt (i j : Instant) : i.before j = (j.compare i == .gt) := by
  rw [before, compare_swap j i]
  cases j.compare i <;> rfl

variable {a : Attribute} {i : Instant}

/-- A stored value stands to the text of an instant as the instant it is read as stands to the instant.
What is not a text is neither read nor ordered. -/
theorem Attribute.order?_dateValue (plain : a.dateFormat = none) (milli : i.Millisecond) {v : Json}
    (stamped : ∀ text, v = .string text → (Time.Rfc3339.read? text).isSome = true) :
    Document.order? v (a.dateValue i) = (a.readDate? v).map (·.compare i) := by
  have written : a.dateValue i = .string (Time.Rfc3339.writeMillis i) := by
    simp [dateValue, writeDate?, plain]
  cases v with
  | string text =>
    obtain ⟨j, read⟩ := Option.isSome_iff_exists.mp (stamped text rfl)
    simp [written, Document.order?, Document.textOrder, read, Time.Rfc3339.read?_writeMillis milli,
      readDate?, Json.asString?]
  | _ => simp [written, Document.order?, readDate?, Json.asString?]

/-- What decides every stored value by the instant that it is read as, decides the instants. -/
theorem Attribute.any_readDate? {values : List Json} {test : Json → Bool} {admits : Instant → Bool}
    (each : ∀ v ∈ values, test v = (a.readDate? v).any admits) :
    values.any test = (values.filterMap a.readDate?).any admits := by
  rw [List.any_filterMap, Bool.eq_iff_iff, List.any_eq_true, List.any_eq_true]
  refine exists_congr fun v => and_congr_right fun stored => ?_
  rw [each v stored]
  cases a.readDate? v <;> rfl

/-- Reading back what it states, a clause selects the documents with an instant in its window. -/
theorem Window.selects_clause (r : Reading) (id : String) (source : Json) {w : Window}
    (plain : a.dateFormat = none) (milli : ∀ i ∈ w.instants, i.Millisecond)
    (stamped : ∀ text, .string text ∈ Document.lookup source a.field →
      (Time.Rfc3339.read? text).isSome = true) :
    (w.clause a).selects r id source =
      ((Document.lookup source a.field).filterMap a.readDate?).any w.admits := by
  have order {i : Instant} (member : i ∈ w.instants) {v : Json}
      (stored : v ∈ Document.lookup source a.field) :
      Document.order? v (a.dateValue i) = (a.readDate? v).map (·.compare i) :=
    a.order?_dateValue plain (milli i member) fun text same => stamped text (same ▸ stored)
  cases w with
  | later i =>
    refine a.any_readDate? fun v stored => ?_
    have at_i := order (List.mem_singleton_self i) stored
    cases read : a.readDate? v <;> simp [at_i, read, admits, i.before_eq_gt, Limit.admits]
  | earlier i =>
    refine a.any_readDate? fun v stored => ?_
    have at_i := order (List.mem_singleton_self i) stored
    cases read : a.readDate? v <;> simp [at_i, read, admits, Instant.before, Limit.admits]
  | inside start stop =>
    refine a.any_readDate? fun v stored => ?_
    have at_start := order (List.mem_cons_self ..) stored
    have at_stop := order (List.mem_cons_of_mem _ (List.mem_singleton_self stop)) stored
    cases read : a.readDate? v with
    | none => simp [at_start, read]
    | some j =>
      have before_stop : j.before stop = (j.compare stop == .lt) := rfl
      simp [at_start, at_stop, read, admits, start.before_eq_gt, before_stop, Limit.admits]
  | «at» i =>
    refine a.any_readDate? fun v stored => ?_
    have at_i := order (List.mem_singleton_self i) stored
    cases read : a.readDate? v <;> simp [at_i, read, admits]

/-! ### Predicates -/

namespace Predicate

variable {type : FeatureType} {relation : TemporalRelation} {left right : Operand} {p : Pairing}

theorem holds_temporal {value : TemporalValue} (id : String) (source : Json)
    (paired : pairing? left right = some p) (temporal : p.literal.temporal? = some value) :
    holds type id source (.temporal relation left right) =
      ((Document.lookup source (type.resolve p.property).field).filterMap
        (type.resolve p.property).readDate?).any fun v => relation.holds v value p.swapped := by
  simp [holds, paired, temporal]

/-- A temporal relation of an attribute with a literal of whole milliseconds either has a clause, and then
the term or range that is sent selects the documents that the relation holds of and no others, or leaves a
note, and then no query that the relation is a part of is exact. -/
theorem temporal_clause_decides (type : FeatureType) (relation : TemporalRelation)
    (left right : Operand) (p : Pairing) (reads : Json → String → Json → Bool)
    (reading : Rules.plain.ReadBy reads) (id : String) (source : Json)
    (paired : pairing? left right = some p)
    (plain : (type.resolve p.property).dateFormat = none)
    (flat : (type.resolve p.property).nested = false)
    (milli : ∀ value, p.literal.temporal? = some value → ∀ i ∈ value.instants, i.Millisecond)
    (stamped : ∀ text, .string text ∈ Document.lookup source (type.resolve p.property).field →
      (Time.Rfc3339.read? text).isSome = true) :
    (∀ clause, relation.clause (type.resolve p.property) p.literal p.swapped = .ok clause →
      compile type (.temporal relation left right) = { clause } ∧
      reads clause.document id source = holds type id source (.temporal relation left right)) ∧
    (∀ note, relation.clause (type.resolve p.property) p.literal p.swapped = .error note →
      ∀ tree : Predicate, .temporal relation left right ∈ tree.leaves →
        (compile type tree).exact = false ∧
        ∀ native f, Filter.compile type tree native = .ok f → f.exclusive = false →
          f.exact = false) := by
  constructor
  · intro clause made
    have compiled : compile type (.temporal relation left right) = { clause } := by
      simp [compile, temporalClause, paired, made, Except.map, Attribute.enclose_flat flat,
        Compilation.ofExcept]
    obtain ⟨value, w, temporal, found, rfl⟩ := TemporalRelation.clause_ok made
    have whole : ∀ i ∈ w.instants, i.Millisecond := fun i member =>
      milli value temporal i (TemporalRelation.instants_of_window found i member)
    have read : reads (w.clause (type.resolve p.property)).document id source =
        (w.clause (type.resolve p.property)).selects (.ofDocuments reads id) id source := by
      have sent : reads (compile type (.temporal relation left right)).clause.document id source = _ :=
        reads_compile reading _ id source
      rwa [compiled] at sent
    refine ⟨compiled, ?_⟩
    rw [read, Window.selects_clause _ id source plain whole stamped,
      holds_temporal id source paired temporal]
    simp only [TemporalRelation.holds_of_window found]
  · intro note missing tree member
    have noted : (compile type (.temporal relation left right)).exact = false := by
      simp [compile, temporalClause, paired, missing, Except.map, Compilation.ofExcept,
        Compilation.exact]
    have inexact : (compile type tree).exact = false := by
      rw [Bool.eq_false_iff, ne_eq, exact_iff_leaves]
      exact fun all => by simp [all _ member] at noted
    exact ⟨inexact, fun native f compiled beside => by
      rw [Filter.exact_of_compile compiled beside, inexact]⟩

/-- Half a second into the leap second that ended the year 2016. -/
def leapStart : Instant := ⟨1483228799, 1500000000⟩

def newYear : Instant := ⟨1483228800, 250000000⟩

def stations : FeatureType where
  name := "stations"
  attributes := [{ name := "measured", binding := .date }]

/-- One time is too early and one lies in the leap second as a clock an hour ahead shows it;
the third is no time. -/
def measurements : Json :=
  .object [("measured", .array
    [.string "2016-12-31T23:59:60.5Z", .string "2017-01-01T00:59:60.7504+01:00", .bool true])]

/-- A period that starts in a leap second, before its attribute, and a relation without a clause. -/
theorem temporal_clause_decides_leap_second :
    let literal : Literal := .period ⟨leapStart, newYear⟩
    let during : Predicate := .temporal .during (.literal literal) (.property "measured")
    let meets : Predicate := .temporal .meets (.literal literal) (.property "measured")
    let reads : Json → String → Json → Bool := fun query id source =>
      QueryDocument.selects .plain (fun _ _ _ _ => false) id query source
    pairing? (.literal literal) (.property "measured") = some ⟨"measured", literal, true⟩ ∧
      reads (compile stations during).clause.document "1" measurements =
        holds stations "1" measurements during ∧
      holds stations "1" measurements during = true ∧
      (compile stations (.not (.or [during, meets]))).exact = false := by
  intro literal during meets reads
  have plain : (stations.resolve "measured").dateFormat = none := rfl
  have milli : ∀ value, literal.temporal? = some value → ∀ i ∈ value.instants, i.Millisecond := by
    rintro _ ⟨⟩ i member
    simp only [TemporalValue.instants, List.mem_cons, List.not_mem_nil, or_false] at member
    rcases member with rfl | rfl <;> exact ⟨⟨by decide, by decide⟩, by decide, by decide⟩
  have stored : Document.lookup measurements "measured" =
      [.string "2016-12-31T23:59:60.5Z", .string "2017-01-01T00:59:60.7504+01:00", .bool true] := by
    have path : Document.segments "measured" = ["measured"] := by decide
    simp [measurements, Document.lookup, path, Document.lookupFrom, Document.children,
      Json.Members.get?, Document.settled, Json.isNull]
  have stamped : ∀ text, .string text ∈ Document.lookup measurements "measured" →
      (Time.Rfc3339.read? text).isSome = true := by
    intro text member
    simp only [stored, List.mem_cons, Json.string.injEq, reduceCtorEq, List.not_mem_nil,
      or_false] at member
    rcases member with rfl | rfl <;> decide
  have decides (relation : TemporalRelation) :=
    temporal_clause_decides stations relation (.literal literal) (.property "measured")
      ⟨"measured", literal, true⟩ reads (QueryDocument.readBy_selects .plain _) "1" measurements rfl
      plain rfl milli stamped
  obtain ⟨same, agrees⟩ := (decides .during).1 _ rfl
  refine ⟨rfl, ?_, by decide +kernel, ?_⟩
  · rw [same]
    exact agrees
  · exact ((decides .meets).2 _ rfl _ (by simp [meets, leaves, allLeaves, during])).1

end Predicate

end GeoSearch
