import GeoSearch.Proofs.Json.Text
import GeoSearch.Query.Filter
import GeoSearch.Source.FeatureQuery
/-!
The key of a query. Two queries with the same key have the same predicate and the same native texts.
The key does not tell whether the native query stands alone; where that agrees as well, the two are
compiled to the same.
-/
namespace GeoSearch

open Json (Whole)

namespace NativeQuery

theorem parsePart_unreadable (part : Part) {text : String} (unread : Json.spelled? text = none) :
    parsePart part text = .error ⟨part, .unreadable⟩ := by
  rw [parsePart, Json.parse?, unread]
  rfl

def Readable (text : Option String) : Prop :=
  ∀ own, text = some own → (Json.spelled? own).isSome = true

theorem readable_query {text : Option String} {clause : Clause} (read : parseQuery text = .ok clause) :
    Readable text := by
  rintro own rfl
  cases spelled : Json.spelled? own with
  | some document => rfl
  | none =>
    rw [parseQuery, parsePart_unreadable _ spelled] at read
    cases read

theorem readable_aggregations {text : Option String} {aggregations : Option Json.Members}
    (read : parseAggregations text = .ok aggregations) : Readable text := by
  rintro own rfl
  cases spelled : Json.spelled? own with
  | some document => rfl
  | none =>
    rw [parseAggregations, parsePart_unreadable _ spelled] at read
    cases read

theorem readable_of_parse {q : NativeQuery} {parsed : Parsed} (read : q.parse = .ok parsed) :
    Readable q.query ∧ Readable q.aggregations := by
  obtain ⟨query, aggregations⟩ := parse_ok read
  exact ⟨readable_query query, readable_aggregations aggregations⟩

theorem Readable.whole {text : Option String} (readable : Readable text) : Whole (text.getD "") := by
  cases text with
  | none => exact .inl rfl
  | some own => exact .inr (readable own rfl)

theorem Readable.inj {left right : Option String} (first : Readable left) (second : Readable right)
    (same : left.getD "" = right.getD "") : left = right := by
  have empty : (Json.spelled? "").isSome = false := rfl
  cases left with
  | none =>
    cases right with
    | none => rfl
    | some own =>
      obtain rfl : "" = own := same
      exact absurd (second "" rfl) (by simp [empty])
  | some own =>
    cases right with
    | none =>
      obtain rfl : own = "" := same
      exact absurd (first "" rfl) (by simp [empty])
    | some other => exact congrArg some same

end NativeQuery

def Predicate.Legible (p : Predicate) : Prop := ofDocument? p.document = some p

theorem Predicate.Legible.inj {left right : Predicate} (first : left.Legible) (second : right.Legible)
    (same : left.document = right.document) : left = right := by
  unfold Legible at first second
  rw [same, second] at first
  exact (Option.some.inj first).symm

namespace FeatureQuery

variable {left right : FeatureQuery} {typeName : String}

theorem key_eq (q : FeatureQuery) (typeName : String) :
    q.key typeName = typeName ++ ("|" ++ (q.predicate.document.text ++
      ("|" ++ ((q.native.getD {}).query.getD "" ++ "|" ++ (q.native.getD {}).aggregations.getD "")))) := by
  simp only [key, Predicate.text, String.append_assoc]

theorem key_parts {first second : NativeQuery.Parsed}
    (readLeft : (left.native.getD {}).parse = .ok first)
    (readRight : (right.native.getD {}).parse = .ok second)
    (same : left.key typeName = right.key typeName) :
    left.predicate.document = right.predicate.document ∧
      (left.native.getD {}).query = (right.native.getD {}).query ∧
      (left.native.getD {}).aggregations = (right.native.getD {}).aggregations := by
  obtain ⟨query, aggregations⟩ := NativeQuery.readable_of_parse readLeft
  obtain ⟨query', aggregations'⟩ := NativeQuery.readable_of_parse readRight
  rw [key_eq, key_eq, String.append_right_inj, String.append_right_inj] at same
  have bar (rest : String) : Text.Ends Json.Reader.inNumber ("|" ++ rest).toList := by
    rw [String.toList_append]
    exact Text.ends_cons rfl
  obtain ⟨document, others⟩ := Json.text_append_inj (bar _) (bar _) same
  rw [String.append_right_inj] at others
  obtain ⟨text, further⟩ := Json.bar_append_inj query.whole query'.whole others
  exact ⟨document, query.inj query' text, aggregations.inj aggregations' further⟩

/-- Queries with the same key have the same predicate and the same native texts; where both native
queries stand alone or neither does, they are compiled to the same. -/
theorem compile_of_same_key {first second : NativeQuery.Parsed}
    (readLeft : (left.native.getD {}).parse = .ok first)
    (readRight : (right.native.getD {}).parse = .ok second)
    (same : left.key typeName = right.key typeName) :
    left.predicate.document = right.predicate.document ∧
      (left.native.getD {}).query = (right.native.getD {}).query ∧
      (left.native.getD {}).aggregations = (right.native.getD {}).aggregations ∧
      (left.predicate.Legible → right.predicate.Legible →
        (left.native.getD {}).exclusive = (right.native.getD {}).exclusive →
        ∀ type, Filter.compile type left.predicate (left.native.getD {}) =
          Filter.compile type right.predicate (right.native.getD {})) := by
  obtain ⟨document, query, aggregations⟩ := key_parts readLeft readRight same
  refine ⟨document, query, aggregations, ?_⟩
  intro legible legible' exclusive type
  have predicate : left.predicate = right.predicate := legible.inj legible' document
  have native : left.native.getD {} = right.native.getD {} := by
    generalize left.native.getD {} = own at query aggregations exclusive
    generalize right.native.getD {} = other at query aggregations exclusive
    cases own
    cases other
    cases query
    cases aggregations
    cases exclusive
    rfl
  rw [predicate, native]

/-- The pages of a query have one key, with bars in its texts. -/
theorem pages_of_one_key :
    let type : FeatureType := { name := "roads", attributes := [{ name := "name" }] }
    let q (index size : Nat) : FeatureQuery :=
      { predicate := .compare .equal (.property "name") (.literal (.value (.string "a|b")))
        native := some { query := some "\x7b\"term\":\x7b\"kind\":\"c|d\"\x7d\x7d" }
        maxFeatures := some size
        page := some ⟨"s", index⟩ }
    (q 0 2).key type.name = (q 2 3).key type.name ∧
      Filter.compile type (q 0 2).predicate ((q 0 2).native.getD {}) =
        Filter.compile type (q 2 3).predicate ((q 2 3).native.getD {}) := by
  intro type q
  have same : (q 0 2).key type.name = (q 2 3).key type.name := rfl
  have legible : (q 0 2).predicate.Legible := by
    unfold Predicate.Legible Predicate.ofDocument? Predicate.readAt
    rfl
  have reads : ((q 0 2).native.getD {}).parse.isOk = true := by decide +kernel
  obtain ⟨parsed, read⟩ : ∃ parsed, ((q 0 2).native.getD {}).parse = .ok parsed := by
    cases parse : ((q 0 2).native.getD {}).parse with
    | ok parsed => exact ⟨parsed, rfl⟩
    | error e =>
      rw [parse] at reads
      cases reads
  obtain ⟨-, -, -, compiled⟩ := compile_of_same_key read read same
  exact ⟨same, compiled legible legible rfl type⟩

/-- Whether the native query stands alone is not part of the key. -/
theorem exclusive_query_shares_its_key :
    let type : FeatureType := { name := "roads", attributes := [{ name := "rank", binding := .integer }] }
    let q (exclusive : Bool) : FeatureQuery :=
      { predicate := .compare .equal (.property "rank") (.literal (.value (.ofNat 1)))
        native := some { exclusive } }
    (q true).key type.name = (q false).key type.name ∧
      ∃ f g, Filter.compile type (q true).predicate ((q true).native.getD {}) = .ok f ∧
        Filter.compile type (q false).predicate ((q false).native.getD {}) = .ok g ∧
        f.query = .matchAll ∧ g.query = .term "rank" (.ofNat 1) ∧ f.query ≠ g.query := by
  intro type q
  refine ⟨rfl, _, _, rfl, rfl, rfl, rfl, ?_⟩
  nofun

end FeatureQuery

end GeoSearch
