import GeoSearch.Search.Listing
import GeoSearch.Source.Through
/-!
Where the attributes that a query selects are asked for. The index serves an attribute either from the
source document or from its stored fields, and a request lists the two apart. Without a selection of
its own a query asks for each attribute where it is served from; one that names its properties asks
for all of them from the source document.
-/
namespace GeoSearch

/-- The values of an attribute in a hit as it was sent, from where the attribute is served. -/
def Attribute.sentValues (a : Attribute) (sent : Hit) : List Json :=
  if a.stored then sent.storedValues a.field else Document.lookup sent.source a.field

/-- Each of these attributes is asked for where it is served from, and nothing else is asked for. -/
structure SearchRequest.AsksWhereServed (r : SearchRequest) (attributes : List Attribute) : Prop where
  stored : ∀ field, field ∈ r.storedFields ↔ ∃ a ∈ attributes, a.stored = true ∧ a.field = field
  source : ∀ field, field ∈ r.sourceIncludes ↔ ∃ a ∈ attributes, a.stored = false ∧ a.field = field

namespace SearchRequest

variable {r : SearchRequest} {attributes : List Attribute}

theorem asksWhereServed_of_split (stored : r.storedFields = (attributes.filter (·.stored)).map (·.field))
    (source : r.sourceIncludes = (attributes.filter (!·.stored)).map (·.field)) :
    r.AsksWhereServed attributes where
  stored field := by simp [stored, and_assoc]
  source field := by simp [source, and_assoc]

/-- What is asked for where it is served from comes back. -/
theorem AsksWhereServed.sentValues (asks : r.AsksWhereServed attributes) {whole sent : Hit}
    (narrowed : whole.SentAs r.sourceIncludes r.storedFields sent) {a : Attribute}
    (selected : a ∈ attributes) : a.sentValues sent = Document.lookup whole.source a.field := by
  unfold Attribute.sentValues
  cases flag : a.stored with
  | true => exact narrowed.stored _ ((asks.stored _).mpr ⟨a, selected, flag, rfl⟩)
  | false => exact (narrowed.listed _ ((asks.source _).mpr ⟨a, selected, flag, rfl⟩)).values

end SearchRequest

namespace FeatureSource

variable {s : FeatureSource} {q : FeatureQuery} {f : Filter}

/-- The attributes that a query selects: those that it names, whether the type knows them or not, or
else those in use. -/
def selected (s : FeatureSource) (q : FeatureQuery) : List Attribute :=
  match q.properties with
  | some names => names.map s.type.resolve
  | none => s.type.usedAttributes

theorem storedFields_of_none (unnamed : q.properties = none) :
    s.storedFields q = ((s.selected q).filter (·.stored)).map (·.field) := by
  simp only [storedFields, selected, unnamed]

theorem sourceIncludes_of_none (unnamed : q.properties = none) :
    s.sourceIncludes q = ((s.selected q).filter (!·.stored)).map (·.field) := by
  simp only [sourceIncludes, selected, unnamed]

theorem storedFields_of_some {names : List String} (named : q.properties = some names) :
    s.storedFields q = [] := by
  simp only [storedFields, named]

theorem sourceIncludes_of_some {names : List String} (named : q.properties = some names) :
    s.sourceIncludes q = (s.selected q).map (·.field) := by
  simp only [sourceIncludes, selected, named, List.map_map]
  rfl

/-- Each selected attribute is asked for once, from one place or the other. -/
theorem fields_perm (s : FeatureSource) (q : FeatureQuery) :
    (s.storedFields q ++ s.sourceIncludes q).Perm ((s.selected q).map (·.field)) := by
  cases named : q.properties with
  | none =>
    rw [storedFields_of_none named, sourceIncludes_of_none named, ← List.map_append]
    exact (List.filter_append_perm (·.stored) (s.selected q)).map _
  | some names => rw [storedFields_of_some named, sourceIncludes_of_some named, List.nil_append]

/-- The searches for a query list what it selects. -/
theorem Asks.fields (filtering : s.config.sourceFiltering = true) {r : SearchRequest}
    (asked : s.Asks q f r) : r.storedFields = s.storedFields q ∧ r.sourceIncludes = s.sourceIncludes q := by
  obtain ⟨scroll, size, rfl⟩ := asked
  simp [request, filtering]

/-- Stored attributes are asked for where they are served from unless they are named. -/
theorem asksWhereServed_iff {r : SearchRequest} (stored : r.storedFields = s.storedFields q)
    (source : r.sourceIncludes = s.sourceIncludes q) : r.AsksWhereServed (s.selected q) ↔
      q.properties = none ∨ ∀ a ∈ s.selected q, a.stored = false := by
  cases named : q.properties with
  | none =>
    exact iff_of_true (SearchRequest.asksWhereServed_of_split
      (stored.trans (storedFields_of_none named)) (source.trans (sourceIncludes_of_none named))) (.inl rfl)
  | some names =>
    rw [storedFields_of_some named] at stored
    rw [sourceIncludes_of_some named] at source
    constructor
    · refine fun asks => .inr fun a selected => Bool.eq_false_iff.mpr fun flag => ?_
      have listed : a.field ∈ r.storedFields := (asks.stored _).mpr ⟨a, selected, flag, rfl⟩
      rw [stored] at listed
      cases listed
    · rintro (unnamed | unstored)
      · cases unnamed
      · -- Nothing is stored, so the source document is where everything is served from.
        refine SearchRequest.asksWhereServed_of_split ?_ ?_
        · rw [stored, List.filter_eq_nil_iff.mpr (by simpa using unstored), List.map_nil]
        · rw [source, List.filter_eq_self.mpr (by simpa using unstored)]

/-- With source filtering on, a query that compiles is prepared, and every search for it asks for each
selected attribute once and for nothing else. It asks where they are served from just if the query has
no selection of its own, or selects no stored attribute. -/
theorem selected_fields (filtering : s.config.sourceFiltering = true)
    (compiled : Filter.compile s.type q.predicate (q.native.getD {}) = .ok f) (scroll : Bool)
    (k : Connection σ) :
    (∃ p l, s.prepare q scroll k = (.ok p, l) ∧ s.Asks q f p.request) ∧
      ∀ r, s.Asks q f r →
        (r.storedFields ++ r.sourceIncludes).Perm ((s.selected q).map (·.field)) ∧
          (r.AsksWhereServed (s.selected q) ↔
            q.properties = none ∨ ∀ a ∈ s.selected q, a.stored = false) := by
  refine ⟨⟨_, _, by simp only [prepare, compiled]; rfl, scroll, _, rfl⟩, fun r asked => ?_⟩
  obtain ⟨stored, source⟩ := Asks.fields filtering asked
  exact ⟨by rw [stored, source]; exact fields_perm s q, asksWhereServed_iff stored source⟩

/-- A stored attribute, and one with a field of another name, in the selection of all attributes in
use; a named selection with a name that the type does not know. -/
theorem selected_fields_of_places :
    let type : FeatureType :=
      { name := "places"
        attributes := [{ name := "name" }, { name := "label", stored := true }, { name := "id", used := false },
          { name := "score", nativeName := some "props.score" }] }
    let s : FeatureSource := { type, config := { sourceFiltering := true } }
    let q (properties : Option (List String)) : FeatureQuery := { predicate := .everything, properties }
    let f : Filter := .ofParsed type .everything ⟨.matchAll, none, false⟩
    s.config.sourceFiltering = true ∧
      (∀ properties, Filter.compile s.type (q properties).predicate ((q properties).native.getD {}) = .ok f) ∧
      (∃ p l, s.prepare (q none) false { state := () } = (.ok p, l) ∧
        (p.request.storedFields ++ p.request.sourceIncludes).Perm ["name", "label", "props.score"] ∧
        p.request.AsksWhereServed (s.selected (q none))) ∧
      ∃ p l, s.prepare (q (some ["score", "rank"])) false { state := () } = (.ok p, l) ∧
        (p.request.storedFields ++ p.request.sourceIncludes).Perm ["props.score", "rank"] ∧
        p.request.AsksWhereServed (s.selected (q (some ["score", "rank"]))) := by
  intro type s q f
  have compiled (properties : Option (List String)) :
      Filter.compile s.type (q properties).predicate ((q properties).native.getD {}) = .ok f := rfl
  refine ⟨rfl, compiled, ?_, ?_⟩
  · obtain ⟨⟨p, l, prepared, asked⟩, searches⟩ :=
      selected_fields (s := s) rfl (compiled none) false { state := () }
    obtain ⟨fields, served⟩ := searches p.request asked
    exact ⟨p, l, prepared, fields, served.mpr (.inl rfl)⟩
  · obtain ⟨⟨p, l, prepared, asked⟩, searches⟩ :=
      selected_fields (s := s) rfl (compiled (some ["score", "rank"])) false { state := () }
    obtain ⟨fields, served⟩ := searches p.request asked
    exact ⟨p, l, prepared, fields, served.mpr (.inr (by decide))⟩

/-- A stored attribute that a query names is asked for from the source document. -/
theorem named_attribute_is_asked_for_elsewhere :
    let type : FeatureType :=
      { name := "places", attributes := [{ name := "name" }, { name := "label", stored := true }] }
    let s : FeatureSource := { type, config := { sourceFiltering := true } }
    let q : FeatureQuery := { predicate := .everything, properties := some ["label", "name"] }
    ∃ p l, s.prepare q false { state := () } = (.ok p, l) ∧ p.request.storedFields = [] ∧
      p.request.sourceIncludes = ["label", "name"] ∧ ¬ p.request.AsksWhereServed (s.selected q) := by
  intro type s q
  refine ⟨_, _, rfl, rfl, rfl, fun asks => ?_⟩
  have stored : "label" ∈ s.storedFields q :=
    (asks.stored "label").mpr ⟨{ name := "label", stored := true }, by decide, rfl, rfl⟩
  exact absurd stored (by decide)

end FeatureSource

end GeoSearch
