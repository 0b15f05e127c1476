import GeoSearch.Proofs.Predicate.Fields
import GeoSearch.Proofs.Source.Features
import GeoSearch.Search.Listing
import Mathlib.Data.List.Forall2
/-!
Reading with and without source filtering. With it a predicate that is held to the hits sees no more
of them than was asked for. An index that keeps only the listed members of a source document sends hits
as they are expected, where no field lies deeper than that.
-/
namespace GeoSearch

/-! ### Narrowed documents -/

section

open Json (Members)

namespace Document

theorem lookup_name {members : Members} {name : String} (plain : segments name = [name]) :
    lookup (.object members) name = (members.get? name).toList.flatMap settled := by
  simp [lookup, plain, lookupFrom, children]

theorem single?_name {members : Members} {name : String} (plain : segments name = [name]) :
    single? (.object members) name = members.get? name := by
  simp [single?, plain, memberAt?]

theorem lookup_absent {members : Members} {path first : String} {rest : List String}
    (parts : segments path = first :: rest) (absent : members.get? first = none) :
    lookup (.object members) path = [] := by
  simp [lookup, parts, lookupFrom, children, absent, lookupFrom_nil]

end Document

theorem Json.Members.get?_filter (members : Members) (keep : String → Bool) (name : String) :
    get? (members.filter fun member => keep member.1) name =
      if keep name then members.get? name else none := by
  induction members with
  | nil => simp [get?]
  | cons member rest ih =>
    obtain ⟨key, value⟩ := member
    by_cases same : name = key
    · subst same
      cases kept : keep name with
      | true => simp [get?, kept]
      | false =>
        rw [List.filter_cons_of_neg (by simp [kept]), ih, kept]
        rfl
    · have skip (others : Members) : get? ((key, value) :: others) name = others.get? name := by
        have unlike : (name == key) = false := by simpa using same
        simp only [get?, List.lookup_cons, unlike]
      cases kept : keep key with
      | true => rw [List.filter_cons_of_pos (by exact kept), skip, skip, ih]
      | false => rw [List.filter_cons_of_neg (by simp [kept]), skip, ih]

namespace Hit

open Document

theorem narrow_sentAs {includes : List String} (plain : ∀ field ∈ includes, Document.segments field = [field])
    {h : Hit} {members : Members} (object : h.source = .object members) :
    h.SentAs includes [] (h.narrow includes) := by
  obtain ⟨id, source, fields, score⟩ := h
  obtain rfl : source = .object members := object
  cases none : includes.isEmpty with
  | true =>
    obtain rfl : includes = [] := List.isEmpty_iff.mp none
    exact ⟨rfl, fun _ => rfl, by simp, by simp, by simp⟩
  | false =>
    have narrowed : narrow includes ⟨id, .object members, fields, score⟩ =
        ⟨id, .object (members.filter fun member => includes.contains member.1), fields, score⟩ := by
      simp [narrow, none]
    rw [narrowed]
    have kept (name : String) :
        Members.get? (members.filter fun member => includes.contains member.1) name =
          if includes.contains name then members.get? name else Option.none :=
      members.get?_filter _ name
    refine ⟨rfl, ?_, fun field listed => ?_, fun _ field apart => ?_, by simp⟩
    · rintro rfl
      simp at none
    · have same := kept field
      rw [if_pos (by simpa using listed)] at same
      have alone := plain field listed
      exact ⟨by rw [lookup_name alone, lookup_name alone, same],
        by rw [single?_name alone, single?_name alone, same]⟩
    · -- The first name of the path is not listed, or the path would go on from it.
      obtain ⟨first, rest, parts⟩ := List.exists_cons_of_ne_nil (segments_ne_nil field)
      refine lookup_absent parts ?_
      rw [kept, if_neg]
      intro listed
      have member : first ∈ includes := by simpa using listed
      exact apart first member (.inl (by simp [plain first member, parts]))

end Hit

end

/-! ### Narrowed reads -/

namespace FeatureSource

variable {b : Backend σ} {scrolling : Scrolling b} {s : FeatureSource} {q : FeatureQuery} {f : Filter}
  {whole sent : List Hit}

/-- The predicate of a query is settled by the index, or looks at nothing but what is sent. -/
def SeesAll (s : FeatureSource) (q : FeatureQuery) (f : Filter) : Prop :=
  f.exact = true ∨ s.sourceIncludes q = [] ∨
    ∀ field ∈ q.predicate.fields s.type, field ∈ s.sourceIncludes q

/-- Then it says of a hit that was sent what it says of the whole hit. -/
theorem accepts_sent (sees : s.SeesAll q f) {hit part : Hit}
    (narrowed : hit.SentAs (s.sourceIncludes q) (s.storedFields q) part) :
    s.accepts q f hit = s.accepts q f part := by
  have same (agree : ∀ field ∈ q.predicate.fields s.type,
      Document.Agree part.source hit.source field) : s.accepts q f hit = s.accepts q f part := by
    rw [accepts, accepts, narrowed.id, Predicate.holds_congr q.predicate agree]
  rcases sees with exact | none | listed
  · simp [accepts, exact]
  · exact same fun field _ => by rw [narrowed.unlisted none]; exact ⟨rfl, rfl⟩
  · exact same fun field reads => narrowed.listed field (listed field reads)

/-- With source filtering, the features of a query are those hits that its predicate accepts as they
were sent. They are the same as without it if the predicate sees all that it looks at. -/
theorem featureIds_filtering
    (compiled : Filter.compile s.type q.predicate (q.native.getD {}) = .ok f)
    (plain : f.aggregations = none) (unpaged : q.page = none) (positive : 1 ≤ s.config.scrollSize)
    (unfiltered : scrolling.Serves s.config.indexName ((s.filtering false).Asks q f) whole)
    (filtered : scrolling.Serves s.config.indexName ((s.filtering true).Asks q f) sent)
    (narrowed : List.Forall₂ (Hit.SentAs (s.sourceIncludes q) (s.storedFields q)) whole sent)
    (d : Desk σ) :
    (s.filtering true).featureIds b q d =
        .ok (((sent.filter (s.accepts q f)).take (s.limit q)).map (·.id)) ∧
      (s.SeesAll q f → (s.filtering true).featureIds b q d = (s.filtering false).featureIds b q d) := by
  have on := features_eq (s := s.filtering true) compiled plain unpaged positive filtered d
  have off := features_eq (s := s.filtering false) compiled plain unpaged positive unfiltered d
  have read : (s.filtering true).featureIds b q d =
      .ok (((sent.filter (s.accepts q f)).take (s.limit q)).map (·.id)) := by
    rw [featureIds, on]
    rfl
  refine ⟨read, fun sees => ?_⟩
  have accepted : List.Forall₂ (Hit.SentAs (s.sourceIncludes q) (s.storedFields q))
      (whole.filter (s.accepts q f)) (sent.filter (s.accepts q f)) :=
    List.rel_filter (fun _ _ part => Bool.eq_iff_iff.mp (accepts_sent sees part)) narrowed
  have ids : ((whole.filter (s.accepts q f)).take (s.limit q)).map (·.id) =
      ((sent.filter (s.accepts q f)).take (s.limit q)).map (·.id) := by
    rw [← List.forall₂_eq_eq_eq, List.forall₂_map_left_iff, List.forall₂_map_right_iff]
    exact (List.forall₂_take _ accepted).imp fun _ _ part => part.id.symm
  rw [read, ← ids, featureIds, off]
  rfl

/-- With nothing listed, hits are sent whole. -/
theorem map_narrow_nil (hits : List Hit) : hits.map (·.narrow []) = hits := by
  have whole (h : Hit) : h.narrow [] = h := by
    unfold Hit.narrow
    split <;> rfl
  simp [whole]

theorem narrowing_whole (hits : List Hit) (index : String) :
    (Scrolling.ofListing _ : Scrolling (.narrowing hits)).Serves index
      ((s.filtering false).Asks q f) hits := by
  refine Scrolling.ofListing_serves ?_ index
  rintro _ ⟨scroll, size, rfl⟩
  exact map_narrow_nil hits

theorem narrowing_sent (hits : List Hit) (index : String) :
    (Scrolling.ofListing _ : Scrolling (.narrowing hits)).Serves index
      ((s.filtering true).Asks q f) (hits.map (·.narrow (s.sourceIncludes q))) := by
  refine Scrolling.ofListing_serves ?_ index
  rintro _ ⟨scroll, size, rfl⟩
  rfl

/-- The names of the properties that are compared are among those that are asked for. -/
theorem compared_properties_are_sent :
    let type : FeatureType :=
      { name := "places", attributes := [{ name := "name" }, { name := "rank" }, { name := "best" }] }
    let hit (id name : String) (rank : Nat) : Hit :=
      { id,
        source := .object [("name", .string name), ("rank", .ofNat rank), ("best", .ofNat 1)] }
    let hits := [hit "4" "Main Street" 1, hit "5" "High Street" 2]
    let s : FeatureSource := { type }
    let q : FeatureQuery :=
      { predicate := .compare .equal (.property "rank") (.property "best")
        properties := some ["rank", "best"] }
    (s.filtering true).featureIds (.narrowing hits) q { connection := { state := [] } } = .ok ["4"] ∧
      (s.filtering false).featureIds (.narrowing hits) q { connection := { state := [] } } =
        .ok ["4"] := by
  intro type hit hits s q
  let f : Filter := .ofParsed type q.predicate ⟨.matchAll, none, false⟩
  have compiled : Filter.compile s.type q.predicate (q.native.getD {}) = .ok f := by rfl
  have sent (h : Hit) (member : h ∈ hits) : h.SentAs ["rank", "best"] [] (h.narrow ["rank", "best"]) := by
    simp only [hits, List.mem_cons, List.not_mem_nil, or_false] at member
    rcases member with rfl | rfl <;> exact Hit.narrow_sentAs (by decide) rfl
  have narrowed : List.Forall₂ (Hit.SentAs (s.sourceIncludes q) (s.storedFields q)) hits
      (hits.map (·.narrow (s.sourceIncludes q))) := by
    rw [List.forall₂_map_right_iff, List.forall₂_same]
    exact sent
  have sees : s.SeesAll q f := .inr (.inr (by decide))
  obtain ⟨read, same⟩ := featureIds_filtering compiled rfl rfl (by decide) (narrowing_whole hits _)
    (narrowing_sent hits _) narrowed { connection := { state := [] } }
  have ids : (((hits.map (·.narrow (s.sourceIncludes q))).filter (s.accepts q f)).take
      (s.limit q)).map (·.id) = ["4"] := by decide
  rw [ids] at read
  exact ⟨read, same sees ▸ read⟩

/-- Where a property is compared that is not asked for, a feature is lost. -/
theorem unsent_property_loses_a_feature :
    let type : FeatureType :=
      { name := "places", attributes := [{ name := "name" }, { name := "rank" }, { name := "best" }] }
    let hit : Hit :=
      { id := "4"
        source := .object
          [("name", .string "Main Street"), ("rank", .ofNat 1), ("best", .ofNat 1)] }
    let s : FeatureSource := { type }
    let q : FeatureQuery :=
      { predicate := .compare .equal (.property "rank") (.property "best"), properties := some ["name"] }
    hit.SentAs (s.sourceIncludes q) (s.storedFields q) (hit.narrow (s.sourceIncludes q)) ∧
      (s.filtering true).featureIds (.narrowing [hit]) q { connection := { state := [] } } = .ok [] ∧
      (s.filtering false).featureIds (.narrowing [hit]) q { connection := { state := [] } } =
        .ok ["4"] := by
  intro type hit s q
  let f : Filter := .ofParsed type q.predicate ⟨.matchAll, none, false⟩
  have compiled : Filter.compile s.type q.predicate (q.native.getD {}) = .ok f := by rfl
  have on := features_eq (b := .narrowing [hit]) (s := s.filtering true) compiled rfl rfl (by decide)
    (narrowing_sent [hit] _) { connection := { state := [] } }
  have off := features_eq (b := .narrowing [hit]) (s := s.filtering false) compiled rfl rfl (by decide)
    (narrowing_whole [hit] _) { connection := { state := [] } }
  refine ⟨Hit.narrow_sentAs (by decide) rfl, ?_, ?_⟩
  · rw [featureIds, on]
    exact congrArg Except.ok (by decide)
  · rw [featureIds, off]
    exact congrArg Except.ok (by decide)

end FeatureSource

end GeoSearch
