import GeoSearch.Proofs.Binary64.Arithmetic
import GeoSearch.Proofs.Decimal.Reader
import GeoSearch.Proofs.Geometry.Distance
import GeoSearch.Proofs.Geometry.Document
import GeoSearch.Proofs.Query.Distance
import GeoSearch.Proofs.Query.Spatial
import GeoSearch.Query.Positions
/-!
Distances from stored positions. What the clause states reads back to the limit and the centre that the
relation compares with, unless the field is named like the limit: then the centre takes its place.
-/
namespace GeoSearch

variable {field : String} {metres : Float} {c centre : Coord Float} {g : Geometry Float} {swapped : Bool}

/-! ### What a clause states -/

namespace Distance

theorem metres?_clauseText (number : metres.isNaN = false) :
    metres? (clauseText metres) = some metres := by
  have text : (clauseText metres).toList.reverse = 'm' :: (Decimal.measure metres).toList.reverse := by
    simp [clauseText]
  rw [metres?, text]
  change Decimal.read? (Decimal.measure metres).toList.reverse.reverse = some metres
  rw [List.reverse_reverse, Decimal.read?_measure number]

/-- A finite distance in a known unit or in metres is a number of metres, if only infinity. -/
theorem number_toMetres {limit : Float} (finite : limit.isFinite = true) (units : String)
    (geographic : Bool) : (toMetres limit units geographic).isNaN = false := by
  rcases toMetres_finite_or_infinite finite units geographic with known | up | down
  · exact Binary64.isNaN_of_finite known
  · rw [up]
    decide
  · rw [down]
    decide

/-- A clause on a field of another name states its limit and its centre. -/
theorem stated?_nearDocument (other : field ≠ "distance") (number : metres.isNaN = false) :
    stated? (Clause.nearDocument field metres centre) field =
      if centre.Finite then some (metres, centre) else none := by
  have body : Json.Members.put [("distance", .string (clauseText metres))] field
      (GeoJson.position centre) =
      [("distance", .string (clauseText metres)), (field, GeoJson.position centre)] := by
    simp [Json.Members.put, other.symm]
  have members : stated? (Clause.nearDocument field metres centre) field =
      (metres? (clauseText metres)).bind fun limit =>
        (GeoJson.position? (GeoJson.position centre)).bind fun read => some (limit, read) := by
    simp [stated?, Clause.nearDocument, Clause.only, Json.member?, Json.Members.get?, body,
      Json.asString?, List.lookup_cons, beq_false_of_ne other]
  rw [members, metres?_clauseText number, GeoJson.position?_position]
  split <;> rfl

/-- A clause on a field of another name admits the positions that are near its centre. -/
theorem admits_nearDocument (other : field ≠ "distance") (number : metres.isNaN = false) :
    admits (Clause.nearDocument field metres centre) field =
      fun c => decide (haversine c centre ≤ metres) := by
  funext c
  rw [admits, stated?_nearDocument other number]
  split
  · rfl
  · next endless => exact (decide_eq_false (not_near_of_not_finite endless metres)).symm

/-- A clause on a field named like the limit states a centre and no limit, and admits nothing. -/
theorem admits_nearDocument_distance (metres : Float) (centre : Coord Float) :
    admits (Clause.nearDocument "distance" metres centre) "distance" = fun _ => false := rfl

end Distance

/-! ### The documents that are selected -/

theorem Clause.selects_negatedIf (r : Reading) (id : String) (source : Json) (negated : Bool)
    (clause : Clause) :
    (negatedIf negated clause).selects r id source = (clause.selects r id source != negated) := by
  cases negated <;> simp [negatedIf]

/-- The positions of a document with at most one, which is at the field. -/
theorem Attribute.positions_of_geometries {a : Attribute} {source : Json}
    (few : a.geometries source = [] ∨ ∃ c, a.geometries source = [.point c]) :
    Document.positions source a.field = (a.geometries source).filterMap Geometry.centroid? := by
  rcases few with none | ⟨c, one⟩
  · have same : (Attribute.plain a.field).geometries source = a.geometries source := rfl
    rw [Document.positions, same, none]
    rfl
  · rw [Attribute.positions_field one, one]
    rfl

namespace Predicate

section

variable {type : FeatureType} {relation : DistanceRelation} {left right : Operand} {name : String}
  {native : Json → String → Json → Bool} {id : String} {source : Json}
  (paired : pairing? left right = some ⟨name, .geometry g, swapped⟩) (found : g.centroid? = some centre)

include paired found

theorem holds_distance (geographic : (type.resolve name).geographic = true) (limit : Float)
    (units : String) :
    holds type id source (.distance relation left right limit units) =
      ((((type.resolve name).geometries source).filterMap Geometry.centroid?).any (fun c =>
        decide (Distance.haversine c centre ≤
          Distance.toMetres limit units (type.resolve name).geographic)) != relation.negated swapped) := by
  simp [holds, paired, DistanceRelation.holds, found, Distance.between, geographic]

variable (stored : (type.resolve name).storage ≠ .absent)

include stored

theorem selects_distance (limit : Float) (units : String) :
    (compile type (.distance relation left right limit units)).clause.selects
        (.ofDistances native) id source =
      ((Document.positions source (type.resolve name).field).any (Distance.admits
        (Clause.nearDocument (type.resolve name).field
          (Distance.toMetres limit units (type.resolve name).geographic) centre)
        (type.resolve name).field) != relation.negated swapped) := by
  rw [compile_distance paired stored found limit units, Clause.selects_negatedIf]
  rfl

/-- Nothing is near the centre in a field that is named like the limit. -/
theorem selects_distance_distance (same : (type.resolve name).field = "distance") (limit : Float)
    (units : String) :
    (compile type (.distance relation left right limit units)).clause.selects
      (.ofDistances native) id source = relation.negated swapped := by
  rw [selects_distance paired found stored, same, Distance.admits_nearDocument_distance,
    List.any_eq_false.mpr fun _ _ => Bool.false_ne_true, Bool.false_bne]

end

/-- A distance from a literal selects the documents that it holds of, if the field of the attribute has
another name than the limit. In a field of that name the centre takes the place of the limit, so that
no document is near it. -/
theorem distance_membership (type : FeatureType) (relation : DistanceRelation) (left right : Operand)
    (name : String) (g : Geometry Float) (swapped : Bool) (limit : Float) (units : String)
    (centre : Coord Float) (native : Json → String → Json → Bool) (id : String) (source : Json)
    (paired : pairing? left right = some ⟨name, .geometry g, swapped⟩)
    (stored : (type.resolve name).storage ≠ .absent)
    (geographic : (type.resolve name).geographic = true)
    (found : g.centroid? = some centre) (finite : limit.isFinite = true)
    (few : (type.resolve name).geometries source = [] ∨
      ∃ c, (type.resolve name).geometries source = [.point c]) :
    let near := distance relation left right limit units
    let compiled := compile type near
    let selected := compiled.clause.selects (.ofDistances native) id source
    compiled.exact = true ∧
    ((type.resolve name).field ≠ "distance" → selected = holds type id source near) ∧
    ((type.resolve name).field = "distance" → selected = relation.negated swapped) := by
  intro near compiled selected
  refine ⟨?_, ?_, ?_⟩
  · change (compile type near).exact = true
    rw [compile_distance paired stored found]
    rfl
  · intro other
    have number := Distance.number_toMetres finite units (type.resolve name).geographic
    change (compile type near).clause.selects _ id source = _
    rw [selects_distance paired found stored, holds_distance paired found geographic,
      Attribute.positions_of_geometries few, Distance.admits_nearDocument other number]
  · exact fun same => selects_distance_distance paired found stored same limit units

def nearOrigin (name : String) : Predicate :=
  .distance .within (.property name) (.literal (.geometry (.point ⟨0, 0⟩))) 1.0 "km"

theorem origin_nearOrigin : Distance.haversine ⟨0, 0⟩ ⟨0, 0⟩ ≤ Distance.toMetres 1.0 "km" true := by
  decide +kernel

/-- A site at the origin is near it, and is selected. -/
theorem distance_membership_at_origin :
    let source := Document.placed ⟨0, 0⟩ "at"
    let compiled := compile sites (nearOrigin "at")
    pairing? (.property "at") (.literal (.geometry (.point ⟨0, 0⟩))) =
        some ⟨"at", .geometry (.point ⟨0, 0⟩), false⟩ ∧
      (sites.resolve "at").storage ≠ .absent ∧ (sites.resolve "at").geographic = true ∧
      (Geometry.point ⟨0, 0⟩).centroid? = some (⟨0, 0⟩ : Coord Float) ∧ (1.0 : Float).isFinite = true ∧
      (sites.resolve "at").geometries source = [.point ⟨0, 0⟩] ∧ compiled.exact = true ∧
      compiled.clause.selects (.ofDistances fun _ _ _ => false) "1" source =
        holds sites "1" source (nearOrigin "at") := by
  intro source compiled
  have stored : (sites.resolve "at").storage ≠ .absent := nofun
  have one := Attribute.geometries_placed (sites.resolve "at") ⟨0, 0⟩
  obtain ⟨exact, same, -⟩ := distance_membership sites .within (.property "at")
    (.literal (.geometry (.point ⟨0, 0⟩))) "at" (.point ⟨0, 0⟩) false 1.0 "km" ⟨0, 0⟩
    (fun _ _ _ => false) "1" source rfl stored rfl rfl (by decide) (.inr ⟨_, one⟩)
  exact ⟨rfl, stored, rfl, rfl, by decide, one, exact, same (by decide)⟩

def waypoints : FeatureType where
  name := "waypoints"
  attributes := [.ofGeometry "distance" .point]

/-- In a field named like the limit a position at the centre itself is not near it. -/
theorem centre_takes_the_place_of_the_limit :
    ¬ ∀ (type : FeatureType) (relation : DistanceRelation) (left right : Operand) (name : String)
        (g : Geometry Float) (swapped : Bool) (limit : Float) (units : String) (centre : Coord Float)
        (native : Json → String → Json → Bool) (id : String) (source : Json),
      pairing? left right = some ⟨name, .geometry g, swapped⟩ →
      (type.resolve name).storage ≠ .absent → (type.resolve name).geographic = true →
      g.centroid? = some centre → limit.isFinite = true →
      ((type.resolve name).geometries source = [] ∨
        ∃ c, (type.resolve name).geometries source = [.point c]) →
      (compile type (.distance relation left right limit units)).clause.selects
          (.ofDistances native) id source =
        holds type id source (.distance relation left right limit units) := by
  intro agree
  let source := Document.placed ⟨0, 0⟩ "distance"
  have stored : (waypoints.resolve "distance").storage ≠ .absent := nofun
  have one : (waypoints.resolve "distance").geometries source = [.point ⟨0, 0⟩] :=
    Attribute.geometries_placed (waypoints.resolve "distance") ⟨0, 0⟩
  have same := agree waypoints .within (.property "distance") (.literal (.geometry (.point ⟨0, 0⟩)))
    "distance" (.point ⟨0, 0⟩) false 1.0 "km" ⟨0, 0⟩ (fun _ _ _ => false) "1" source rfl stored rfl rfl
    (by decide) (.inr ⟨_, one⟩)
  have selected : (compile waypoints (nearOrigin "distance")).clause.selects
      (.ofDistances fun _ _ _ => false) "1" source = false :=
    selects_distance_distance rfl rfl stored rfl 1.0 "km"
  have holding : holds waypoints "1" source (nearOrigin "distance") = true := by
    have geographic : (waypoints.resolve "distance").geographic = true := rfl
    have centre : (Geometry.point ⟨0, 0⟩).centroid? = some (⟨0, 0⟩ : Coord Float) := rfl
    rw [nearOrigin, holds_distance rfl rfl geographic, one, geographic,
      List.filterMap_cons_some centre, List.any_cons, decide_eq_true origin_nearOrigin]
    rfl
  exact Bool.false_ne_true (selected.symm.trans (same.trans holding))

end Predicate

end GeoSearch
