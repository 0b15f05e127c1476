import GeoSearch.Proofs.Geometry.Centroid
import GeoSearch.Proofs.Query.Sent
/-!
The clause of a distance from a literal. It is centred on the centroid of the literal as it was written,
which is not brought into the world before.
-/
namespace GeoSearch

variable {g : Geometry Float} {centre : Coord Float} {swapped : Bool}

namespace DistanceRelation

variable {relation : DistanceRelation} {a : Attribute}

theorem clause_of_centroid (stored : a.storage ≠ .absent) (found : g.centroid? = some centre)
    (limit : Float) (units : String) :
    relation.clause a g limit units swapped =
      .ok (.negatedIf (relation.negated swapped)
        (.filtered (.near a.field (Distance.toMetres limit units a.geographic) centre))) := by
  rw [clause, if_neg stored, found]

end DistanceRelation

/-- The document of a distance clause sends its centre, also where the centre takes the place of the
limit. -/
theorem Clause.positions_near (field : String) (metres : Float) (finite : centre.Finite)
    (negated : Bool) :
    (negatedIf negated (filtered (near field metres centre))).document.positions = [centre] := by
  have sent := GeoJson.positions_position finite
  have body : Json.memberPositions (Json.Members.put [("distance",
      .string (Distance.clauseText metres))] field (GeoJson.position centre)) = [centre] := by
    by_cases same : "distance" = field <;> simp [Json.Members.put, same, sent]
  cases negated <;>
    simp [negatedIf, document, nearDocument, only, matchAllDocument, body]

namespace Predicate

variable {type : FeatureType} {relation : DistanceRelation} {left right : Operand} {name : String}
  (paired : pairing? left right = some ⟨name, .geometry g, swapped⟩)

include paired

theorem compile_distance (stored : (type.resolve name).storage ≠ .absent)
    (found : g.centroid? = some centre) (limit : Float) (units : String) :
    compile type (.distance relation left right limit units) =
      { clause := .negatedIf (relation.negated swapped) (.filtered (.near (type.resolve name).field
          (Distance.toMetres limit units (type.resolve name).geographic) centre)) } := by
  simp [compile, distanceClause, paired, DistanceRelation.clause_of_centroid stored found,
    Compilation.ofExcept]

theorem positions_distance (stored : (type.resolve name).storage ≠ .absent)
    (found : g.centroid? = some centre) (finite : centre.Finite) (limit : Float) (units : String) :
    (compile type (.distance relation left right limit units)).clause.document.positions = [centre] := by
  rw [compile_distance paired stored found]
  exact Clause.positions_near _ _ finite _

omit paired

/-- A distance from a literal compiles without a note, centred on the centroid of the literal. The centre
of a point is in the world just if the point is, and so is that of a mean of positions of the world. -/
theorem distance_centre (type : FeatureType) (relation : DistanceRelation) (left right : Operand)
    (name : String) (g : Geometry Float) (swapped : Bool) (limit : Float) (units : String)
    (centre : Coord Float) (paired : pairing? left right = some ⟨name, .geometry g, swapped⟩)
    (stored : (type.resolve name).storage ≠ .absent) (found : g.centroid? = some centre) :
    let compiled := compile type (.distance relation left right limit units)
    compiled.exact = true ∧
    (centre.Finite → compiled.clause.document.positions = [centre]) ∧
    (∀ p, g = .point p → p.Finite →
      ((∀ c ∈ compiled.clause.document.positions, c.InWorld) ↔ p.InWorld)) ∧
    (g.IsMean → g.InWorld → ∀ c ∈ compiled.clause.document.positions, c.InWorld) := by
  have positions (finite : centre.Finite) :
      (compile type (.distance relation left right limit units)).clause.document.positions = [centre] :=
    positions_distance paired stored found finite limit units
  refine ⟨?_, positions, ?_, ?_⟩
  · rw [compile_distance paired stored found]
    rfl
  · rintro p rfl finite
    cases found
    rw [positions finite]
    exact List.forall_mem_singleton
  · intro mean inside
    have within := Geometry.centroid_inWorld inside mean found
    rw [positions within.finite]
    exact List.forall_mem_singleton.mpr within

def straits : Geometry Float := .multiPoint [⟨170, 80⟩, ⟨-170, 60⟩]

theorem centroid_straits : straits.centroid? = some ⟨0, 70⟩ := by decide +kernel

/-- They are taken for the same distance from Greenwich, but from a position of the world. -/
theorem distance_centre_of_straits :
    let near : Predicate :=
      .distance .within (.property "at") (.literal (.geometry straits)) 100.0 "km"
    pairing? (.property "at") (.literal (.geometry straits)) =
        some ⟨"at", .geometry straits, false⟩ ∧
      (sites.resolve "at").storage ≠ .absent ∧ straits.centroid? = some ⟨0, 70⟩ ∧
      (compile sites near).exact = true ∧
      (compile sites near).clause.document.positions = [⟨0, 70⟩] ∧
      ∀ c ∈ (compile sites near).clause.document.positions, c.InWorld := by
  intro near
  have inside : straits.InWorld := by decide
  have finite : (⟨0, 70⟩ : Coord Float).Finite := by decide
  have stored : (sites.resolve "at").storage ≠ .absent := nofun
  have few : straits.IsMean := (by decide : 2 < 2 ^ 45)
  obtain ⟨exact, positions, -, mean⟩ := distance_centre sites .within (.property "at")
    (.literal (.geometry straits)) "at" straits false 100.0 "km" ⟨0, 70⟩ rfl stored centroid_straits
  exact ⟨rfl, stored, centroid_straits, exact, positions finite, mean few inside⟩

/-- A position beyond the antimeridian and the pole is the centre as it stands. -/
theorem centre_beyond_the_world :
    ¬ ∀ (type : FeatureType) (relation : DistanceRelation) (left right : Operand) (name : String)
        (g : Geometry Float) (swapped : Bool) (limit : Float) (units : String) (centre : Coord Float),
      pairing? left right = some ⟨name, .geometry g, swapped⟩ →
      (type.resolve name).storage ≠ .absent → (type.resolve name).geographic = true → g.Finite →
      g.centroid? = some centre →
      ∀ c ∈ (compile type (.distance relation left right limit units)).clause.document.positions,
        c.InWorld := by
  intro inside
  let place : Operand := .literal (.geometry (.point ⟨200, 100⟩))
  have paired : pairing? (.property "at") place = some ⟨"at", .geometry (.point ⟨200, 100⟩), false⟩ := rfl
  have stored : (sites.resolve "at").storage ≠ .absent := nofun
  have finite : (⟨200, 100⟩ : Coord Float).Finite := by decide
  have positions : (compile sites (.distance .within (.property "at") place 1000.0
      "m")).clause.document.positions = [⟨200, 100⟩] :=
    positions_distance paired stored rfl finite 1000.0 "m"
  have beyond := inside sites .within (.property "at") place "at" (.point ⟨200, 100⟩) false 1000.0 "m"
    ⟨200, 100⟩ paired stored rfl (List.forall_mem_singleton.mpr finite) rfl ⟨200, 100⟩
    (positions ▸ List.mem_singleton_self _)
  exact absurd beyond (by decide)

end Predicate

end GeoSearch
