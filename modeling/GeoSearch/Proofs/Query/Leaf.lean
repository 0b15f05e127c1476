import GeoSearch.Query.Placement
/-!
The leaves of a predicate that have a clause, and what the clause is: one on the attribute that the
leaf names, from the literals beside it.
-/
namespace GeoSearch

/-! ### Relations to geometries -/

namespace SpatialRelation

variable {relation : SpatialRelation} {a : Attribute} {field : String} {g : Geometry Float}
  {swapped around : Bool} {clause : Clause}

/-- A relation has a clause on its literal, in the world for an attribute in degrees, unless the clause
does not depend on the documents. -/
theorem clause_cases (compiled : relation.clause a g swapped = .ok clause) :
    clause = .matchAll ∨ clause = .matchNone ∨
      relation.storedClause a (if a.geographic then g.intoWorld else g) swapped (goesAround g) =
        .ok clause := by
  have reasoned : relation.reasonedClause a g swapped = .ok clause := by
    cases stated : relation.reasonedClause a g swapped with
    | ok _ =>
      rw [SpatialRelation.clause, stated] at compiled
      cases compiled
      rfl
    | error _ =>
      rw [SpatialRelation.clause, stated] at compiled
      cases compiled
  by_cases absent : a.storage = .absent
  · rw [reasonedClause, if_pos absent] at reasoned
    cases reasoned
  rw [reasonedClause, if_neg absent] at reasoned
  cases geographic : a.geographic with
  | false =>
    rw [geographic] at reasoned
    exact .inr (.inr reasoned)
  | true =>
    rw [geographic, if_pos rfl, Geometry.sanitize] at reasoned
    rw [if_pos rfl]
    cases empty : g.isEmpty with
    | true =>
      rw [empty] at reasoned
      have settled := Except.ok.inj reasoned
      split at settled
      · exact .inl settled.symm
      · exact .inr (.inl settled.symm)
    | false =>
      rw [empty] at reasoned
      cases whole : g.intoWorld.isWorld with
      | true =>
        rw [whole] at reasoned
        exact .inl (Except.ok.inj reasoned).symm
      | false =>
        rw [whole] at reasoned
        exact .inr (.inr reasoned)

/-- On stored positions a literal gives the ring of its exterior or the corners of its bounds. -/
theorem pointClause_cases (stored : relation.pointClause field g swapped around = .ok clause) :
    (∃ p, g.polygon? = some p ∧ clause = .filtered (.inRing field p.exterior)) ∨
      ∃ box, g.bounds = some box ∧ clause = boxClause field around box := by
  unfold pointClause at stored
  generalize asked : (if (relation.isWithin swapped || decide (relation = intersects)) = true then
    g.polygon?.map Polygon.exterior else none) = ring? at stored
  cases ring? with
  | some ring =>
    obtain ⟨p, ringed, rfl⟩ : ∃ p, g.polygon? = some p ∧ p.exterior = ring := by
      split at asked
      · exact Option.map_eq_some_iff.mp asked
      · cases asked
    cases stored
    exact .inl ⟨p, ringed, rfl⟩
  | none =>
    dsimp only at stored
    split at stored
    · cases bounded : g.bounds with
      | some box =>
        rw [bounded] at stored
        cases stored
        exact .inr ⟨box, rfl, rfl⟩
      | none =>
        rw [bounded] at stored
        cases stored
    · cases stored

theorem shapeClause_ok (stored : relation.shapeClause field g swapped = .ok clause) :
    ∃ shape, relation.shapeRelation? swapped = some shape ∧
      clause = .filtered (.shape field shape g) := by
  unfold shapeClause at stored
  cases asked : relation.shapeRelation? swapped with
  | none => simp [asked] at stored
  | some shape => exact ⟨shape, rfl, by simpa [asked] using stored.symm⟩

/-- However a geometry is stored, its clause selects by the field alone and does not score. -/
theorem storedClause_ok (stored : relation.storedClause a g swapped around = .ok clause) :
    ∃ own, own.field? = some a.field ∧ clause = .filtered own := by
  unfold storedClause at stored
  split at stored
  · rcases pointClause_cases stored with ⟨p, -, rfl⟩ | ⟨box, -, rfl⟩
    · exact ⟨_, rfl, rfl⟩
    · exact ⟨_, rfl, rfl⟩
  · obtain ⟨shape, -, rfl⟩ := shapeClause_ok stored
    exact ⟨_, rfl, rfl⟩
  · cases stored

end SpatialRelation

theorem DistanceRelation.clause_ok {relation : DistanceRelation} {a : Attribute} {g : Geometry Float}
    {limit : Float} {units : String} {swapped : Bool} {clause : Clause}
    (compiled : relation.clause a g limit units swapped = .ok clause) :
    ∃ centre, g.centroid? = some centre ∧
      clause = .negatedIf (relation.negated swapped)
        (.filtered (.near a.field (Distance.toMetres limit units a.geographic) centre)) := by
  unfold DistanceRelation.clause at compiled
  split at compiled
  · cases compiled
  · split at compiled
    · cases compiled
    · next centre found => exact ⟨centre, found, (Except.ok.inj compiled).symm⟩

/-! ### Leaves -/

namespace Predicate

variable {type : FeatureType} {left right : Operand} {clause : Clause}

theorem compareClause_ok {relation : Comparison}
    (compiled : compareClause type relation left right = .ok clause) :
    ∃ p value, pairing? left right = some p ∧
      (type.resolve p.property).clauseValue? p.literal = some value ∧
      clause = (type.resolve p.property).enclose
        ((if p.swapped then relation.mirror else relation).clause (type.resolve p.property).field
          value) := by
  unfold compareClause at compiled
  cases paired : pairing? left right with
  | none => simp [paired] at compiled
  | some p =>
    cases sent : (type.resolve p.property).clauseValue? p.literal with
    | none => simp [paired, sent] at compiled
    | some value => exact ⟨p, value, rfl, sent, by simpa [paired, sent] using compiled.symm⟩

theorem betweenClause_ok {operand lower upper : Operand}
    (compiled : betweenClause type operand lower upper = .ok clause) :
    ∃ name low high lowValue highValue, operand = .property name ∧ lower = .literal low ∧
      upper = .literal high ∧ (type.resolve name).clauseValue? low = some lowValue ∧
      (type.resolve name).clauseValue? high = some highValue ∧
      clause = (type.resolve name).enclose
        (.range (type.resolve name).field [(.atLeast, lowValue), (.atMost, highValue)]) := by
  unfold betweenClause at compiled
  split at compiled
  · next name low high =>
    cases lowSent : (type.resolve name).clauseValue? low with
    | none => simp [lowSent] at compiled
    | some lowValue =>
      cases highSent : (type.resolve name).clauseValue? high with
      | none => simp [lowSent, highSent] at compiled
      | some highValue =>
        exact ⟨name, low, high, lowValue, highValue, rfl, rfl, rfl, lowSent, highSent,
          by simpa [lowSent, highSent] using compiled.symm⟩
  · cases compiled

theorem likeClause_ok {operand : Operand} {pattern : String} {w : Wildcards}
    (compiled : likeClause type operand pattern w = .ok clause) :
    ∃ name, operand = .property name ∧
      clause = (type.resolve name).enclose
        (if (type.resolve name).analyzed then
          .queryString (type.resolve name).field (Like.queryString.render w pattern)
        else .regexp (type.resolve name).field (Like.regexp.render w pattern)) := by
  cases operand with
  | property name => exact ⟨name, rfl, (Except.ok.inj compiled).symm⟩
  | literal _ => cases compiled

theorem isNullClause_ok {operand : Operand} (compiled : isNullClause type operand = .ok clause) :
    ∃ name, operand = .property name ∧ clause = .mustNot (presentClause type name) := by
  cases operand with
  | property name => exact ⟨name, rfl, (Except.ok.inj compiled).symm⟩
  | literal _ => cases compiled

theorem spatialClause_ok {relation : SpatialRelation}
    (compiled : spatialClause type relation left right = .ok clause) :
    ∃ name g swapped, pairing? left right = some ⟨name, .geometry g, swapped⟩ ∧
      relation.clause (type.resolve name) g swapped = .ok clause := by
  unfold spatialClause at compiled
  split at compiled
  · cases compiled
  · next name g swapped paired => exact ⟨name, g, swapped, paired, compiled⟩
  · cases compiled

theorem distanceClause_ok {relation : DistanceRelation} {limit : Float} {units : String}
    (compiled : distanceClause type relation left right limit units = .ok clause) :
    ∃ name g swapped, pairing? left right = some ⟨name, .geometry g, swapped⟩ ∧
      relation.clause (type.resolve name) g limit units swapped = .ok clause := by
  unfold distanceClause at compiled
  split at compiled
  · cases compiled
  · next name g swapped paired => exact ⟨name, g, swapped, paired, compiled⟩
  · cases compiled

theorem temporalClause_ok {relation : TemporalRelation}
    (compiled : temporalClause type relation left right = .ok clause) :
    ∃ p window, pairing? left right = some p ∧
      relation.literalWindow p.literal p.swapped = .ok window ∧
      clause = (type.resolve p.property).enclose (window.clause (type.resolve p.property)) := by
  unfold temporalClause at compiled
  cases paired : pairing? left right with
  | none => simp [paired] at compiled
  | some p =>
    cases found : relation.literalWindow p.literal p.swapped with
    | error note => simp [paired, TemporalRelation.clause, found, Except.map] at compiled
    | ok window =>
      exact ⟨p, window, rfl, found,
        by simpa [paired, TemporalRelation.clause, found, Except.map] using compiled.symm⟩

end Predicate

end GeoSearch
