import GeoSearch.Proofs.Geometry.World
import GeoSearch.Proofs.Query.Spatial
/-!
Relations between a stored position and a polygon. The clause lists the exterior of the polygon and
leaves out its holes without a note, so that it selects the positions in a hole as well.
-/
namespace GeoSearch

variable {p : Polygon Float} {c : Coord Float} {relation : SpatialRelation} {swapped : Bool}

/-- A position lies on no ring of a polygon. -/
def Polygon.Clears (p : Polygon Float) (c : Coord Float) : Prop :=
  ∀ ring ∈ p.exterior :: p.interiors, locateInRing (ring.map Coord.exact) c.exact ≠ .boundary

instance (p : Polygon Float) (c : Coord Float) : Decidable (p.Clears c) :=
  inferInstanceAs (Decidable (∀ ring ∈ p.exterior :: p.interiors, _ ≠ _))

def Polygon.admits (p : Polygon Float) (c : Coord Float) : Bool :=
  ringAdmits p.exterior c && !p.interiors.any (ringAdmits · c)

theorem ringAdmits_nil : ringAdmits [] c = false := rfl

/-- On no ring of a polygon, a position is inside the polygon or outside. -/
theorem locate_polygon (clear : p.Clears c) :
    (Shape.ofGeometry (.polygon p)).locate c.exact =
      if p.admits c then .interior else .exterior := by
  by_cases none : p.exterior = []
  · have nothing : Shape.ofGeometry (.polygon p) = .empty := by
      rw [Shape.ofGeometry, Shape.ofPolygon, none]
      rfl
    simp [nothing, Polygon.admits, none, ringAdmits_nil, Shape.locate, Shape.empty, Shape.onBoundary,
      Shape.covers]
  · have drawn : Shape.ofGeometry (.polygon p) = ⟨[], [], [⟨p.exterior.map Coord.exact,
        p.interiors.map (List.map Coord.exact)⟩]⟩ := by
      rw [Shape.ofGeometry, Shape.ofPolygon, if_neg (mt List.isEmpty_iff.mp none)]
    obtain ⟨rim, holes⟩ := List.forall_mem_cons.mp clear
    have apart : ∀ hole ∈ p.interiors.map (List.map Coord.exact),
        locateInRing hole c.exact ≠ .boundary := List.forall_mem_map.mpr holes
    rw [drawn, Shape.locate_ofArea, locateInArea_of_clear rim apart]
    simp [Polygon.admits, ringAdmits, List.all_map, Function.comp_def]

namespace SpatialRelation

/-- The attribute lies within the literal, or the two intersect. -/
def isMembership (relation : SpatialRelation) (swapped : Bool) : Bool :=
  relation.isWithin swapped || relation = intersects

theorem cases_isMembership (membership : relation.isMembership swapped = true) :
    relation = within ∧ swapped = false ∨ relation = contains ∧ swapped = true ∨
      relation = intersects := by
  cases relation <;> cases swapped <;> simp_all [isMembership, isWithin]

/-- The clause lists the exterior. -/
theorem pointClause_polygon (membership : relation.isMembership swapped = true) (field : String)
    (around : Bool) : relation.pointClause field (.polygon p) swapped around =
      .ok (.filtered (.inRing field p.exterior)) := by
  have asked : (relation.isWithin swapped || decide (relation = intersects)) = true := membership
  simp [pointClause, asked, Geometry.polygon?]

/-- The relation looks at the holes, too. -/
theorem holdsPlanar_polygon (membership : relation.isMembership swapped = true) (clear : p.Clears c) :
    relation.holdsPlanar swapped (.polygon p) [.point c] = p.admits c := by
  have located := locate_polygon clear
  have point : Shape.ofGeometry (.point c) = .ofPoints [c] := rfl
  rcases cases_isMembership membership with ⟨rfl, rfl⟩ | ⟨rfl, rfl⟩ | rfl
  · simp only [holdsPlanar, reduceCtorEq, if_false, List.any_cons, List.any_nil, Bool.or_false,
      Bool.false_eq_true, ofRelation, Relation.of, point, Relation.within_point, located]
    cases p.admits c <;> rfl
  · simp only [holdsPlanar, reduceCtorEq, if_false, List.any_cons, List.any_nil, Bool.or_false,
      if_true, ofRelation, Relation.of, point, Relation.contains_point, located]
    cases p.admits c <;> rfl
  · cases swapped <;>
      simp only [holdsPlanar, reduceCtorEq, if_false, List.any_cons, List.any_nil, Bool.or_false,
        Bool.false_eq_true, if_true, ofRelation, Relation.of, point, Relation.intersects_point,
        Relation.intersects_point_right, located] <;>
      cases p.admits c <;> rfl

end SpatialRelation

/-- A polygon of the world stays as it is, unless it covers the world or has no coordinates. -/
theorem Attribute.prepared_polygon (a : Attribute) (inside : (Geometry.polygon p).InWorld)
    (ringed : p.Ringed) :
    a.prepared (.polygon p) = .world ∨ a.prepared (.polygon p) = .empty ∧ p.exterior = [] ∨
      a.prepared (.polygon p) = .clipped (.polygon p) := by
  have same : (Geometry.polygon p).intoWorld = .polygon p :=
    congrArg Geometry.polygon (Polygon.mapCoords_intoWorld inside ringed)
  unfold prepared
  split
  · unfold Geometry.sanitize
    split
    · next none =>
      have nothing : p.exterior ++ p.interiors.flatten = [] := List.isEmpty_iff.mp none
      exact .inr (.inl ⟨rfl, (List.append_eq_nil_iff.mp nothing).1⟩)
    · rw [same]
      split
      · exact .inl rfl
      · exact .inr (.inr rfl)
  · exact .inr (.inr rfl)

namespace Predicate

section

variable {type : FeatureType} {left right : Operand} {name : String}
  (paired : pairing? left right = some ⟨name, .geometry (.polygon p), swapped⟩)
  (membership : relation.isMembership swapped = true)
  (kept : (type.resolve name).prepared (.polygon p) = .clipped (.polygon p))

include paired membership kept

theorem compile_polygon (stored : (type.resolve name).storage = .point) :
    compile type (.spatial relation left right) =
      { clause := .filtered (.inRing (type.resolve name).field p.exterior) } := by
  apply compile_spatial paired
  rw [SpatialRelation.reasonedClause_of_prepared stored, kept]
  exact SpatialRelation.pointClause_polygon membership _ _

theorem holds_polygon {source : Json} (id : String)
    (one : (type.resolve name).geometries source = [.point c]) (clear : p.Clears c) :
    holds type id source (.spatial relation left right) = p.admits c := by
  rw [holds_spatial paired, SpatialRelation.holds_of_prepared, kept, one]
  exact SpatialRelation.holdsPlanar_polygon membership clear

end

/-- A membership in a polygon compiles without a note. For a position on no ring the clause asks for
the inside of the exterior, and the relation for the same without the holes: what the clause selects
beyond the relation is in a hole. -/
theorem polygon_membership (type : FeatureType) (relation : SpatialRelation) (left right : Operand)
    (name : String) (p : Polygon Float) (swapped : Bool) (native : Json → String → Json → Bool)
    (id : String) (source : Json) (c : Coord Float)
    (paired : pairing? left right = some ⟨name, .geometry (.polygon p), swapped⟩)
    (membership : relation.isMembership swapped = true)
    (stored : (type.resolve name).storage = .point)
    (inside : (Geometry.polygon p).InWorld) (ringed : p.Ringed)
    (one : (type.resolve name).geometries source = [.point c]) (clear : p.Clears c) :
    (compile type (.spatial relation left right)).exact = true ∧
    (compile type (.spatial relation left right)).clause.selects (.ofPositions native) id source =
      (holds type id source (.spatial relation left right) ||
        (ringAdmits p.exterior c && p.interiors.any (ringAdmits · c))) ∧
    ∀ field ring,
      (compile type (.spatial relation left right)).clause = .filtered (.inRing field ring) →
        field = (type.resolve name).field ∧ ring = p.exterior ∧
        holds type id source (.spatial relation left right) =
          (ringAdmits ring c && !p.interiors.any (ringAdmits · c)) := by
  have other : relation ≠ .disjoint := by
    rintro rfl
    cases swapped <;> cases membership
  rcases (type.resolve name).prepared_polygon inside ringed with whole | ⟨nothing, none⟩ | kept
  · obtain ⟨compiled, held⟩ := settled_world paired stored whole
    rw [compiled, held]
    exact ⟨rfl, rfl, nofun⟩
  · obtain ⟨compiled, held⟩ := settled_empty paired stored nothing other
    rw [compiled, held, none, ringAdmits_nil]
    exact ⟨rfl, rfl, nofun⟩
  · rw [compile_polygon paired membership kept stored,
      holds_polygon paired membership kept id one clear]
    refine ⟨rfl, ?_, ?_⟩
    · rw [Clause.selects_inRing _ one, Polygon.admits]
      cases ringAdmits p.exterior c <;> simp
    · rintro field ring ⟨⟩
      exact ⟨rfl, rfl, rfl⟩

def park : Polygon Float :=
  ⟨[⟨0, 0⟩, ⟨10, 0⟩, ⟨10, 10⟩, ⟨0, 10⟩, ⟨0, 0⟩], [[⟨4, 4⟩, ⟨4, 6⟩, ⟨6, 6⟩, ⟨6, 4⟩, ⟨4, 4⟩]]⟩

theorem ringed_park : park.Ringed :=
  ⟨rfl, List.forall_mem_singleton.mpr rfl⟩

theorem inWorld_park : (Geometry.polygon park).InWorld := by decide

set_option maxRecDepth 4000 in
theorem bounds_park : (Geometry.polygon park).bounds = some ⟨⟨0, 0⟩, ⟨10, 10⟩⟩ := by decide

theorem prepared_park :
    (sites.resolve "at").prepared (.polygon park) = .clipped (.polygon park) := by
  have same : (Geometry.polygon park).intoWorld = .polygon park :=
    congrArg Geometry.polygon (Polygon.mapCoords_intoWorld inWorld_park ringed_park)
  have small : (Geometry.polygon park).intoWorld.isWorld = false := by
    rw [same, Geometry.isWorld, bounds_park]
    rfl
  exact (Attribute.prepared_clipped rfl rfl small).trans (congrArg Sanitized.clipped same)

/-- A position beside the pond, and one in it. -/
theorem located_in_park :
    (park.Clears ⟨2, 5⟩ ∧ ringAdmits park.exterior ⟨2, 5⟩ = true ∧
      park.interiors.any (ringAdmits · ⟨2, 5⟩) = false) ∧
    park.Clears ⟨5, 5⟩ ∧ ringAdmits park.exterior ⟨5, 5⟩ = true ∧
      park.interiors.any (ringAdmits · ⟨5, 5⟩) = true := by
  decide +kernel

/-- A literal-first containment, of a position beside the pond. -/
theorem polygon_membership_in_park :
    let leaf : Predicate :=
      .spatial .contains (.literal (.geometry (.polygon park))) (.property "at")
    let source := Document.placed ⟨2, 5⟩ "at"
    pairing? (.literal (.geometry (.polygon park))) (.property "at") =
        some ⟨"at", .geometry (.polygon park), true⟩ ∧
      SpatialRelation.isMembership .contains true = true ∧
      (sites.resolve "at").storage = .point ∧ (Geometry.polygon park).InWorld ∧ park.Ringed ∧
      (sites.resolve "at").geometries source = [.point ⟨2, 5⟩] ∧ park.Clears ⟨2, 5⟩ ∧
      (compile sites leaf).exact = true ∧
      (compile sites leaf).clause.selects (.ofPositions fun _ _ _ => false) "1" source =
        holds sites "1" source leaf ∧
      holds sites "1" source leaf = true := by
  intro leaf source
  have paired : pairing? (.literal (.geometry (.polygon park))) (.property "at") =
    some ⟨"at", .geometry (.polygon park), true⟩ := rfl
  have one : (sites.resolve "at").geometries source = [.point ⟨2, 5⟩] :=
    (sites.resolve "at").geometries_placed ⟨2, 5⟩
  obtain ⟨⟨clear, around, dry⟩, -⟩ := located_in_park
  obtain ⟨exact, selected, -⟩ := polygon_membership sites .contains _ _ "at" park true
    (fun _ _ _ => false) "1" source ⟨2, 5⟩ paired rfl rfl inWorld_park ringed_park one clear
  rw [dry, Bool.and_false, Bool.or_false] at selected
  have held : holds sites "1" source leaf = park.admits ⟨2, 5⟩ :=
    holds_polygon paired rfl prepared_park "1" one clear
  have admitted : park.admits ⟨2, 5⟩ = true := by
    rw [Polygon.admits, around, dry]
    rfl
  exact ⟨rfl, rfl, rfl, inWorld_park, ringed_park, one, clear, exact, selected, held.trans admitted⟩

/-- A position in the pond is inside the ring of the clause and not within the park. -/
theorem position_in_a_hole_is_selected :
    ¬ ∀ (type : FeatureType) (relation : SpatialRelation) (left right : Operand) (name : String)
        (p : Polygon Float) (swapped : Bool) (id : String) (source : Json) (c : Coord Float),
      pairing? left right = some ⟨name, .geometry (.polygon p), swapped⟩ →
      relation.isMembership swapped = true → (type.resolve name).storage = .point →
      (Geometry.polygon p).InWorld → p.Ringed → (type.resolve name).geometries source = [.point c] →
      c.InWorld → p.Clears c → (compile type (.spatial relation left right)).exact = true →
      ∀ field ring,
        (compile type (.spatial relation left right)).clause = .filtered (.inRing field ring) →
        ringAdmits ring c = holds type id source (.spatial relation left right) := by
  intro agree
  have paired : pairing? (.property "at") (.literal (.geometry (.polygon park))) =
    some ⟨"at", .geometry (.polygon park), false⟩ := rfl
  have one : (sites.resolve "at").geometries (Document.placed ⟨5, 5⟩ "at") = [.point ⟨5, 5⟩] :=
    (sites.resolve "at").geometries_placed ⟨5, 5⟩
  obtain ⟨-, clear, around, wet⟩ := located_in_park
  have within : SpatialRelation.isMembership .within false = true := rfl
  have compiled := compile_polygon paired within prepared_park rfl
  have held := holds_polygon paired within prepared_park "1" one clear
  have same := agree sites .within _ _ "at" park false "1" _ ⟨5, 5⟩ paired rfl rfl inWorld_park
    ringed_park one (by decide) clear (by rw [compiled]; rfl) _ _
    (congrArg Compilation.clause compiled)
  rw [held, Polygon.admits, around, wet] at same
  cases same

end Predicate

end GeoSearch
