import GeoSearch.Proofs.Geometry.Wrap
import GeoSearch.Proofs.Query.Spatial
/-!
Box relations between a stored position and a literal. The clause and the relation both look at the
bounds of the literal in the world. But bounds that were as wide as the world before the literal was
brought into it open the clause to all longitudes, and the relation keeps to what is left of them.
-/
namespace GeoSearch

open SpatialRelation (goesAround boxClause)

variable {box : Rect Float} {c : Coord Float} {g h : Geometry Float} {swapped : Bool}

def Rect.level (box : Rect Float) (c : Coord Float) : Bool := box.low.y ≤ c.y && c.y ≤ box.high.y

/-! ### The clause -/

/-- The clause of a box in the world has its corners as they are. -/
theorem boxClause_inWorld (low : box.low.InWorld) (high : box.high.InWorld) (field : String)
    (around : Bool) : boxClause field around box =
      .filtered (.inBox field ⟨if around then -180.0 else box.low.x, box.high.y⟩
        ⟨if around then 180.0 else box.high.x, box.low.y⟩) := by
  obtain ⟨west, south⟩ := Coord.mk.inj (Coord.intoWorld_self low)
  obtain ⟨east, north⟩ := Coord.mk.inj (Coord.intoWorld_self high)
  rw [boxClause, west, south, east, north]
  cases around <;> rfl

/-- Corners in order admit what their box contains. -/
theorem cornersAdmit_iff (finite : box.Finite) (ordered : box.Ordered) :
    cornersAdmit ⟨box.low.x, box.high.y⟩ ⟨box.high.x, box.low.y⟩ c = true ↔ box.Contains c := by
  have order : ¬ box.high.x < box.low.x := by
    rw [Binary64.lt_iff finite.2.1 finite.1.1, not_lt, ← Binary64.le_iff finite.1.1 finite.2.1]
    exact ordered.1
  simp only [cornersAdmit, meridiansAdmit, if_neg order, Bool.and_eq_true, decide_eq_true_iff,
    Rect.Contains]
  exact and_comm

/-- Corners around the world admit all positions of the world between their latitudes. -/
theorem cornersAdmit_around (inside : c.InWorld) :
    cornersAdmit ⟨-180.0, box.high.y⟩ ⟨180.0, box.low.y⟩ c = box.level c := by
  have order : ¬ (180.0 : Float) < -180.0 := by decide
  have first : (-180.0 : Float) = Scalar.ofInt (-180) := by decide
  have last : (180.0 : Float) = Scalar.ofInt 180 := by decide
  have west : (-180.0 : Float) ≤ c.x := first ▸ inside.1.1
  have east : c.x ≤ (180.0 : Float) := last ▸ inside.1.2
  simp only [cornersAdmit, meridiansAdmit, if_neg order, west, east, decide_true, Bool.and_true,
    Rect.level]

theorem level_of_contains (contains : box.Contains c) : box.level c = true := by
  simpa [Rect.level] using contains.2

/-! ### The relation -/

namespace SpatialRelation

/-- A position is in the box relation to a literal whose bounds contain it. -/
theorem holdsPlanar_bbox (bounded : h.bounds = some box) (finite : box.Finite) (ordered : box.Ordered)
    (position : c.Finite) :
    bbox.holdsPlanar swapped h [.point c] = true ↔ box.Contains c := by
  have point : Shape.ofGeometry (.point c) = .ofPoints [c] := rfl
  rw [Rect.contains_iff finite position, ← Geometry.locate_rect finite ordered]
  cases swapped <;>
    simp [holdsPlanar, bounded, ofRelation, Relation.of, point, Relation.intersects_point,
      Relation.intersects_point_right]

theorem holdsPlanar_bbox_none (unbounded : h.bounds = none) :
    bbox.holdsPlanar swapped h geometries = false := by
  simp [holdsPlanar, unbounded]

theorem pointClause_bbox (field : String) (around : Bool) :
    bbox.pointClause field h swapped around =
      match h.bounds with
      | some box => .ok (boxClause field around box)
      | none => .error "literal has no envelope" := by
  cases bounded : h.bounds <;> cases swapped <;> simp [pointClause, isWithin, bounded]

end SpatialRelation

/-- What becomes of a literal in degrees. -/
theorem Attribute.prepared_geographic {a : Attribute} (geographic : a.geographic = true)
    (g : Geometry Float) :
    a.prepared g = .empty ∧ g.isEmpty = true ∨
      g.isEmpty = false ∧ g.intoWorld.isWorld = true ∧ a.prepared g = .world ∨
      g.isEmpty = false ∧ a.prepared g = .clipped g.intoWorld := by
  rw [prepared, if_pos geographic, Geometry.sanitize]
  cases g.isEmpty <;> cases g.intoWorld.isWorld <;> simp

namespace Predicate

section

variable {type : FeatureType} {left right : Operand} {name : String} {source : Json}
  (paired : pairing? left right = some ⟨name, .geometry g, swapped⟩)
  (kept : (type.resolve name).prepared g = .clipped g.intoWorld)

include paired kept

/-- A literal with coordinates of which none count for its bounds has no clause, and nothing stands in
the relation to it. -/
theorem box_of_unbounded (stored : (type.resolve name).storage = .point)
    (unbounded : g.intoWorld.bounds = none) (id : String) :
    compile type (.spatial .bbox left right) =
      { clause := .matchAll, notes := [⟨SpatialRelation.bbox.text, "literal has no envelope"⟩] } ∧
    holds type id source (.spatial .bbox left right) = false := by
  constructor
  · apply compile_spatial_error paired
    rw [SpatialRelation.reasonedClause_of_prepared stored, kept]
    dsimp only
    rw [SpatialRelation.pointClause_bbox, unbounded]
  · rw [holds_spatial paired, SpatialRelation.holds_of_prepared, kept]
    exact SpatialRelation.holdsPlanar_bbox_none unbounded

theorem compile_box (stored : (type.resolve name).storage = .point)
    (bounded : g.intoWorld.bounds = some box) :
    compile type (.spatial .bbox left right) =
      { clause := boxClause (type.resolve name).field (goesAround g) box } := by
  apply compile_spatial paired
  rw [SpatialRelation.reasonedClause_of_prepared stored, kept]
  dsimp only
  rw [SpatialRelation.pointClause_bbox, bounded]

theorem holds_box (finite : g.Finite) (bounded : g.intoWorld.bounds = some box)
    (one : (type.resolve name).geometries source = [.point c]) (position : c.Finite) (id : String) :
    holds type id source (.spatial .bbox left right) = true ↔ box.Contains c := by
  have frames := (Geometry.bounds_intoWorld finite bounded).1
  rw [holds_spatial paired, SpatialRelation.holds_of_prepared, kept, one]
  exact SpatialRelation.holdsPlanar_bbox bounded frames.finite frames.ordered position

/-- The clause of bounds in the world admits what they contain, and as the literal goes around the
world also what is level with them. -/
theorem selects_box (native : Json → String → Json → Bool) (finite : g.Finite)
    (stored : (type.resolve name).storage = .point)
    (bounded : g.intoWorld.bounds = some box)
    (one : (type.resolve name).geometries source = [.point c]) (inside : c.InWorld) (id : String) :
    (compile type (.spatial .bbox left right)).clause.selects (.ofPositions native) id source =
      (holds type id source (.spatial .bbox left right) || (goesAround g && box.level c)) := by
  obtain ⟨frames, low, high⟩ := Geometry.bounds_intoWorld finite bounded
  have held := holds_box paired kept finite bounded one inside.finite id
  rw [compile_box paired kept stored bounded, boxClause_inWorld low high, Clause.selects_inBox _ _ one]
  cases goesAround g with
  | false =>
    rw [Bool.false_and, Bool.or_false, Bool.eq_iff_iff, held]
    exact cornersAdmit_iff frames.finite frames.ordered
  | true =>
    refine (cornersAdmit_around inside).trans ?_
    rw [Bool.true_and, Bool.eq_iff_iff, Bool.or_eq_true, held]
    exact ⟨.inr, fun either => either.elim level_of_contains fun level => level⟩

end

/-- A box relation has a clause unless its literal has coordinates and no bounds. The clause selects the
positions that stand in the relation, and if the bounds of the literal, as written, are as wide as the
world, all that are between the latitudes of its bounds. -/
theorem box_membership (type : FeatureType) (left right : Operand) (name : String) (g : Geometry Float)
    (swapped : Bool) (native : Json → String → Json → Bool) (id : String) (source : Json)
    (c : Coord Float) (paired : pairing? left right = some ⟨name, .geometry g, swapped⟩)
    (stored : (type.resolve name).storage = .point)
    (geographic : (type.resolve name).geographic = true) (finite : g.Finite)
    (one : (type.resolve name).geometries source = [.point c]) (inside : c.InWorld) :
    let compiled := compile type (.spatial .bbox left right)
    let held := holds type id source (.spatial .bbox left right)
    let selected := compiled.clause.selects (.ofPositions native) id source
    compiled.exact = (g.isEmpty || g.intoWorld.bounds.isSome) ∧
    (compiled.exact = true →
      selected = (held || (goesAround g && g.intoWorld.bounds.any (·.level c)))) ∧
    (compiled.exact = false → selected = true ∧ held = false) := by
  have other : SpatialRelation.bbox ≠ .disjoint := nofun
  dsimp only
  rcases (type.resolve name).prepared_geographic geographic g with
    ⟨nothing, empty⟩ | ⟨some, whole, world⟩ | ⟨some, kept⟩
  · obtain ⟨compiled, held⟩ := settled_empty paired stored nothing other
    rw [compiled, held, empty, Geometry.bounds_of_isEmpty finite empty]
    exact ⟨rfl, fun _ => (Bool.and_false _).symm, nofun⟩
  · obtain ⟨compiled, held⟩ := settled_world paired stored world
    rw [compiled, held, some, Geometry.bounds_of_isWorld whole]
    exact ⟨rfl, fun _ => rfl, nofun⟩
  · cases bounded : g.intoWorld.bounds with
    | none =>
      obtain ⟨compiled, held⟩ := box_of_unbounded paired kept stored bounded id
      rw [compiled, held, some]
      exact ⟨rfl, nofun, fun _ => ⟨rfl, rfl⟩⟩
    | some box =>
      have compiled := compile_box paired kept stored bounded
      have selected := selects_box paired kept native finite stored bounded one inside id
      refine ⟨?_, fun _ => selected, ?_⟩ <;> rw [compiled]
      · exact (Bool.or_true _).symm
      · nofun

def belt : Geometry Float :=
  .polygon ⟨[⟨-190, -10⟩, ⟨190, -10⟩, ⟨190, 10⟩, ⟨-190, 10⟩, ⟨-190, -10⟩], []⟩

theorem finite_belt : belt.Finite := by decide

theorem bounds_belt : belt.bounds = some ⟨⟨-190, -10⟩, ⟨190, 10⟩⟩ ∧
    belt.intoWorld.bounds = some ⟨⟨-170, -10⟩, ⟨170, 10⟩⟩ := by
  decide +kernel

theorem goesAround_belt : goesAround belt = true := by
  rw [goesAround, bounds_belt.1]
  rfl

theorem prepared_belt : (sites.resolve "at").prepared belt = .clipped belt.intoWorld := by
  apply Attribute.prepared_clipped rfl rfl
  rw [Geometry.isWorld, bounds_belt.2]
  rfl

/-- A position to the east of Greenwich, in the box relation to the belt from either side. -/
theorem box_membership_in_belt :
    let leaf : Predicate := .spatial .bbox (.literal (.geometry belt)) (.property "at")
    let source := Document.placed ⟨10, 5⟩ "at"
    pairing? (.literal (.geometry belt)) (.property "at") = some ⟨"at", .geometry belt, true⟩ ∧
      (sites.resolve "at").storage = .point ∧ (sites.resolve "at").geographic = true ∧
      belt.Finite ∧ (sites.resolve "at").geometries source = [.point ⟨10, 5⟩] ∧
      (⟨10, 5⟩ : Coord Float).InWorld ∧ (compile sites leaf).exact = true ∧
      (compile sites leaf).clause.selects (.ofPositions fun _ _ _ => false) "1" source = true := by
  intro leaf source
  have paired : pairing? (.literal (.geometry belt)) (.property "at") =
    some ⟨"at", .geometry belt, true⟩ := rfl
  have one : (sites.resolve "at").geometries source = [.point ⟨10, 5⟩] :=
    (sites.resolve "at").geometries_placed ⟨10, 5⟩
  have inside : (⟨10, 5⟩ : Coord Float).InWorld := by decide
  obtain ⟨some, selected, -⟩ := box_membership sites _ _ "at" belt true (fun _ _ _ => false) "1" source
    ⟨10, 5⟩ paired rfl rfl finite_belt one inside
  have exact : (compile sites leaf).exact = true := some.trans (by rw [bounds_belt.2]; rfl)
  have level : Rect.level ⟨⟨-170, -10⟩, ⟨170, 10⟩⟩ ⟨10, 5⟩ = true := by decide
  have each := selected exact
  rw [goesAround_belt, bounds_belt.2, Option.any_some, level, Bool.and_true, Bool.or_true] at each
  exact ⟨rfl, rfl, rfl, finite_belt, one, inside, exact, each⟩

/-- A position near the antimeridian is selected for the belt and not in the box relation to it. -/
theorem position_beyond_a_belt_is_selected :
    ¬ ∀ (type : FeatureType) (left right : Operand) (name : String) (g : Geometry Float)
        (swapped : Bool) (id : String) (source : Json) (c : Coord Float),
      pairing? left right = some ⟨name, .geometry g, swapped⟩ →
      (type.resolve name).storage = .point → (type.resolve name).geographic = true → g.Finite →
      (type.resolve name).geometries source = [.point c] → c.InWorld →
      (compile type (.spatial .bbox left right)).exact = true →
      (compile type (.spatial .bbox left right)).clause.selects (.ofPositions fun _ _ _ => false) id
        source = holds type id source (.spatial .bbox left right) := by
  intro agree
  have paired : pairing? (.property "at") (.literal (.geometry belt)) =
    some ⟨"at", .geometry belt, false⟩ := rfl
  have one : (sites.resolve "at").geometries (Document.placed ⟨175, 0⟩ "at") = [.point ⟨175, 0⟩] :=
    (sites.resolve "at").geometries_placed ⟨175, 0⟩
  have inside : (⟨175, 0⟩ : Coord Float).InWorld := by decide
  have level : Rect.level ⟨⟨-170, -10⟩, ⟨170, 10⟩⟩ ⟨175, 0⟩ = true := by decide
  have held := holds_box paired prepared_belt finite_belt bounds_belt.2 one inside.finite "1"
  have selected := selects_box paired prepared_belt (fun _ _ _ => false) finite_belt rfl bounds_belt.2 one
    inside "1"
  have compiled := compile_box paired prepared_belt rfl bounds_belt.2
  have same := agree sites _ _ "at" belt false "1" _ ⟨175, 0⟩ paired rfl rfl finite_belt one inside
    (by rw [compiled]; rfl)
  rw [selected, goesAround_belt, level, Bool.and_true, Bool.or_true] at same
  exact absurd (held.mp same.symm).1.2 (by decide)

end Predicate

end GeoSearch
