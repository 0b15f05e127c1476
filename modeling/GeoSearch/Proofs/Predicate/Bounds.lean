import GeoSearch.Predicate.Bounds
import GeoSearch.Proofs.Geometry.Relation
import GeoSearch.Proofs.Geometry.World
import GeoSearch.Proofs.Predicate.Document
/-!
The bounds of a predicate never exclude a match. If a feature whose field is one position in the world
satisfies a predicate on that field, the bounds of the predicate admit the position.
-/
namespace GeoSearch

open Binary64 (value)

/-! ### Bounds -/

namespace Coord.Finite

variable {c d : Coord Float} (first : c.Finite) (second : d.Finite)

include first second

theorem least : Coord.Finite ⟨Scalar.least c.x d.x, Scalar.least c.y d.y⟩ :=
  ⟨Binary64.finite_least first.1 second.1, Binary64.finite_least first.2 second.2⟩

theorem greatest : Coord.Finite ⟨Scalar.greatest c.x d.x, Scalar.greatest c.y d.y⟩ :=
  ⟨Binary64.finite_greatest first.1 second.1, Binary64.finite_greatest first.2 second.2⟩

end Coord.Finite

theorem Rect.finite_ofCorners {a b : Coord Float} (first : a.Finite) (second : b.Finite) :
    (ofCorners a b).Finite := by
  have ends {x y : Float} (left : x.isFinite = true) (right : y.isFinite = true) :
      (if Scalar.lt x y then (x, y) else (y, x)).1.isFinite = true ∧
        (if Scalar.lt x y then (x, y) else (y, x)).2.isFinite = true := by
    split
    · exact ⟨left, right⟩
    · exact ⟨right, left⟩
  obtain ⟨west, east⟩ := ends first.1 second.1
  obtain ⟨south, north⟩ := ends first.2 second.2
  exact ⟨⟨west, south⟩, east, north⟩

/-- A position between two corners is in their box. -/
theorem Rect.holds_ofCorners {a b : Coord Float} {p : Position} (first : a.Finite) (second : b.Finite)
    (left : value a.x ≤ p.x) (right : p.x ≤ value b.x) (below : value a.y ≤ p.y)
    (above : p.y ≤ value b.y) : (ofCorners a b).Holds p := by
  have across : Ranges a.x b.x ([a, b].map (·.x)) :=
    ranges_of_ends first.1 second.1 (left.trans right) (by simp) (by simp) (by simp)
  have along : Ranges a.y b.y ([a, b].map (·.y)) :=
    ranges_of_ends first.2 second.2 (below.trans above) (by simp) (by simp) (by simp)
  have start : a.exact ∈ [a, b].map Coord.exact := by simp
  have stop : b.exact ∈ [a, b].map Coord.exact := by simp
  rw [(frames_ofCorners across along).holds_iff]
  exact ⟨⟨_, start, left⟩, ⟨_, stop, right⟩, ⟨_, start, below⟩, ⟨_, stop, above⟩⟩

namespace Bounds

def Finite : Bounds → Prop
  | envelope box => box.Finite
  | _ => True

def Keeps : Bounds → Position → Prop
  | world, _ => True
  | empty, _ => False
  | envelope box, p => box.Holds p

def Admits : Bounds → Coord Float → Prop
  | world, _ => True
  | empty, _ => False
  | envelope box, c => box.Contains c

variable {a b : Bounds} {p : Position} {c : Coord Float}

theorem admits_iff (finite : b.Finite) (known : c.Finite) : b.Admits c ↔ b.Keeps c.exact := by
  cases b with
  | world => exact Iff.rfl
  | empty => exact Iff.rfl
  | envelope box => exact Rect.contains_iff finite known

theorem finite_intersect (first : a.Finite) (second : b.Finite) : (a.intersect b).Finite := by
  cases a <;> cases b <;> try trivial
  rw [intersect]
  dsimp only
  split
  · trivial
  · exact Rect.finite_ofCorners (first.1.greatest second.1) (first.2.least second.2)

/-- What both bounds hold is in their intersection. -/
theorem keeps_intersect (first : a.Finite) (second : b.Finite) (here : a.Keeps p) (there : b.Keeps p) :
    (a.intersect b).Keeps p := by
  cases a with
  | empty => exact here.elim
  | world => cases b <;> exact there
  | envelope box =>
    cases b with
    | empty => exact there.elim
    | world => exact here
    | envelope other =>
      have low := first.1.greatest second.1
      have high := first.2.least second.2
      have left := (Binary64.value_greatest first.1.1 second.1.1).trans_le
        (max_le here.left there.left)
      have right := (le_min here.right there.right).trans_eq
        (Binary64.value_least first.2.1 second.2.1).symm
      have below := (Binary64.value_greatest first.1.2 second.1.2).trans_le
        (max_le here.below there.below)
      have above := (le_min here.above there.above).trans_eq
        (Binary64.value_least first.2.2 second.2.2).symm
      rw [intersect]
      dsimp only
      split
      -- boxes beyond each other hold no position in common
      · next beyond =>
        rcases Bool.or_eq_true_iff.mp beyond with across | along
        · have less := (Binary64.lt_iff high.1 low.1).mp (of_decide_eq_true across)
          exact absurd (left.trans right) (not_le.mpr less)
        · have less := (Binary64.lt_iff high.2 low.2).mp (of_decide_eq_true along)
          exact absurd (below.trans above) (not_le.mpr less)
      · exact Rect.holds_ofCorners low high left right below above

theorem finite_union (first : a.Finite) (second : b.Finite) : (a.union b).Finite := by
  cases a <;> cases b <;> try trivial
  exact Rect.finite_ofCorners (first.1.least second.1) (first.2.greatest second.2)

/-- What one of the bounds holds is in their union. -/
theorem keeps_union (first : a.Finite) (second : b.Finite) (either : a.Keeps p ∨ b.Keeps p) :
    (a.union b).Keeps p := by
  cases a with
  | world => trivial
  | empty =>
    have there := either.resolve_left id
    cases b <;> exact there
  | envelope box =>
    cases b with
    | world => trivial
    | empty => exact either.resolve_right id
    | envelope other =>
      have left := (Binary64.value_least first.1.1 second.1.1).trans_le
        (min_le_iff.mpr (either.imp (·.left) (·.left)))
      have right := (le_max_iff.mpr (either.imp (·.right) (·.right))).trans_eq
        (Binary64.value_greatest first.2.1 second.2.1).symm
      have below := (Binary64.value_least first.1.2 second.1.2).trans_le
        (min_le_iff.mpr (either.imp (·.below) (·.below)))
      have above := (le_max_iff.mpr (either.imp (·.above) (·.above))).trans_eq
        (Binary64.value_greatest first.2.2 second.2.2).symm
      exact Rect.holds_ofCorners (first.1.least second.1) (first.2.greatest second.2)
        left right below above

variable {bounds : List Bounds}

theorem finite_foldl {merge : Bounds → Bounds → Bounds}
    (kept : ∀ {a b : Bounds}, a.Finite → b.Finite → (merge a b).Finite)
    (finite : ∀ b ∈ bounds, b.Finite) (first : a.Finite) : (bounds.foldl merge a).Finite := by
  induction bounds generalizing a with
  | nil => exact first
  | cons b rest ih =>
    exact ih (fun other member => finite other (List.mem_cons_of_mem _ member))
      (kept first (finite b (List.mem_cons_self ..)))

/-- A conjunction holds what all its parts hold. -/
theorem keeps_foldl_intersect (finite : ∀ b ∈ bounds, b.Finite) (first : a.Finite)
    (each : ∀ b ∈ bounds, b.Keeps p) (here : a.Keeps p) : (bounds.foldl intersect a).Keeps p := by
  induction bounds generalizing a with
  | nil => exact here
  | cons b rest ih =>
    have known := finite b (List.mem_cons_self ..)
    have there := each b (List.mem_cons_self ..)
    exact ih (fun other member => finite other (List.mem_cons_of_mem _ member))
      (finite_intersect first known) (fun other member => each other (List.mem_cons_of_mem _ member))
      (keeps_intersect first known here there)

/-- A disjunction holds what one of its parts holds. -/
theorem keeps_foldl_union (finite : ∀ b ∈ bounds, b.Finite) (first : a.Finite)
    (either : a.Keeps p ∨ ∃ b ∈ bounds, b.Keeps p) : (bounds.foldl union a).Keeps p := by
  induction bounds generalizing a with
  | nil =>
    rcases either with here | ⟨b, member, -⟩
    · exact here
    · cases member
  | cons b rest ih =>
    have known := finite b (List.mem_cons_self ..)
    refine ih (fun other member => finite other (List.mem_cons_of_mem _ member))
      (finite_union first known) ?_
    rcases either with here | ⟨other, member, there⟩
    · exact .inl (keeps_union first known (.inl here))
    · rcases List.mem_cons.mp member with rfl | later
      · exact .inl (keeps_union first known (.inr there))
      · exact .inr ⟨other, later, there⟩

end Bounds

/-! ### Spatial relations -/

namespace Geometry

variable {g : Geometry Float} {c : Coord Float} {p : Position} {relation : SpatialRelation}
  {swapped : Bool}

/-- The bounds of a literal hold what its frame spans. -/
theorem keeps_of_spans (finite : g.Finite) (formed : g.WellFormed)
    (spans : Spans (g.frame.map Coord.exact) p) : (Bounds.ofLiteral (.geometry g)).Keeps p := by
  have framed := framed_bounds g finite formed
  unfold Bounds.ofLiteral
  dsimp only
  split
  · next box found =>
    rw [found] at framed
    exact framed.holds_iff.mpr spans
  · next none =>
    rw [none] at framed
    have nothing : g.frame = [] := framed
    rw [nothing] at spans
    obtain ⟨⟨_, member, -⟩, -⟩ := spans
    cases member

theorem finite_ofLiteral (finite : g.Finite) (formed : g.WellFormed) :
    (Bounds.ofLiteral (.geometry g)).Finite := by
  have framed := framed_bounds g finite formed
  unfold Bounds.ofLiteral
  dsimp only
  split
  · next box found =>
    rw [found] at framed
    exact framed.finite
  · trivial

/-- A position related to a geometry, one way or the other, is not outside of it. -/
theorem locate_of_related (other : relation ≠ .disjoint)
    (related : relation.ofRelation
      (if swapped then Relation.of g (.point c) else Relation.of (.point c) g) = true) :
    (Shape.ofGeometry g).locate c.exact ≠ .exterior := by
  cases swapped with
  | true => exact Relation.locate_of_relation_swapped other related
  | false => exact Relation.locate_of_relation other related

/-- What stands in a relation to a geometry, or to its box, is spanned by its frame. -/
theorem spans_of_holdsPlanar (finite : g.Finite) (formed : g.WellFormed) (other : relation ≠ .disjoint)
    (holds : relation.holdsPlanar swapped g [.point c] = true) :
    Spans (g.frame.map Coord.exact) c.exact := by
  unfold SpatialRelation.holdsPlanar at holds
  by_cases box : relation = .bbox
  · rw [if_pos box] at holds
    have framed := framed_bounds g finite formed
    cases found : g.bounds with
    | none =>
      rw [found] at holds
      cases holds
    | some box =>
      rw [found] at holds framed
      simp only [Option.map_some, List.any_cons, List.any_nil, Bool.or_false] at holds
      have known := finite_rect framed.finite
      have spans := spans_of_locate known framed.ordered (locate_of_related other holds)
      exact framed.holds_iff.mp ((framed_rect known framed.ordered).holds_iff.mpr spans)
  · rw [if_neg box] at holds
    simp only [List.any_cons, List.any_nil, Bool.or_false] at holds
    exact spans_of_locate finite formed (locate_of_related other holds)

/-- The whole world holds a position of the world. -/
theorem spans_of_isWorld (finite : g.Finite) (formed : g.WellFormed) (whole : g.isWorld = true)
    (place : c.InWorld) : Spans (g.frame.map Coord.exact) c.exact := by
  have framed := framed_bounds g finite formed
  unfold isWorld at whole
  cases found : g.bounds with
  | none =>
    rw [found] at whole
    cases whole
  | some box =>
    rw [found] at whole framed
    obtain ⟨low, high⟩ := Bool.and_eq_true_iff.mp (Bool.and_eq_true_iff.mp whole).1
    have low' := Coord.mk.inj (Coord.exact_of_same framed.finite.1 finite_world.1 low)
    have high' := Coord.mk.inj (Coord.exact_of_same framed.finite.2 finite_world.2 high)
    obtain ⟨left, right, below, above⟩ := place.holds
    exact framed.holds_iff.mp ⟨low'.1.trans_le left, right.trans_eq high'.1.symm,
      low'.2.trans_le below, above.trans_eq high'.2.symm⟩

/-- What stands in a relation to a literal is spanned by its frame, whether the literal is brought into
the world first or not. -/
theorem spans_of_holds {a : Attribute} {source : Json} (inside : g.InWorld) (formed : g.WellFormed)
    (place : c.InWorld) (one : a.geometries source = [.point c]) (other : relation ≠ .disjoint)
    (holds : relation.holds a swapped g source = true) :
    Spans (g.frame.map Coord.exact) c.exact := by
  have again := redrawn_intoWorld g inside formed
  unfold SpatialRelation.holds at holds
  rw [one] at holds
  split at holds
  · rw [← again.frame]
    unfold sanitize at holds
    by_cases none : g.isEmpty
    · rw [if_pos none] at holds
      exact absurd (of_decide_eq_true holds) other
    rw [if_neg none] at holds
    by_cases whole : g.intoWorld.isWorld
    · exact spans_of_isWorld again.finite again.formed whole place
    · rw [if_neg whole] at holds
      exact spans_of_holdsPlanar again.finite again.formed other holds
  · exact spans_of_holdsPlanar inside.finite formed other holds

end Geometry

/-! ### Predicates -/

namespace Predicate

variable {type : FeatureType} {a : Attribute} {source : Json} {id : String} {c : Coord Float}
  {p : Predicate}

/-- A leaf that is no distance, and if it is spatial, relates the attribute to a geometry of the
world. -/
def Placed (type : FeatureType) (a : Attribute) : Predicate → Prop
  | .spatial _ left right => ∀ pairing, pairing? left right = some pairing →
    type.resolve pairing.property = a ∧
      ∀ g, pairing.literal = .geometry g → g.InWorld ∧ g.WellFormed
  | .distance .. => False
  | _ => True

theorem childBounds_eq_map (children : List Predicate) :
    childBounds children = children.map bounds := by
  induction children with
  | nil => rfl
  | cons child rest ih => rw [childBounds, ih, List.map_cons]

theorem bounds_and (children : List Predicate) :
    (and children).bounds = (children.map bounds).foldl .intersect .world := by
  rw [bounds, childBounds_eq_map]

/-- A disjunction of nothing is open. -/
theorem bounds_or_cons (first : Predicate) (rest : List Predicate) :
    (or (first :: rest)).bounds = (rest.map bounds).foldl .union first.bounds := by
  rw [bounds, childBounds, childBounds_eq_map]

/-- The bounds of a spatial relation are those of its literal. -/
theorem bounds_of_spatial {relation : SpatialRelation} {left right : Operand}
    (placed : (spatial relation left right).Placed type a) (one : a.geometries source = [.point c])
    (place : c.InWorld) : (spatial relation left right).bounds.Finite ∧
      ((spatial relation left right).holds type id source = true →
        (spatial relation left right).bounds.Keeps c.exact) := by
  have open' : Bounds.world.Finite ∧ ((spatial relation left right).holds type id source = true →
    Bounds.world.Keeps c.exact) := ⟨trivial, fun _ => trivial⟩
  rw [bounds]
  by_cases other : relation = .disjoint
  · rw [if_pos other]
    exact open'
  rw [if_neg other, Bounds.ofOperands]
  cases paired : pairing? left right with
  | none => exact open'
  | some pairing =>
    obtain ⟨name, literal, swapped⟩ := pairing
    obtain ⟨here, formed⟩ := placed _ paired
    cases literal with
    | value => exact open'
    | instant => exact open'
    | period => exact open'
    | geometry g =>
      obtain ⟨inside, formed⟩ := formed g rfl
      refine ⟨Geometry.finite_ofLiteral inside.finite formed, ?_⟩
      intro holds
      rw [Predicate.holds, paired] at holds
      dsimp only at here holds
      rw [here] at holds
      exact Geometry.keeps_of_spans inside.finite formed
        (Geometry.spans_of_holds inside formed place one other holds)

/-- The bounds are finite, and they hold the position of every match. -/
theorem bounds_keep_match (placed : ∀ leaf ∈ p.leaves, leaf.Placed type a)
    (one : a.geometries source = [.point c]) (place : c.InWorld) :
    p.bounds.Finite ∧ (p.holds type id source = true → p.bounds.Keeps c.exact) := by
  induction p using tree_induction with
  | everything => exact ⟨trivial, fun _ => trivial⟩
  | nothing => exact ⟨trivial, nofun⟩
  | not child ih => exact ⟨trivial, fun _ => trivial⟩
  | and children ih =>
    have each (child : Predicate) (member : child ∈ children) :=
      ih child member fun leaf below => placed leaf (leaves_subset_and member below)
    have finite : ∀ b ∈ children.map bounds, b.Finite := by
      intro b member
      obtain ⟨child, stands, rfl⟩ := List.mem_map.mp member
      exact (each child stands).1
    have start : Bounds.world.Finite := trivial
    rw [bounds_and]
    refine ⟨Bounds.finite_foldl Bounds.finite_intersect finite start, ?_⟩
    intro holds
    rw [holds_and, List.all_eq_true] at holds
    refine Bounds.keeps_foldl_intersect finite start ?_ trivial
    intro b member
    obtain ⟨child, stands, rfl⟩ := List.mem_map.mp member
    exact (each child stands).2 (holds child stands)
  | or children ih =>
    have each (child : Predicate) (member : child ∈ children) :=
      ih child member fun leaf below => placed leaf (leaves_subset_or member below)
    cases children with
    | nil => exact ⟨trivial, fun _ => trivial⟩
    | cons first rest =>
      have start := (each first (List.mem_cons_self ..)).1
      have finite : ∀ b ∈ rest.map bounds, b.Finite := by
        intro b member
        obtain ⟨child, stands, rfl⟩ := List.mem_map.mp member
        exact (each child (List.mem_cons_of_mem _ stands)).1
      rw [bounds_or_cons]
      refine ⟨Bounds.finite_foldl Bounds.finite_union finite start, ?_⟩
      intro holds
      rw [holds_or, List.any_eq_true] at holds
      obtain ⟨child, stands, holds⟩ := holds
      have kept := (each child stands).2 holds
      -- the fold starts at the first member, which may be the one that holds
      refine Bounds.keeps_foldl_union finite start ?_
      rcases List.mem_cons.mp stands with rfl | later
      · exact .inl kept
      · exact .inr ⟨_, List.mem_map_of_mem later, kept⟩
  | leaf p leaf =>
    have placed := placed p (by simp [leaves_of_isLeaf leaf])
    cases p with
    | spatial relation left right => exact bounds_of_spatial placed one place
    | distance => exact placed.elim
    | everything => cases leaf
    | nothing => cases leaf
    | and => cases leaf
    | or => cases leaf
    | not => cases leaf
    | _ => exact ⟨trivial, fun _ => trivial⟩

/-- The bounds of a predicate admit every match. -/
theorem bounds_admit_match (placed : ∀ leaf ∈ p.leaves, leaf.Placed type a)
    (one : a.geometries source = [.point c]) (place : c.InWorld)
    (holds : p.holds type id source = true) : p.bounds.Admits c := by
  have kept : p.bounds.Finite ∧ (p.holds type id source = true → p.bounds.Keeps c.exact) :=
    bounds_keep_match placed one place
  obtain ⟨finite, keeps⟩ := kept
  exact (Bounds.admits_iff finite place.finite).mpr (keeps holds)

/-- A position that is the corner of one box, in the world, and under a negation. -/
theorem corner_is_admitted :
    let type : FeatureType := { name := "sites", attributes := [.ofGeometry "at" .point] }
    let a : Attribute := .ofGeometry "at" .point
    let at' : Json := .array [.number (.float 1), .number (.float 1)]
    let source : Json := .object [("at", at')]
    let related (relation : SpatialRelation) (g : Geometry Float) : Predicate :=
      .spatial relation (.property "at") (.literal (.geometry g))
    let p : Predicate := .and
      [related .intersects (.multiPoint [⟨-3, 2⟩, ⟨1, 1⟩]),
        .or [.nothing, related .within (.rect world)],
        .not (related .equals (.point ⟨2, 1⟩)), related .disjoint (.collection [])]
    (∀ leaf ∈ p.leaves, leaf.Placed type a) ∧ a.geometries source = [.point ⟨1, 1⟩] ∧
      Coord.InWorld ⟨1, 1⟩ ∧ p.holds type "7" source = true ∧ p.bounds.Admits ⟨1, 1⟩ := by
  intro type a at' source related p
  have path : Document.segments a.field = ["at"] := by decide
  have member : Document.single? source a.field = some at' := by
    rw [Document.single?, path]
    rfl
  have one : a.geometries source = [.point ⟨1, 1⟩] := by
    unfold Attribute.geometries
    rw [member]
    rfl
  have place : Coord.InWorld ⟨1, 1⟩ := by decide
  have holds : p.holds type "7" source = true := by decide +kernel
  have placed : ∀ leaf ∈ p.leaves, leaf.Placed type a := by
    intro leaf member
    have known : leaf = related .intersects (.multiPoint [⟨-3, 2⟩, ⟨1, 1⟩]) ∨
        leaf = related .within (.rect world) ∨ leaf = related .equals (.point ⟨2, 1⟩) ∨
        leaf = related .disjoint (.collection []) := by
      simpa only [p, related, leaves, allLeaves, List.append_nil, List.nil_append, List.cons_append,
        List.mem_cons, List.not_mem_nil, or_false] using member
    have placed {relation : SpatialRelation} {g : Geometry Float} (inside : g.InWorld)
        (formed : g.WellFormed) : (related relation g).Placed type a := by
      rintro pairing ⟨⟩
      refine ⟨rfl, ?_⟩
      rintro g ⟨⟩
      exact ⟨inside, formed⟩
    rcases known with rfl | rfl | rfl | rfl
    · apply placed
      · decide
      · trivial
    · apply placed
      · decide +kernel
      · constructor <;> rfl
    · apply placed
      · decide
      · trivial
    · apply placed
      · decide
      · trivial
  clear_value p
  exact ⟨placed, one, place, holds, bounds_admit_match placed one place holds⟩

end Predicate

end GeoSearch
