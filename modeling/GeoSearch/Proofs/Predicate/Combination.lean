import GeoSearch.Proofs.Predicate.Buffer
/-!
Bounds of combinations. Bounds whose edges are numbers are ordered by what lies in what. In that order
an intersection is the greatest bounds within both, and a union the least around both, so that the
bounds of a conjunction or a disjunction depend on nothing but what its members are.
-/
namespace GeoSearch

open Binary64 (extended)

/-! ### Boxes of numbers -/

namespace Coord

def IsNumber (c : Coord Float) : Prop := c.x.isNaN = false ∧ c.y.isNaN = false

variable {c d : Coord Float}

theorem IsNumber.least (first : c.IsNumber) (second : d.IsNumber) :
    IsNumber ⟨Scalar.least c.x d.x, Scalar.least c.y d.y⟩ :=
  ⟨Binary64.number_least first.1 second.1, Binary64.number_least first.2 second.2⟩

theorem IsNumber.greatest (first : c.IsNumber) (second : d.IsNumber) :
    IsNumber ⟨Scalar.greatest c.x d.x, Scalar.greatest c.y d.y⟩ :=
  ⟨Binary64.number_greatest first.1 second.1, Binary64.number_greatest first.2 second.2⟩

end Coord

namespace Rect

variable {a b c : Rect Float} {p q : Coord Float} {x y : Float}

/-- The corners of an ordered box are numbers: NaN is in no order. -/
theorem Ordered.numbers (ordered : a.Ordered) : a.low.IsNumber ∧ a.high.IsNumber := by
  obtain ⟨lowX, highX⟩ := Binary64.numbers_of_le ordered.1
  obtain ⟨lowY, highY⟩ := Binary64.numbers_of_le ordered.2
  exact ⟨⟨lowX, lowY⟩, highX, highY⟩

theorem Ordered.low_le_high (ordered : a.Ordered) :
    extended a.low.x ≤ extended a.high.x ∧ extended a.low.y ≤ extended a.high.y := by
  obtain ⟨low, high⟩ := ordered.numbers
  exact ⟨(Binary64.le_iff_extended low.1 high.1).mp ordered.1,
    (Binary64.le_iff_extended low.2 high.2).mp ordered.2⟩

/-- Two numbers, the lesser first. -/
theorem sorted_ends (left : x.isNaN = false) (right : y.isNaN = false) :
    let ends := if Scalar.lt x y then (x, y) else (y, x)
    (ends.1.isNaN = false ∧ ends.2.isNaN = false) ∧
      extended ends.1 = min (extended x) (extended y) ∧
      extended ends.2 = max (extended x) (extended y) := by
  have order : Scalar.lt x y = true ↔ extended x < extended y :=
    decide_eq_true_iff.trans (Binary64.lt_iff_extended left right)
  dsimp only
  split
  · next less =>
    have below := (order.mp less).le
    exact ⟨⟨left, right⟩, (min_eq_left below).symm, (max_eq_right below).symm⟩
  · next other =>
    have above := not_lt.mp (mt order.mpr other)
    exact ⟨⟨right, left⟩, (min_eq_right above).symm, (max_eq_left above).symm⟩

structure Edges (box : Rect Float) (west south east north : WithBot (WithTop Rat)) : Prop where
  low : box.low.IsNumber
  high : box.high.IsNumber
  west : extended box.low.x = west
  south : extended box.low.y = south
  east : extended box.high.x = east
  north : extended box.high.y = north

theorem edges_ofCorners (first : p.IsNumber) (second : q.IsNumber) :
    (ofCorners p q).Edges (min (extended p.x) (extended q.x)) (min (extended p.y) (extended q.y))
      (max (extended p.x) (extended q.x)) (max (extended p.y) (extended q.y)) := by
  obtain ⟨⟨lowX, highX⟩, west, east⟩ := sorted_ends first.1 second.1
  obtain ⟨⟨lowY, highY⟩, south, north⟩ := sorted_ends first.2 second.2
  exact ⟨⟨lowX, lowY⟩, ⟨highX, highY⟩, west, south, east, north⟩

theorem ordered_ofCorners (first : p.IsNumber) (second : q.IsNumber) : (ofCorners p q).Ordered := by
  have edges := edges_ofCorners first second
  constructor
  · rw [Binary64.le_iff_extended edges.low.1 edges.high.1, edges.west, edges.east]
    exact min_le_max
  · rw [Binary64.le_iff_extended edges.low.2 edges.high.2, edges.south, edges.north]
    exact min_le_max

def Within (a b : Rect Float) : Prop :=
  (extended b.low.x ≤ extended a.low.x ∧ extended b.low.y ≤ extended a.low.y) ∧
    extended a.high.x ≤ extended b.high.x ∧ extended a.high.y ≤ extended b.high.y

theorem within_refl (a : Rect Float) : a.Within a :=
  ⟨⟨le_refl _, le_refl _⟩, le_refl _, le_refl _⟩

theorem same_iff_within (first : a.Ordered) (second : b.Ordered) :
    a.same b = true ↔ a.Within b ∧ b.Within a := by
  obtain ⟨low, high⟩ := first.numbers
  obtain ⟨low', high'⟩ := second.numbers
  have equal {x y : Float} (left : x.isNaN = false) (right : y.isNaN = false) :
      Scalar.eq x y = true ↔ extended x ≤ extended y ∧ extended y ≤ extended x :=
    (Binary64.beq_iff_extended left right).trans le_antisymm_iff
  rw [Rect.same, Bool.and_eq_true, Coord.same, Coord.same, Bool.and_eq_true, Bool.and_eq_true,
    equal low.1 low'.1, equal low.2 low'.2, equal high.1 high'.1, equal high.2 high'.2]
  unfold Within
  tauto

end Rect

/-! ### Bounds in their order -/

namespace Bounds

variable {a b c : Bounds} {bounds : List Bounds}

def Ordered : Bounds → Prop
  | envelope box => box.Ordered
  | _ => True

def Within : Bounds → Bounds → Prop
  | empty, _ => True
  | _, world => True
  | envelope a, envelope b => a.Within b
  | _, _ => False

/-- The same limits; a zero is the same with either sign. -/
def same : Bounds → Bounds → Bool
  | world, world => true
  | empty, empty => true
  | envelope a, envelope b => a.same b
  | _, _ => false

theorem within_refl (a : Bounds) : a.Within a := by
  cases a with
  | world => trivial
  | empty => trivial
  | envelope box => exact box.within_refl

theorem same_iff_within (first : a.Ordered) (second : b.Ordered) :
    a.same b = true ↔ a.Within b ∧ b.Within a := by
  cases a <;> cases b
  case envelope.envelope => exact Rect.same_iff_within first second
  all_goals simp [same, Within]

/-- What has the same bounds below is the same. -/
theorem same_of_below (first : a.Ordered) (second : b.Ordered)
    (alike : ∀ c : Bounds, c.Ordered → (c.Within a ↔ c.Within b)) : a.same b = true :=
  (same_iff_within first second).mpr
    ⟨(alike a first).mp a.within_refl, (alike b second).mpr b.within_refl⟩

/-- What has the same bounds above is the same. -/
theorem same_of_above (first : a.Ordered) (second : b.Ordered)
    (alike : ∀ c : Bounds, c.Ordered → (a.Within c ↔ b.Within c)) : a.same b = true :=
  (same_iff_within first second).mpr
    ⟨(alike b second).mpr b.within_refl, (alike a first).mp a.within_refl⟩

section

variable {r s : Rect Float} (first : r.Ordered) (second : s.Ordered)

include first second

/-- Two boxes are apart in one direction, or overlap in a box of the inner edges. -/
theorem intersect_envelopes :
    ((envelope r).intersect (envelope s) = empty ∧
      (min (extended r.high.x) (extended s.high.x) < max (extended r.low.x) (extended s.low.x) ∨
        min (extended r.high.y) (extended s.high.y) < max (extended r.low.y) (extended s.low.y))) ∨
    ∃ box, (envelope r).intersect (envelope s) = envelope box ∧ box.Ordered ∧
      box.Edges (max (extended r.low.x) (extended s.low.x)) (max (extended r.low.y) (extended s.low.y))
        (min (extended r.high.x) (extended s.high.x)) (min (extended r.high.y) (extended s.high.y)) := by
  obtain ⟨low, high⟩ := first.numbers
  obtain ⟨low', high'⟩ := second.numbers
  have inner := low.greatest low'
  have outer := high.least high'
  have apart (x y : Float) (left : x.isNaN = false) (right : y.isNaN = false) :
      decide (x < y) = true ↔ extended x < extended y :=
    decide_eq_true_iff.trans (Binary64.lt_iff_extended left right)
  have west : extended (Scalar.greatest r.low.x s.low.x) = _ := Binary64.extended_greatest low.1 low'.1
  have south : extended (Scalar.greatest r.low.y s.low.y) = _ := Binary64.extended_greatest low.2 low'.2
  have east : extended (Scalar.least r.high.x s.high.x) = _ := Binary64.extended_least high.1 high'.1
  have north : extended (Scalar.least r.high.y s.high.y) = _ := Binary64.extended_least high.2 high'.2
  simp only [intersect, Bool.or_eq_true, apart _ _ outer.1 inner.1, apart _ _ outer.2 inner.2, west,
    south, east, north]
  split
  · next apart => exact .inl ⟨rfl, apart⟩
  · next together =>
    obtain ⟨across, along⟩ := not_or.mp together
    refine .inr ⟨_, rfl, Rect.ordered_ofCorners inner outer, ?_⟩
    have edges := Rect.edges_ofCorners inner outer
    rw [west, south, east, north, min_eq_left (not_lt.mp across), min_eq_left (not_lt.mp along),
      max_eq_right (not_lt.mp across), max_eq_right (not_lt.mp along)] at edges
    exact edges

/-- The box around two boxes has their outer edges. -/
theorem union_envelopes : ∃ box, (envelope r).union (envelope s) = envelope box ∧ box.Ordered ∧
    box.Edges (min (extended r.low.x) (extended s.low.x)) (min (extended r.low.y) (extended s.low.y))
      (max (extended r.high.x) (extended s.high.x)) (max (extended r.high.y) (extended s.high.y)) := by
  obtain ⟨low, high⟩ := first.numbers
  obtain ⟨low', high'⟩ := second.numbers
  have outer := low.least low'
  have inner := high.greatest high'
  refine ⟨_, rfl, Rect.ordered_ofCorners outer inner, ?_⟩
  have west : extended (Scalar.least r.low.x s.low.x) = _ := Binary64.extended_least low.1 low'.1
  have south : extended (Scalar.least r.low.y s.low.y) = _ := Binary64.extended_least low.2 low'.2
  have east : extended (Scalar.greatest r.high.x s.high.x) = _ := Binary64.extended_greatest high.1 high'.1
  have north : extended (Scalar.greatest r.high.y s.high.y) = _ := Binary64.extended_greatest high.2 high'.2
  have across := (min_le_left _ (extended s.low.x)).trans
    (first.low_le_high.1.trans (le_max_left _ (extended s.high.x)))
  have along := (min_le_left _ (extended s.low.y)).trans
    (first.low_le_high.2.trans (le_max_left _ (extended s.high.y)))
  have edges := Rect.edges_ofCorners outer inner
  rw [west, south, east, north, min_eq_left across, min_eq_left along, max_eq_right across,
    max_eq_right along] at edges
  exact edges

end

theorem ordered_intersect (first : a.Ordered) (second : b.Ordered) : (a.intersect b).Ordered := by
  cases a <;> cases b
  case envelope.envelope r s =>
    rcases intersect_envelopes first second with ⟨apart, -⟩ | ⟨box, overlap, ordered, -⟩
    · rw [apart]
      trivial
    · rw [overlap]
      exact ordered
  case world.envelope => exact second
  case envelope.world => exact first
  all_goals trivial

theorem ordered_union (first : a.Ordered) (second : b.Ordered) : (a.union b).Ordered := by
  cases a <;> cases b
  case envelope.envelope r s =>
    obtain ⟨box, around, ordered, -⟩ := union_envelopes first second
    rw [around]
    exact ordered
  case empty.envelope => exact second
  case envelope.empty => exact first
  all_goals trivial

/-- An intersection is the greatest of the bounds within both. -/
theorem within_intersect (first : a.Ordered) (second : b.Ordered) (third : c.Ordered) :
    c.Within (a.intersect b) ↔ c.Within a ∧ c.Within b := by
  cases a with
  | world => cases b <;> cases c <;> simp [intersect, Within]
  | empty => cases b <;> cases c <;> simp [intersect, Within]
  | envelope r =>
    cases b with
    | world => cases c <;> simp [intersect, Within]
    | empty => cases c <;> simp [intersect, Within]
    | envelope s =>
      rcases intersect_envelopes first second with ⟨apart, gap⟩ | ⟨box, overlap, -, edges⟩
      · rw [apart]
        cases c with
        | world => simp [Within]
        | empty => simp [Within]
        | envelope t =>
          -- A box within both would bridge the gap.
          refine iff_of_false id ?_
          rintro ⟨⟨⟨west, south⟩, east, north⟩, ⟨west', south'⟩, east', north'⟩
          rcases gap with gap | gap
          · exact absurd ((max_le west west').trans (third.low_le_high.1.trans (le_min east east')))
              gap.not_ge
          · exact absurd ((max_le south south').trans (third.low_le_high.2.trans (le_min north north')))
              gap.not_ge
      · rw [overlap]
        cases c with
        | world => simp [Within]
        | empty => simp [Within]
        | envelope t =>
          simp only [Within, Rect.Within, edges.west, edges.south, edges.east, edges.north, max_le_iff,
            le_min_iff]
          tauto

/-- A union is the least of the bounds around both. -/
theorem union_within (first : a.Ordered) (second : b.Ordered) :
    (a.union b).Within c ↔ a.Within c ∧ b.Within c := by
  cases a with
  | world => cases b <;> cases c <;> simp [union, Within]
  | empty => cases b <;> cases c <;> simp [union, Within]
  | envelope r =>
    cases b with
    | world => cases c <;> simp [union, Within]
    | empty => cases c <;> simp [union, Within]
    | envelope s =>
      obtain ⟨box, around, -, edges⟩ := union_envelopes first second
      rw [around]
      cases c with
      | world => simp [Within]
      | empty => simp [Within]
      | envelope t =>
        simp only [Within, Rect.Within, edges.west, edges.south, edges.east, edges.north, le_min_iff,
          max_le_iff]
        tauto

theorem ordered_foldl {merge : Bounds → Bounds → Bounds}
    (keeps : ∀ {a b : Bounds}, a.Ordered → b.Ordered → (merge a b).Ordered)
    (all : ∀ b ∈ bounds, b.Ordered) (start : a.Ordered) : (bounds.foldl merge a).Ordered :=
  List.foldlRecOn bounds merge start fun _ sofar next member => keeps sofar (all next member)

theorem within_foldl_intersect (all : ∀ b ∈ bounds, b.Ordered) (start : a.Ordered) (third : c.Ordered) :
    c.Within (bounds.foldl .intersect a) ↔ c.Within a ∧ ∀ b ∈ bounds, c.Within b := by
  induction bounds generalizing a with
  | nil => simp
  | cons b rest ih =>
    obtain ⟨here, later⟩ := List.forall_mem_cons.mp all
    rw [List.foldl_cons, ih later (ordered_intersect start here), within_intersect start here third,
      List.forall_mem_cons, and_assoc]

theorem foldl_union_within (all : ∀ b ∈ bounds, b.Ordered) (start : a.Ordered) :
    (bounds.foldl .union a).Within c ↔ a.Within c ∧ ∀ b ∈ bounds, b.Within c := by
  induction bounds generalizing a with
  | nil => simp
  | cons b rest ih =>
    obtain ⟨here, later⟩ := List.forall_mem_cons.mp all
    rw [List.foldl_cons, ih later (ordered_union start here), union_within start here,
      List.forall_mem_cons, and_assoc]

end Bounds

/-! ### Literals and their margins -/

theorem numbers_widen {x : Float} {range : Float × Float}
    (ends : range.1.isNaN = false ∧ range.2.isNaN = false) (number : x.isNaN = false) :
    (widen range x).1.isNaN = false ∧ (widen range x).2.isNaN = false := by
  unfold widen
  split
  · exact ⟨ends.1, number⟩
  · split
    · exact ⟨number, ends.2⟩
    · exact ends

theorem numbers_foldl_widen {get : Coord Float → Float} {coords : List (Coord Float)}
    (numbers : ∀ c ∈ coords, (get c).isNaN = false) (range : Float × Float)
    (ends : range.1.isNaN = false ∧ range.2.isNaN = false) :
    let all := coords.foldl (fun range c => widen range (get c)) range
    all.1.isNaN = false ∧ all.2.isNaN = false := by
  induction coords generalizing range with
  | nil => exact ends
  | cons c rest ih =>
    obtain ⟨here, later⟩ := List.forall_mem_cons.mp numbers
    exact ih later _ (numbers_widen ends here)

theorem ordered_boundsOf {coords : List (Coord Float)} (numbers : ∀ c ∈ coords, c.IsNumber) :
    ∀ box ∈ boundsOf coords, box.Ordered := by
  cases coords with
  | nil => nofun
  | cons first rest =>
    obtain ⟨here, later⟩ := List.forall_mem_cons.mp numbers
    have across := numbers_foldl_widen (fun c member => (later c member).1) (first.x, first.x)
      ⟨here.1, here.1⟩
    have along := numbers_foldl_widen (fun c member => (later c member).2) (first.y, first.y)
      ⟨here.2, here.2⟩
    intro box bounded
    obtain rfl := Option.mem_some_iff.mp bounded
    exact Rect.ordered_ofCorners ⟨across.1, along.1⟩ ⟨across.2, along.2⟩

theorem Rect.ordered_merge {r s : Rect Float} (first : r.Ordered) (second : s.Ordered) :
    (r.merge s).Ordered := by
  have either {x y : Float} {p : Prop} [Decidable p] (left : x.isNaN = false) (right : y.isNaN = false) :
      (if p then x else y).isNaN = false := by
    split
    · exact left
    · exact right
  obtain ⟨low, high⟩ := first.numbers
  obtain ⟨low', high'⟩ := second.numbers
  exact ordered_ofCorners ⟨either low.1 low'.1, either low.2 low'.2⟩
    ⟨either high.1 high'.1, either high.2 high'.2⟩

namespace Geometry

mutual

/-- No coordinate is NaN, holes apart, and no box is turned over. -/
def Numeric : Geometry Float → Prop
  | rect r => r.Ordered
  | collection gs => AllNumeric gs
  | g => ∀ c ∈ g.frame, c.IsNumber

def AllNumeric : List (Geometry Float) → Prop
  | [] => True
  | g :: gs => Numeric g ∧ AllNumeric gs

end

mutual

theorem ordered_bounds : ∀ g : Geometry Float, g.Numeric → ∀ box ∈ g.bounds, box.Ordered
  | point c, numeric => by
    have number : c.IsNumber := numeric c (List.mem_singleton_self c)
    rintro box ⟨⟩
    exact ⟨(Binary64.le_iff_extended number.1 number.1).mpr le_rfl,
      (Binary64.le_iff_extended number.2 number.2).mpr le_rfl⟩
  | line _ _, numeric => ordered_boundsOf numeric
  | lineString _, numeric => ordered_boundsOf numeric
  | polygon _, numeric => ordered_boundsOf numeric
  | multiPoint _, numeric => ordered_boundsOf numeric
  | multiLineString _, numeric => ordered_boundsOf numeric
  | multiPolygon _, numeric => ordered_boundsOf numeric
  | collection gs, numeric => ordered_memberBounds gs none numeric nofun
  | rect _, numeric => by
    rintro box ⟨⟩
    exact numeric
  | triangle _ _ _, numeric => ordered_boundsOf numeric

theorem ordered_memberBounds : ∀ (gs : List (Geometry Float)) (found : Option (Rect Float)),
    AllNumeric gs → (∀ box ∈ found, box.Ordered) → ∀ box ∈ memberBounds gs found, box.Ordered
  | [], _, _, known => known
  | g :: gs, found, numeric, known => by
    refine ordered_memberBounds gs _ numeric.2 ?_
    have here := ordered_bounds g numeric.1
    cases found with
    | none => simpa [mergeBounds] using here
    | some sofar =>
      cases bounded : g.bounds with
      | none => simpa [mergeBounds] using known
      | some box =>
        rintro merged ⟨⟩
        exact Rect.ordered_merge (known sofar rfl) (here box bounded)

end

end Geometry

namespace Bounds

/-- A margin is never NaN, and never below zero. -/
theorem margin_finite_or_infinite (metres : Float) :
    (margin metres).isFinite = true ∨ margin metres = Binary64.infinity :=
  (Binary64.greatest_cases (metres / metresPerDegree) Binary64.zero_exact.1).imp_left And.left

/-- A box with a margin has numbers for edges, unless both are infinite. -/
theorem ordered_padded {margin : Float} {box : Rect Float} (ordered : box.Ordered)
    (size : margin.isFinite = true ∨ margin = Binary64.infinity)
    (inner : margin = Binary64.infinity → box.Finite) : (padded margin box).Ordered := by
  obtain ⟨low, high⟩ := ordered.numbers
  rcases size with finite | rfl
  · exact Rect.ordered_ofCorners
      ⟨(Binary64.number_moved low.1 finite).2, (Binary64.number_moved low.2 finite).2⟩
      ⟨(Binary64.number_moved high.1 finite).1, (Binary64.number_moved high.2 finite).1⟩
  · obtain ⟨⟨west, south⟩, east, north⟩ := inner rfl
    have ends : Binary64.infinity.isNaN = false ∧ (-Binary64.infinity).isNaN = false := by decide
    rw [padded, Binary64.finite_sub_infinity west, Binary64.finite_sub_infinity south,
      Binary64.finite_add_infinity east, Binary64.finite_add_infinity north]
    exact Rect.ordered_ofCorners ⟨ends.2, ends.2⟩ ⟨ends.1, ends.1⟩

/-- Operands with a box have it from a literal. -/
theorem ofOperands_envelope {left right : Operand} {box : Rect Float}
    (bounded : ofOperands left right = envelope box) : ∃ p, pairing? left right = some p ∧
      ∃ g, p.literal = .geometry g ∧ box ∈ g.bounds := by
  unfold ofOperands at bounded
  split at bounded
  · next p paired =>
    refine ⟨p, paired, ?_⟩
    unfold ofLiteral at bounded
    split at bounded
    · next g literal =>
      split at bounded
      · next found around =>
        cases bounded
        exact ⟨g, literal, around⟩
      · cases bounded
    · cases bounded
  · cases bounded

end Bounds

/-! ### Combinations -/

namespace Predicate

variable {p : Predicate} {children left right before inner after : List Predicate} {b : Bounds}

/-- A leaf without NaN: the literal of a relation is numeric, and no infinite margin is laid around an
infinite edge. -/
def Numeric : Predicate → Prop
  | .spatial _ left right => ∀ p, pairing? left right = some p → ∀ g, p.literal = .geometry g → g.Numeric
  | .distance .within left right limit units =>
    ∀ p, pairing? left right = some p → ∀ g, p.literal = .geometry g → g.Numeric ∧
      (Bounds.margin (Distance.toMetres limit units true) = Binary64.infinity →
        ∀ box ∈ g.bounds, box.Finite)
  | _ => True

theorem ordered_leaf (numeric : p.Numeric) (leaf : p.isLeaf) : p.bounds.Ordered := by
  cases p with
  | spatial relation left right =>
    rw [bounds]
    split
    · trivial
    · cases bounded : Bounds.ofOperands left right with
      | world => trivial
      | empty => trivial
      | envelope box =>
        obtain ⟨pairing, paired, g, literal, around⟩ := Bounds.ofOperands_envelope bounded
        exact g.ordered_bounds (numeric pairing paired g literal) box around
  | distance relation left right limit units =>
    cases relation with
    | beyond => trivial
    | within =>
      rw [bounds]
      cases bounded : Bounds.ofOperands left right with
      | world => trivial
      | empty => trivial
      | envelope box =>
        obtain ⟨pairing, paired, g, literal, around⟩ := Bounds.ofOperands_envelope bounded
        obtain ⟨numeric, inner⟩ := numeric pairing paired g literal
        exact Bounds.ordered_padded (g.ordered_bounds numeric box around)
          (Bounds.margin_finite_or_infinite _) fun most => inner most box around
  | and => cases leaf
  | or => cases leaf
  | not => cases leaf
  | nothing => cases leaf
  | _ => trivial

theorem ordered_and (ordered : ∀ child ∈ children, child.bounds.Ordered) : (and children).bounds.Ordered := by
  have start : Bounds.world.Ordered := trivial
  rw [bounds_and]
  exact Bounds.ordered_foldl Bounds.ordered_intersect (List.forall_mem_map.mpr ordered) start

theorem ordered_or (ordered : ∀ child ∈ children, child.bounds.Ordered) : (or children).bounds.Ordered := by
  cases children with
  | nil => trivial
  | cons first rest =>
    obtain ⟨start, later⟩ := List.forall_mem_cons.mp ordered
    rw [bounds_or_cons]
    exact Bounds.ordered_foldl Bounds.ordered_union (List.forall_mem_map.mpr later) start

/-- The bounds of a tree of numeric leaves have numbers for edges. -/
theorem ordered_bounds (numeric : ∀ leaf ∈ p.leaves, leaf.Numeric) : p.bounds.Ordered := by
  induction p using tree_induction with
  | everything => trivial
  | nothing => trivial
  | not => trivial
  | and children ih =>
    exact ordered_and fun child member =>
      ih child member fun leaf below => numeric leaf (leaves_subset_and member below)
  | or children ih =>
    exact ordered_or fun child member =>
      ih child member fun leaf below => numeric leaf (leaves_subset_or member below)
  | leaf p leaf => exact ordered_leaf (numeric p (by simp [leaves_of_isLeaf leaf])) leaf

/-- Within a conjunction is what is within all of its members. -/
theorem within_and (ordered : ∀ child ∈ children, child.bounds.Ordered) (known : b.Ordered) :
    b.Within (and children).bounds ↔ ∀ child ∈ children, b.Within child.bounds := by
  have start : Bounds.world.Ordered := trivial
  rw [bounds_and, Bounds.within_foldl_intersect (List.forall_mem_map.mpr ordered) start known,
    List.forall_mem_map]
  refine and_iff_right ?_
  cases b <;> trivial

/-- Around a disjunction is what is around all of its members. -/
theorem or_within (some : children ≠ []) (ordered : ∀ child ∈ children, child.bounds.Ordered) :
    (or children).bounds.Within b ↔ ∀ child ∈ children, child.bounds.Within b := by
  cases children with
  | nil => exact absurd rfl some
  | cons first rest =>
    obtain ⟨start, later⟩ := List.forall_mem_cons.mp ordered
    rw [bounds_or_cons, Bounds.foldl_union_within (List.forall_mem_map.mpr later) start,
      List.forall_mem_map, List.forall_mem_cons]

/-- Every member of a combination of numeric leaves is one itself. -/
theorem ordered_members (numeric : ∀ leaf ∈ (and children).leaves, leaf.Numeric) :
    ∀ child ∈ children, child.bounds.Ordered :=
  fun _ member => ordered_bounds fun leaf below => numeric leaf (leaves_subset_and member below)

/-- Members that nothing distinguishes from below make conjunctions of the same bounds. -/
theorem same_and (first : ∀ child ∈ left, child.bounds.Ordered)
    (second : ∀ child ∈ right, child.bounds.Ordered)
    (alike : ∀ b : Bounds, b.Ordered →
      ((∀ child ∈ left, b.Within child.bounds) ↔ ∀ child ∈ right, b.Within child.bounds)) :
    (and left).bounds.same (and right).bounds = true := by
  refine Bounds.same_of_below (ordered_and first) (ordered_and second) fun b known => ?_
  rw [within_and first known, within_and second known]
  exact alike b known

/-- Members that nothing distinguishes from above make disjunctions of the same bounds. -/
theorem same_or (some : left ≠ []) (some' : right ≠ []) (first : ∀ child ∈ left, child.bounds.Ordered)
    (second : ∀ child ∈ right, child.bounds.Ordered)
    (alike : ∀ b : Bounds, (∀ child ∈ left, child.bounds.Within b) ↔ ∀ child ∈ right, child.bounds.Within b) :
    (or left).bounds.same (or right).bounds = true := by
  refine Bounds.same_of_above (ordered_or first) (ordered_or second) fun b _ => ?_
  rw [or_within some first, or_within some' second]
  exact alike b

theorem same_members (numeric : ∀ leaf ∈ (and left).leaves, leaf.Numeric)
    (members : ∀ child, child ∈ left ↔ child ∈ right) :
    (and left).bounds.same (and right).bounds = true ∧ (or left).bounds.same (or right).bounds = true := by
  have first := ordered_members numeric
  have second : ∀ child ∈ right, child.bounds.Ordered :=
    fun child member => first child ((members child).mpr member)
  refine ⟨same_and first second fun b _ => by simp only [members], ?_⟩
  cases left with
  | nil =>
    obtain rfl : right = [] := List.eq_nil_iff_forall_not_mem.mpr fun child member =>
      List.not_mem_nil ((members child).mpr member)
    rfl
  | cons child rest =>
    have some : right ≠ [] := List.ne_nil_of_mem ((members child).mp (List.mem_cons_self ..))
    exact same_or (List.cons_ne_nil _ _) some first second fun b => by simp only [members]

theorem ordered_nested {nested : Predicate}
    (flat : ∀ child ∈ before ++ inner ++ after, child.bounds.Ordered) (own : nested.bounds.Ordered) :
    ∀ child ∈ before ++ nested :: after, child.bounds.Ordered := by
  simp only [List.forall_mem_append, List.forall_mem_cons] at flat ⊢
  exact ⟨flat.1.1, own, flat.2⟩

/-- The members of a nested conjunction may stand in its place. -/
theorem same_and_nested (numeric : ∀ leaf ∈ (and (before ++ inner ++ after)).leaves, leaf.Numeric) :
    (and (before ++ .and inner :: after)).bounds.same (and (before ++ inner ++ after)).bounds = true := by
  have flat := ordered_members numeric
  have within : ∀ child ∈ inner, child.bounds.Ordered := fun child member => flat child (by simp [member])
  have nested := ordered_nested flat (ordered_and within)
  refine same_and nested flat fun b known => ?_
  simp only [List.forall_mem_append, List.forall_mem_cons, within_and within known]
  tauto

/-- The members of a nested disjunction, if it has any, may stand in its place. -/
theorem same_or_nested (some : inner ≠ [])
    (numeric : ∀ leaf ∈ (and (before ++ inner ++ after)).leaves, leaf.Numeric) :
    (or (before ++ .or inner :: after)).bounds.same (or (before ++ inner ++ after)).bounds = true := by
  have flat := ordered_members numeric
  have within : ∀ child ∈ inner, child.bounds.Ordered := fun child member => flat child (by simp [member])
  have nested := ordered_nested flat (ordered_or within)
  refine same_or (by simp) (by simp [some]) nested flat fun b => ?_
  simp only [List.forall_mem_append, List.forall_mem_cons, or_within some within]
  tauto

/-- The bounds of a conjunction and of a disjunction of numeric leaves are the same whatever the order
of the members, and however often one is repeated; and the members of a nested combination of the same
kind may stand in its place. An empty disjunction is open, and may not. -/
theorem bounds_of_members (members : List Predicate)
    (numeric : ∀ leaf ∈ (and members).leaves, leaf.Numeric) :
    (∀ others : List Predicate, (∀ child, child ∈ members ↔ child ∈ others) →
      (and members).bounds.same (and others).bounds = true ∧
        (or members).bounds.same (or others).bounds = true) ∧
    ∀ before inner after : List Predicate, members = before ++ inner ++ after →
      (and (before ++ .and inner :: after)).bounds.same (and members).bounds = true ∧
        (inner ≠ [] → (or (before ++ .or inner :: after)).bounds.same (or members).bounds = true) := by
  refine ⟨fun others alike => same_members numeric alike, ?_⟩
  rintro before inner after rfl
  exact ⟨same_and_nested numeric, fun some => same_or_nested some numeric⟩

/-- A box, and a buffer of a metre around a point at infinity: the buffer may be repeated, and stand in a
nested conjunction. -/
theorem bounds_of_repeated_buffer :
    let at' (literal : Geometry Float) : Operand := .literal (.geometry literal)
    let box : Predicate := .spatial .bbox (.property "at") (at' (.rect ⟨⟨0, 0⟩, ⟨1, 1⟩⟩))
    let near : Predicate := .distance .within (.property "at") (at' (.point ⟨Binary64.infinity, 0⟩)) 1 "m"
    (∀ leaf ∈ (and [box, near, box]).leaves, leaf.Numeric) ∧
      (and [box, near, box]).bounds.same (and [near, box]).bounds = true ∧
      (or [box, near, box]).bounds.same (or [near, box]).bounds = true ∧
      (and [box, .and [near]]).bounds.same (and [box, near]).bounds = true := by
  intro at' box near
  have finite : (Bounds.margin (Distance.toMetres 1 "m" true)).isFinite = true := by decide +kernel
  have numeric : box.Numeric ∧ near.Numeric := by
    constructor
    · rintro p ⟨⟩ g ⟨⟩
      exact ⟨by decide +kernel, by decide +kernel⟩
    · rintro p ⟨⟩ g ⟨⟩
      refine ⟨?_, fun most => ?_⟩
      · rintro c member
        obtain rfl := List.mem_singleton.mp member
        exact ⟨by decide +kernel, by decide +kernel⟩
      · rw [most] at finite
        exact absurd finite (by decide)
  have leaves : ∀ leaf ∈ (and [box, near, box]).leaves, leaf.Numeric := by
    intro leaf member
    have member : leaf ∈ [box, near, box] := member
    simp only [List.mem_cons, List.not_mem_nil, or_false] at member
    rcases member with rfl | rfl | rfl
    · exact numeric.1
    · exact numeric.2
    · exact numeric.1
  have fewer : ∀ leaf ∈ (and [box, near]).leaves, leaf.Numeric :=
    fun leaf member => leaves leaf (List.mem_of_mem_take (i := 2) member)
  obtain ⟨conjoined, disjoined⟩ := (bounds_of_members [box, near, box] leaves).1 [near, box]
    (by simp only [List.mem_cons, List.not_mem_nil]; tauto)
  exact ⟨leaves, conjoined, disjoined, ((bounds_of_members [box, near] fewer).2 [box] [near] [] rfl).1⟩

/-- An infinite margin around an infinite coordinate has NaN for an edge: the buffer leaves nothing of a
box that it would leave whole if it were repeated. -/
theorem bounds_of_boundless_buffer :
    let at' (literal : Geometry Float) : Operand := .literal (.geometry literal)
    let box : Predicate := .spatial .bbox (.property "at") (at' (.rect ⟨⟨0, 0⟩, ⟨1, 1⟩⟩))
    let near : Predicate :=
      .distance .within (.property "at") (at' (.point ⟨Binary64.infinity, 0⟩)) 1e308 "km"
    (Binary64.infinity.isNaN = false ∧ (0 : Float).isNaN = false) ∧
      (and [near, box]).bounds.same .empty = true ∧
      (and [near, near, box]).bounds.same (.envelope ⟨⟨0, 0⟩, ⟨1, 1⟩⟩) = true ∧
      (and [near, box]).bounds.same (and [near, near, box]).bounds = false := by
  decide +kernel

end Predicate

end GeoSearch
