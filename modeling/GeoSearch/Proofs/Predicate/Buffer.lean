import GeoSearch.Proofs.Geometry.Centroid
import GeoSearch.Proofs.Geometry.Meridian
import GeoSearch.Proofs.Predicate.Bounds
import GeoSearch.Proofs.Query.Spatial
/-!
The bounds of a distance buffer.
-/
namespace GeoSearch

open Binary64 (value)

variable {x y : Float} {c : Coord Float} {g : Geometry Float}

/-! ### Centroids and boxes -/

namespace Centroid

theorem foldl_nothing {α : Type} {add : Option Mass → α → Option Mass} {parts : List α}
    (nothing : ∀ part ∈ parts, add none part = none) : parts.foldl add none = none := by
  induction parts with
  | nil => rfl
  | cons part rest ih =>
    rw [List.foldl_cons, nothing part List.mem_cons_self]
    exact ih fun other member => nothing other (List.mem_cons_of_mem _ member)

mutual

/-- What has no coordinates but in holes adds no mass. -/
theorem addGeometry_nothing : ∀ g : Geometry Float, g.frame = [] → addGeometry none g = none
  | .lineString cs, nothing => by
    subst (nothing : cs = [])
    rfl
  | .polygon p, nothing => by
    obtain ⟨exterior, interiors⟩ := p
    subst (nothing : exterior = [])
    rfl
  | .multiPoint cs, nothing => by
    subst (nothing : cs = [])
    rfl
  | .multiLineString ls, nothing => by
    refine foldl_nothing fun line member => ?_
    rw [List.flatten_eq_nil_iff.mp nothing line member]
    rfl
  | .multiPolygon ps, nothing => by
    refine foldl_nothing fun p member => ?_
    have ring := List.flatMap_eq_nil_iff.mp nothing p member
    obtain ⟨exterior, interiors⟩ := p
    subst (ring : exterior = [])
    rfl
  | .collection gs, nothing => addMembers_nothing gs nothing

theorem addMembers_nothing : ∀ gs : List (Geometry Float), Geometry.memberFrames gs = [] →
    addMembers none gs = none
  | [], _ => rfl
  | g :: gs, nothing => by
    obtain ⟨here, there⟩ := List.append_eq_nil_iff.mp nothing
    rw [addMembers, addGeometry_nothing g here, addMembers_nothing gs there]

end

end Centroid

/-- A geometry with a centroid has a box. -/
theorem Geometry.bounds_of_centroid (finite : g.Finite) (formed : g.WellFormed)
    (found : g.centroid? = some c) : ∃ box, g.bounds = some box := by
  have framed := framed_bounds g finite formed
  cases bounded : g.bounds with
  | some box => exact ⟨box, rfl⟩
  | none =>
    rw [bounded] at framed
    have nothing := Centroid.addGeometry_nothing g framed
    cases g with
    | point => cases bounded
    | line => cases bounded
    | rect => cases bounded
    | _ => exact absurd ((congrArg (Option.map _) nothing).symm.trans found) nofun

/-- The box of a geometry of the world is in the world. -/
theorem Geometry.bounds_inWorld {box : Rect Float} (inside : g.InWorld) (formed : g.WellFormed)
    (bounded : g.bounds = some box) : box.low.InWorld ∧ box.high.InWorld := by
  have frames := frames_bounds inside.finite formed bounded
  obtain ⟨lowFinite, highFinite⟩ := frames.finite
  have degrees (c : Coord Float) (member : c ∈ g.frame) :=
    (inside c (frame_subset g member)).degrees
  obtain ⟨west, east⟩ := frames.across.within (List.forall_mem_map.mpr fun c m => (degrees c m).1)
  obtain ⟨south, north⟩ := frames.along.within (List.forall_mem_map.mpr fun c m => (degrees c m).2)
  have across := frames.across.low_le_high
  have along := frames.along.low_le_high
  exact ⟨(Coord.inWorld_iff lowFinite).mpr ⟨⟨west, across.trans east⟩, south, along.trans north⟩,
    (Coord.inWorld_iff highFinite).mpr ⟨⟨west.trans across, east⟩, south.trans along, north⟩⟩

/-! ### Margins -/

namespace Bounds

instance (b : Bounds) (c : Coord Float) : Decidable (b.Admits c) :=
  match b with
  | world => .isTrue trivial
  | empty => .isFalse id
  | envelope _ => inferInstanceAs (Decidable ((_ ∧ _) ∧ _ ∧ _))

/-- The margin around the literal of a distance, in degrees. -/
def margin (metres : Float) : Float := Scalar.greatest (metres / metresPerDegree) 0.0

/-- More than any finite margin. -/
def farthest : Float := 1e304

theorem value_metresPerDegree : metresPerDegree.isFinite = true ∧ 0 < value metresPerDegree ∧
    2 ^ 1024 / value metresPerDegree ≤ value farthest := by
  decide +kernel

theorem value_farthest : farthest.isFinite = true ∧ 0 ≤ value farthest := by decide +kernel

structure IsMargin (margin : Float) : Prop where
  finite : margin.isFinite = true
  nonneg : 0 ≤ value margin
  short : value margin ≤ value farthest

variable {metres : Float} {box : Rect Float}

theorem degrees_le_farthest (finite : metres.isFinite = true) :
    |value metres / value metresPerDegree| ≤ value farthest := by
  obtain ⟨-, positive, long⟩ := value_metresPerDegree
  rw [abs_div, abs_of_pos positive]
  exact (div_le_div_of_nonneg_right (Binary64.abs_value_lt finite).le positive.le).trans long

theorem margin_of_finite (finite : metres.isFinite = true) : IsMargin (margin metres) := by
  obtain ⟨far, forward⟩ := value_farthest
  obtain ⟨zeroFinite, zero⟩ := Binary64.zero_exact
  obtain ⟨divisor, positive, -⟩ := value_metresPerDegree
  obtain ⟨least, most⟩ := abs_le.mp (degrees_le_farthest finite)
  obtain ⟨known, -, size⟩ := (Binary64.rounds_div finite divisor positive.ne').within
    (Binary64.finite_neg far) far ((Binary64.value_neg far).trans_le least) most
  have largest := Binary64.value_greatest known zeroFinite
  rw [zero] at largest
  exact ⟨Binary64.finite_greatest known zeroFinite, (le_max_right _ _).trans_eq largest.symm,
    largest.trans_le (max_le size forward)⟩

/-- The margin of a number of metres, if only infinite. -/
theorem margin_cases (number : metres.isFinite = true ∨
    metres = Binary64.infinity ∨ metres = -Binary64.infinity) :
    IsMargin (margin metres) ∨ margin metres = Binary64.infinity := by
  rcases number with finite | rfl | rfl
  · exact .inl (margin_of_finite finite)
  · exact .inr (by decide)
  · have none : margin (-Binary64.infinity) = 0.0 := by decide
    rw [none]
    obtain ⟨known, zero⟩ := Binary64.zero_exact
    exact .inl ⟨known, zero.ge, zero.trans_le value_farthest.2⟩

theorem value_beyond : (2e304 : Float).isFinite = true ∧ value farthest + 180 ≤ value 2e304 := by
  decide +kernel

/-- The ends of a range of the world, moved apart by a margin. -/
theorem moved_apart {margin : Float} (wide : IsMargin margin) (left : x.isFinite = true)
    (right : y.isFinite = true) (low : |value x| ≤ 180) (high : |value y| ≤ 180) :
    ((x - margin).isFinite = true ∧ value (x - margin) ≤ value x) ∧
      (y + margin).isFinite = true ∧ value y ≤ value (y + margin) := by
  obtain ⟨finite, nonneg, short⟩ := wide
  obtain ⟨most, beyond⟩ := value_beyond
  have least := Binary64.finite_neg most
  have opposite := Binary64.value_neg most
  obtain ⟨lowLeast, lowMost⟩ := abs_le.mp low
  obtain ⟨highLeast, highMost⟩ := abs_le.mp high
  have first := Binary64.rounds_sub left finite
  have second := Binary64.rounds_add right finite
  refine ⟨⟨(first.within least most ?_ ?_).1, first.value_le left ?_⟩,
    (second.within least most ?_ ?_).1, second.le_value right ?_⟩ <;> linarith

/-- A box with a margin contains what the box does. -/
theorem contains_padded {margin : Float} (low : box.low.InWorld) (high : box.high.InWorld)
    (wide : IsMargin margin ∨ margin = Binary64.infinity) (known : c.Finite)
    (inside : box.Contains c) : (padded margin box).Contains c := by
  rcases wide with wide | rfl
  · obtain ⟨lowFinite, west, south⟩ := Coord.inWorld_iff_abs.mp low
    obtain ⟨highFinite, east, north⟩ := Coord.inWorld_iff_abs.mp high
    obtain ⟨⟨lowX, left⟩, highX, right⟩ := moved_apart wide lowFinite.1 highFinite.1 west east
    obtain ⟨⟨lowY, below⟩, highY, above⟩ := moved_apart wide lowFinite.2 highFinite.2
      (south.trans (by norm_num)) (north.trans (by norm_num))
    have holds := (Rect.contains_iff ⟨lowFinite, highFinite⟩ known).mp inside
    have corners : Coord.Finite ⟨box.low.x - margin, box.low.y - margin⟩ := ⟨lowX, lowY⟩
    have opposite : Coord.Finite ⟨box.high.x + margin, box.high.y + margin⟩ := ⟨highX, highY⟩
    refine (Rect.contains_iff (Rect.finite_ofCorners corners opposite) known).mpr ?_
    exact Rect.holds_ofCorners corners opposite (left.trans holds.left) (holds.right.trans right)
      (below.trans holds.below) (holds.above.trans above)
  · have corners : padded Binary64.infinity box =
        Rect.ofCorners ⟨-Binary64.infinity, -Binary64.infinity⟩ ⟨Binary64.infinity, Binary64.infinity⟩ := by
      rw [padded, Binary64.finite_sub_infinity low.finite.1, Binary64.finite_sub_infinity low.finite.2,
        Binary64.finite_add_infinity high.finite.1, Binary64.finite_add_infinity high.finite.2]
    have open' : Rect.ofCorners ⟨-Binary64.infinity, -Binary64.infinity⟩
        ⟨Binary64.infinity, Binary64.infinity⟩ = (⟨⟨-Binary64.infinity, -Binary64.infinity⟩,
          ⟨Binary64.infinity, Binary64.infinity⟩⟩ : Rect Float) := by
      rfl
    rw [corners, open']
    exact ⟨Binary64.between_infinities known.1, Binary64.between_infinities known.2⟩

theorem metresPerDegree_le : value metresPerDegree ≤ 11131950 / 100 := by decide +kernel

theorem farthest_add_le : value farthest + 90 ≤ 2 ^ (1022 : Int) := by
  have fits : value farthest + 90 ≤ 2 ^ 1022 := by decide +kernel
  exact fits.trans_eq (zpow_natCast 2 1022).symm

/-- A margin is nearly as wide as the latitudes within so many metres. A degree of a distance is a little
shorter than one of a margin. -/
theorem metres_le_margin (finite : metres.isFinite = true) :
    value metres + 1 / 10 ^ 7 ≤ 111195 * (value (margin metres) * (1 + 1 / 892) + 2 / 10 ^ 12) := by
  obtain ⟨divisor, positive, -⟩ := value_metresPerDegree
  have wide := metresPerDegree_le
  obtain ⟨known, nonneg, -⟩ := margin_of_finite finite
  rcases le_or_gt (value metres) 0 with none | some
  · norm_num
    linarith
  have rounds := Binary64.rounds_div finite divisor positive.ne'
  have product : value metres / value metresPerDegree * value metresPerDegree = value metres :=
    div_mul_cancel₀ _ positive.ne'
  have quotient := abs_of_pos (div_pos some positive)
  have size : |value metres / value metresPerDegree| ≤ 2 ^ (1022 : Int) :=
    (degrees_le_farthest finite).trans ((le_add_of_nonneg_right (by norm_num)).trans farthest_add_le)
  generalize value metres / value metresPerDegree = q at *
  have wider : q * value metresPerDegree ≤ q * (11131950 / 100) :=
    mul_le_mul_of_nonneg_left wide (by rw [← quotient]; exact abs_nonneg q)
  rcases le_or_gt (2 ^ (-1000 : Int)) |q| with normal | tiny
  · obtain ⟨finite, moved⟩ := rounds.relative normal size
    have largest := Binary64.value_greatest finite Binary64.zero_exact.1
    have reached : value (metres / metresPerDegree) ≤ value (margin metres) :=
      (le_max_left _ _).trans_eq largest.symm
    rw [quotient, abs_le] at moved
    norm_num at moved wider ⊢
    linarith
  · have less : (2 : Rat) ^ (-1000 : Int) ≤ 2 ^ (-100 : Int) :=
      zpow_le_zpow_right₀ one_le_two (by decide)
    have small : |q| ≤ 1 / 10 ^ 20 := (tiny.le.trans less).trans (by norm_num)
    rw [quotient] at small
    norm_num at small wider ⊢
    linarith

/-- The latitudes between two corners, whichever is the lower one. -/
theorem ofCorners_latitudes {a b : Coord Float} (first : a.y.isFinite = true)
    (second : b.y.isFinite = true) : value (Rect.ofCorners a b).low.y ≤ value a.y ∧
      value b.y ≤ value (Rect.ofCorners a b).high.y := by
  by_cases less : a.y < b.y
  · have south : Scalar.lt a.y b.y = true := decide_eq_true less
    rw [Rect.ofCorners, if_pos south]
    exact ⟨le_rfl, le_rfl⟩
  · have north : ¬ Scalar.lt a.y b.y = true := mt of_decide_eq_true less
    have order := not_lt.mp (mt (Binary64.lt_iff first second).mpr less)
    rw [Rect.ofCorners, if_neg north]
    exact ⟨order, order⟩

/-- The latitudes of a box with a margin, up to the rounding of its ends. -/
theorem padded_latitudes {margin : Float} (low : box.low.InWorld) (high : box.high.InWorld)
    (wide : IsMargin margin) :
    value (padded margin box).low.y ≤ value box.low.y - value margin + (91 + value margin) / 2 ^ 51 ∧
      value box.high.y + value margin - (91 + value margin) / 2 ^ 51 ≤
        value (padded margin box).high.y := by
  obtain ⟨lowFinite, west, south⟩ := Coord.inWorld_iff_abs.mp low
  obtain ⟨highFinite, east, north⟩ := Coord.inWorld_iff_abs.mp high
  obtain ⟨⟨lowY, -⟩, highY, -⟩ := moved_apart wide lowFinite.2 highFinite.2
    (south.trans (by norm_num)) (north.trans (by norm_num))
  obtain ⟨finite, nonneg, short⟩ := wide
  have fits := farthest_add_le
  have below := abs_sub (value box.low.y) (value margin)
  have above := abs_add_le (value box.high.y) (value margin)
  rw [abs_of_nonneg nonneg] at below above
  have down := (Binary64.rounds_sub lowFinite.2 finite).moved (by linarith)
  have up := (Binary64.rounds_add highFinite.2 finite).moved (by linarith)
  obtain ⟨lowest, highest⟩ := ofCorners_latitudes
    (a := ⟨box.low.x - margin, box.low.y - margin⟩) (b := ⟨box.high.x + margin, box.high.y + margin⟩)
    lowY highY
  rw [← padded] at lowest highest
  rw [abs_le] at down up
  norm_num at down up ⊢
  constructor <;> linarith

/-- How far beyond the bounds of a buffer the latitudes that it accepts may be, in degrees. -/
def slack (metres : Float) : Rat := value (margin metres) / 890 + 1 / 10 ^ 11

/-- Whatever is within so many metres of a position of a box is in its latitudes with a margin, up to the
slack. -/
theorem padded_reaches {centre : Coord Float} (low : box.low.InWorld) (high : box.high.InWorld)
    (inside : box.Contains centre) (here : c.InWorld) (finite : metres.isFinite = true)
    (near : Distance.haversine c centre ≤ metres) :
    value (padded (margin metres) box).low.y - slack metres ≤ value c.y ∧
      value c.y ≤ value (padded (margin metres) box).high.y + slack metres := by
  have wide := margin_of_finite finite
  obtain ⟨below, above⟩ := padded_latitudes low high wide
  have reach := metres_le_margin finite
  have known := Rect.Contains.finite inside ⟨low.finite, high.finite⟩
  have holds := (Rect.contains_iff ⟨low.finite, high.finite⟩ known).mp inside
  have there : centre.InWorld := by
    obtain ⟨⟨west, -⟩, southmost, -⟩ := (Coord.inWorld_iff low.finite).mp low
    obtain ⟨⟨-, east⟩, -, northmost⟩ := (Coord.inWorld_iff high.finite).mp high
    exact (Coord.inWorld_iff known).mpr ⟨⟨west.trans holds.left, holds.right.trans east⟩,
      southmost.trans holds.below, holds.above.trans northmost⟩
  have apart := Distance.latitude_of_near here there finite near
  have nonneg := wide.nonneg
  have distance : |value centre.y - value c.y| ≤ value (margin metres) * (1 + 1 / 892) + 2 / 10 ^ 12 := by
    have whole := apart.trans reach
    exact le_of_mul_le_mul_left whole (by norm_num)
  have south : value box.low.y ≤ value centre.y := holds.below
  have north : value centre.y ≤ value box.high.y := holds.above
  unfold slack
  rw [abs_le] at distance
  norm_num at below above distance ⊢
  constructor <;> linarith

end Bounds

namespace Predicate

variable {type : FeatureType} {left right : Operand} {name : String} {swapped : Bool}

theorem pairing?_swap {p : Pairing} (paired : pairing? left right = some p) :
    pairing? right left = some { p with swapped := !p.swapped } := by
  cases left <;> cases right <;> cases paired <;> rfl

theorem bounds_within {box : Rect Float} (limit : Float) (units : String)
    (paired : pairing? left right = some ⟨name, .geometry g, swapped⟩) (bounded : g.bounds = some box) :
    (distance .within left right limit units).bounds =
      .envelope (Bounds.padded (Bounds.margin (Distance.toMetres limit units true)) box) := by
  have box : Bounds.ofOperands left right = .envelope box := by
    rw [Bounds.ofOperands, paired]
    dsimp only [Bounds.ofLiteral]
    rw [bounded]
  rw [bounds, box]
  rfl

theorem holds_within {centre : Coord Float} {source : Json} (id : String) (limit : Float)
    (units : String) (paired : pairing? left right = some ⟨name, .geometry g, swapped⟩)
    (geographic : (type.resolve name).geographic = true) (found : g.centroid? = some centre)
    (one : (type.resolve name).geometries source = [.point c]) :
    holds type id source (distance .within left right limit units) =
      (decide (Distance.haversine c centre ≤ Distance.toMetres limit units true) != swapped) := by
  rw [holds, paired]
  dsimp only
  rw [DistanceRelation.holds, found, one]
  dsimp only
  rw [geographic]
  simp [Geometry.centroid?, Distance.between, DistanceRelation.negated]

/-- The bounds of a buffer are the box of its literal with a margin, whichever operand the literal is. They
contain what the box does, and reach the latitude of whatever is near the centre, up to a slack. But the
buffer with its operands exchanged holds of just what the other does not hold of. -/
theorem bounds_of_buffer (type : FeatureType) (left right : Operand) (name : String)
    (g : Geometry Float) (limit : Float) (units id : String) (centre : Coord Float) (source : Json)
    (c : Coord Float) (paired : pairing? left right = some ⟨name, .geometry g, false⟩)
    (geographic : (type.resolve name).geographic = true) (inside : g.InWorld)
    (formed : g.WellFormed) (found : g.centroid? = some centre) (finite : limit.isFinite = true)
    (one : (type.resolve name).geometries source = [.point c]) (here : c.InWorld) :
    let near : Predicate := .distance .within left right limit units
    let far : Predicate := .distance .within right left limit units
    let metres := Distance.toMetres limit units true
    ∃ box, near.bounds = .envelope box ∧ far.bounds = .envelope box ∧
      (∀ p : Coord Float, p.Finite → (Bounds.ofLiteral (.geometry g)).Admits p → box.Contains p) ∧
      (near.holds type id source = true ↔ Distance.haversine c centre ≤ metres) ∧
      (metres.isFinite = true → (Bounds.ofLiteral (.geometry g)).Admits centre →
        near.holds type id source = true → value box.low.y - Bounds.slack metres ≤ value c.y ∧
          value c.y ≤ value box.high.y + Bounds.slack metres) ∧
      far.holds type id source = !near.holds type id source := by
  intro near far metres
  obtain ⟨box, bounded⟩ := Geometry.bounds_of_centroid inside.finite formed found
  obtain ⟨low, high⟩ := Geometry.bounds_inWorld inside formed bounded
  have literal : Bounds.ofLiteral (.geometry g) = .envelope box := by
    rw [Bounds.ofLiteral, bounded]
  have swapped := pairing?_swap paired
  have first := holds_within id limit units paired geographic found one
  have second := holds_within id limit units swapped geographic found one
  have accepted : near.holds type id source = true ↔ Distance.haversine c centre ≤ metres := by
    rw [first]
    simp [metres]
  refine ⟨_, bounds_within limit units paired bounded, bounds_within limit units swapped bounded,
    ?_, accepted, ?_, ?_⟩
  · intro p known admitted
    rw [literal] at admitted
    have wide := Bounds.margin_cases (Distance.toMetres_finite_or_infinite finite units true)
    exact Bounds.contains_padded low high wide known admitted
  · intro short admitted holds
    rw [literal] at admitted
    exact Bounds.padded_reaches low high admitted here short (accepted.mp holds)
  · rw [first, second]
    simp

/-- Greenwich is within a metre of the origin, and so in the bounds of the buffer. -/
theorem bounds_of_buffer_at_origin :
    let here : Operand := .literal (.geometry (.point ⟨0, 0⟩))
    let near : Predicate := .distance .within (.property "at") here 1.0 "m"
    let far : Predicate := .distance .within here (.property "at") 1.0 "m"
    ∃ box, near.bounds = .envelope box ∧ far.bounds = .envelope box ∧ box.Contains ⟨0, 0⟩ ∧
      near.holds sites "1" (Document.placed ⟨0, 0⟩ "at") = true ∧
      value box.low.y - Bounds.slack (Distance.toMetres 1.0 "m" true) ≤ 0 ∧
      far.holds sites "1" (Document.placed ⟨0, 0⟩ "at") = false := by
  intro here near far
  have one := Attribute.geometries_placed (sites.resolve "at") ⟨0, 0⟩
  have inside : (Geometry.point ⟨0, 0⟩).InWorld := by decide
  have origin : (⟨0, 0⟩ : Coord Float).InWorld := by decide
  obtain ⟨box, first, second, kept, accepted, reached, opposite⟩ := bounds_of_buffer sites
    (.property "at") here "at" (.point ⟨0, 0⟩) 1.0 "m" "1" ⟨0, 0⟩ (Document.placed ⟨0, 0⟩ "at") ⟨0, 0⟩
    rfl rfl inside trivial rfl (by decide) one origin
  have holds : near.holds sites "1" (Document.placed ⟨0, 0⟩ "at") = true :=
    accepted.mpr (by decide +kernel)
  have zero : value (0 : Float) = 0 := by decide +kernel
  refine ⟨box, first, second, kept ⟨0, 0⟩ origin.finite (by decide), holds, ?_, by rw [opposite, holds]; rfl⟩
  exact ((reached (by decide) (by decide) holds).1).trans_eq zero

/-- With the literal first, a buffer accepts what is farther than the limit. Its bounds are still the
neighbourhood of the literal. -/
theorem bounds_of_exchanged_buffer :
    ¬ ∀ (type : FeatureType) (left right : Operand) (name : String) (g : Geometry Float)
      (swapped : Bool) (limit : Float) (units id : String) (centre : Coord Float) (source : Json)
      (c : Coord Float),
      pairing? left right = some ⟨name, .geometry g, swapped⟩ →
      (type.resolve name).geographic = true → g.InWorld → g.WellFormed → g.centroid? = some centre →
      limit.isFinite = true → (type.resolve name).geometries source = [.point c] → c.InWorld →
      (distance .within left right limit units).holds type id source = true →
      (distance .within left right limit units).bounds.Admits c := by
  intro sound
  have one := Attribute.geometries_placed (sites.resolve "at") ⟨50, 0⟩
  have admitted := sound sites (.literal (.geometry (.point ⟨0, 0⟩))) (.property "at") "at"
    (.point ⟨0, 0⟩) true 1.0 "m" "1" ⟨0, 0⟩ (Document.placed ⟨50, 0⟩ "at") ⟨50, 0⟩ rfl rfl
    (by decide) trivial rfl (by decide) one (by decide) (by decide +kernel)
  exact absurd admitted (by decide +kernel)

end Predicate

end GeoSearch
