import GeoSearch.Proofs.Query.Box
/-!
Which positions a box clause keeps. A literal is brought into the world coordinate by coordinate, and
its bounds are taken afterwards. So bounds that reach the antimeridian are turned inside out, unless
they go around the world, and then the clause loses positions that were in them.
-/
namespace GeoSearch

open Binary64 (value)
open SpatialRelation (goesAround)

variable {box turned : Rect Float} {c : Coord Float} {g : Geometry Float} {swapped : Bool}
  {coords : List (Coord Float)}

namespace Rect

/-- A box holds a position, or one that is whole turns away from it. -/
def HoldsTurned (box : Rect Float) (c : Coord Float) : Prop :=
  ∃ turns : Int, box.Holds ⟨value c.x + 360 * turns, value c.y⟩

def MeetsWorld (box : Rect Float) : Prop := value box.low.y ≤ 90 ∧ -90 ≤ value box.high.y

/-- A box reaches the antimeridian, on one turn or another. -/
def ReachesAntimeridian (box : Rect Float) : Prop :=
  ∃ turns : Int, value box.low.x ≤ 180 + 360 * turns ∧ 180 + 360 * turns ≤ value box.high.x

/-- What does not reach the antimeridian is in the world after as many turns. -/
theorem turns_of_not_reaches (order : value box.low.x ≤ value box.high.x)
    (apart : ¬ box.ReachesAntimeridian) :
    ∃ k : Int, -180 < value box.low.x - 360 * k ∧ value box.high.x - 360 * k < 180 := by
  obtain ⟨low, high⟩ := floor_turns (value box.low.x + 180)
  generalize ((value box.low.x + 180) / 360).floor = k at low high
  refine ⟨k, ?_, ?_⟩
  · by_contra first
    have here : value box.low.x = 180 + 360 * ((k - 1 : Int) : Rat) := by
      push_cast
      linarith
    exact apart ⟨k - 1, here.le, here.ge.trans order⟩
  · by_contra last
    exact apart ⟨k, by linarith, by linarith⟩

end Rect

section

variable (written : box.Frames coords) (brought : turned.Frames (coords.map Coord.intoWorld))
  (finite : ∀ c ∈ coords, c.Finite)

include written brought finite

/-- Latitudes are only clamped, which keeps what is between the poles. -/
theorem level_of_holds (inside : c.InWorld) (south : value box.low.y ≤ value c.y)
    (north : value c.y ≤ value box.high.y) : turned.level c = true := by
  have known := brought.finite
  have still : clampLatitude (value c.y) = value c.y :=
    clampLatitude_self inside.degrees.2.1 inside.degrees.2.2
  have clamped (b : Coord Float) (member : b ∈ coords) :
      value b.intoWorld.y = clampLatitude (value b.y) := (value_clampLatitude (finite b member).2).2
  have along := brought.along
  rw [List.map_map] at along
  rw [Rect.level, Bool.and_eq_true, decide_eq_true_iff, decide_eq_true_iff,
    Binary64.le_iff known.1.2 inside.finite.2, Binary64.le_iff inside.finite.2 known.2.2, ← still]
  exact written.along.image along clampLatitude_mono clamped south north

/-- Away from the antimeridian, all longitudes are turned alike. -/
theorem contains_of_holdsTurned (inside : c.InWorld) (holds : box.HoldsTurned c)
    (apart : ¬ box.ReachesAntimeridian) : turned.Contains c := by
  obtain ⟨turns, left, right, below, above⟩ := holds
  obtain ⟨k, west, east⟩ := box.turns_of_not_reaches written.across.low_le_high apart
  have known := brought.finite
  have level := level_of_holds written brought finite inside below above
  have alike (b : Coord Float) (member : b ∈ coords) : value b.intoWorld.x = value b.x - 360 * k := by
    have low := written.across.low_le (List.mem_map_of_mem member)
    have high := written.across.le_high (List.mem_map_of_mem member)
    rw [Coord.intoWorld, (value_wrapLongitude (finite b member).1).2]
    exact (turned_wrapLongitude _).eq (by linarith) (by linarith)
  have here : value c.x = value c.x + 360 * turns - 360 * k := by
    have equal : turns = k := turn_eq (t := value c.x + 360 * turns)
      (by linarith [inside.degrees.1.1]) (by linarith [inside.degrees.1.2]) (by linarith) (by linarith)
    rw [equal]
    ring
  have across := brought.across
  rw [List.map_map] at across
  simp only [Rect.level, Bool.and_eq_true, decide_eq_true_iff] at level
  have mono {s t : Rat} (order : s ≤ t) : s - 360 * (k : Rat) ≤ t - 360 * k :=
    sub_le_sub_right order _
  have between := written.across.image across mono alike left right
  refine ⟨?_, level⟩
  rw [Binary64.le_iff known.1.1 inside.finite.1, Binary64.le_iff inside.finite.1 known.2.1, here]
  exact between

/-- Bounds that reach across the world after they were brought into it were as wide before. -/
theorem width_of_ends (west : value turned.low.x ≤ -180) (east : 180 ≤ value turned.high.x) :
    360.0 ≤ box.width := by
  have turn : (360.0 : Float) = Scalar.ofInt 360 := by decide
  obtain ⟨known, -⟩ := finite_degrees
  obtain ⟨full, -⟩ := value_degrees
  have wrapped (b : Coord Float) (member : b ∈ coords) :
      Turned (value b.x) (value b.intoWorld.x) := by
    rw [Coord.intoWorld, (value_wrapLongitude (finite b member).1).2]
    exact turned_wrapLongitude _
  rw [brought.across.low_le_iff, List.map_map] at west
  rw [brought.across.le_high_iff, List.map_map] at east
  obtain ⟨_, listed, first⟩ := west
  obtain ⟨a, member, rfl⟩ := List.mem_map.mp listed
  obtain ⟨_, listed', last⟩ := east
  obtain ⟨b, member', rfl⟩ := List.mem_map.mp listed'
  have low := written.across.low_le (List.mem_map_of_mem member)
  have high := written.across.le_high (List.mem_map_of_mem member')
  have start := (wrapped a member).beyond_west (le_antisymm first (wrapped a member).west)
  have stop := (wrapped b member').beyond_east (le_antisymm (wrapped b member').east last)
  rw [turn]
  apply Binary64.le_sub written.finite.2.1 written.finite.1.1 known
  · rw [full]
    norm_num
  · rw [full]
    linarith

end

namespace SpatialRelation

/-- A literal goes around the world if its bounds reach across it. -/
theorem goesAround_of_ends (finite : g.Finite) (formed : g.WellFormed) (bounded : g.bounds = some box)
    (brought : turned.Frames (g.frame.map Coord.intoWorld)) (west : value turned.low.x ≤ -180)
    (east : 180 ≤ value turned.high.x) : goesAround g = true := by
  have wide := width_of_ends (Geometry.frames_bounds finite formed bounded) brought
    (fun c member => finite c (Geometry.frame_subset g member)) west east
  rw [goesAround, bounded]
  exact decide_eq_true wide

end SpatialRelation

/-- Where a latitude meets the antimeridian from the east and from the west. -/
theorem inWorld_ends {y : Float} (finite : y.isFinite = true) (south : -90 ≤ value y)
    (north : value y ≤ 90) :
    (⟨Scalar.ofInt (-180), y⟩ : Coord Float).InWorld ∧
      (⟨Scalar.ofInt 180, y⟩ : Coord Float).InWorld := by
  obtain ⟨-, known, known', -⟩ := finite_degrees
  obtain ⟨-, east, west, -⟩ := value_degrees
  have first : (⟨Scalar.ofInt (-180), y⟩ : Coord Float).Finite := ⟨known', finite⟩
  have last : (⟨Scalar.ofInt 180, y⟩ : Coord Float).Finite := ⟨known, finite⟩
  rw [Coord.inWorld_iff first, Coord.inWorld_iff last, west, east]
  exact ⟨⟨⟨by norm_num, by norm_num⟩, south, north⟩, ⟨by norm_num, by norm_num⟩, south, north⟩

/-- Of bounds that reach the antimeridian, both sides of it are in the world. -/
theorem exists_ends (finite : box.Finite) (ordered : box.Ordered) (reaches : box.ReachesAntimeridian)
    (meets : box.MeetsWorld) : ∃ west east : Coord Float,
      (west.InWorld ∧ box.HoldsTurned west ∧ value west.x = -180) ∧
        east.InWorld ∧ box.HoldsTurned east ∧ value east.x = 180 := by
  obtain ⟨turns, left, right⟩ := reaches
  obtain ⟨known, clamped⟩ := value_clampLatitude finite.1.2
  have order := (Binary64.le_iff finite.1.2 finite.2.2).mp ordered.2
  rw [clampLatitude_eq, min_eq_left meets.1] at clamped
  have below : value box.low.y ≤ value (clampLatitude box.low.y) :=
    (le_max_right _ _).trans_eq clamped.symm
  have above : value (clampLatitude box.low.y) ≤ value box.high.y :=
    clamped.trans_le (max_le meets.2 order)
  obtain ⟨inside, inside'⟩ := inWorld_ends known ((le_max_left _ _).trans_eq clamped.symm)
    (clamped.trans_le (max_le (by norm_num) meets.1))
  obtain ⟨-, east, west, -⟩ := value_degrees
  refine ⟨_, _, ⟨inside, ⟨turns + 1, ?_, ?_, below, above⟩, west⟩, inside', ⟨turns, ?_, ?_, below, above⟩,
    east⟩
  · rw [west]
    push_cast
    linarith
  · rw [west]
    push_cast
    linarith
  · rw [east]
    exact left
  · rw [east]
    exact right

namespace Predicate

section

variable {type : FeatureType} {left right : Operand} {name : String} {source : Json}
  (paired : pairing? left right = some ⟨name, .geometry g, swapped⟩)
  (kept : (type.resolve name).prepared g = .clipped g.intoWorld)
  (stored : (type.resolve name).storage = .point) (finite : g.Finite)
  (bounded : g.intoWorld.bounds = some turned)

include paired kept stored finite bounded

theorem selects_box_iff (native : Json → String → Json → Bool) (id : String)
    (one : (type.resolve name).geometries source = [.point c]) (inside : c.InWorld) :
    (compile type (.spatial .bbox left right)).clause.selects (.ofPositions native) id source = true ↔
      turned.Contains c ∨ goesAround g = true ∧ turned.level c = true := by
  rw [selects_box paired kept native finite stored bounded one inside, Bool.or_eq_true,
    Bool.and_eq_true, holds_box paired kept finite bounded one inside.finite]

/-- A clause that keeps both sides of the antimeridian is that of a literal around the world. -/
theorem goesAround_of_kept (native : Json → String → Json → Bool) (id : String) (formed : g.WellFormed)
    (written : g.bounds = some box) (reaches : box.ReachesAntimeridian) (meets : box.MeetsWorld)
    (keeps : ∀ source c, (type.resolve name).geometries source = [.point c] → c.InWorld →
      box.HoldsTurned c → (compile type (.spatial .bbox left right)).clause.selects
        (.ofPositions native) id source = true) : goesAround g = true := by
  have frames := Geometry.frames_bounds finite formed written
  obtain ⟨brought, -, -⟩ := Geometry.bounds_intoWorld finite bounded
  obtain ⟨west, east, ⟨inside, held, first⟩, inside', held', last⟩ :=
    exists_ends frames.finite frames.ordered reaches meets
  have admitted {c : Coord Float} (inside : c.InWorld) (held : box.HoldsTurned c) :=
    (selects_box_iff paired kept stored finite bounded native id
      ((type.resolve name).geometries_placed c) inside).mp
        (keeps _ c ((type.resolve name).geometries_placed c) inside held)
  rcases admitted inside held with contains | ⟨around, -⟩
  · rcases admitted inside' held' with contains' | ⟨around, -⟩
    · apply SpatialRelation.goesAround_of_ends finite formed written brought
      · rw [← first]
        exact (Binary64.le_iff brought.finite.1.1 inside.finite.1).mp contains.1.1
      · rw [← last]
        exact (Binary64.le_iff inside'.finite.1 brought.finite.2.1).mp contains'.1.2
    · exact around
  · exact around

/-- Around the world only latitudes count, away from the antimeridian all longitudes turn alike, and
beyond the poles there is no position. -/
theorem selects_of_holdsTurned (native : Json → String → Json → Bool) (id : String)
    (formed : g.WellFormed) (written : g.bounds = some box)
    (allowed : goesAround g = true ∨ ¬ box.ReachesAntimeridian ∨ ¬ box.MeetsWorld)
    (one : (type.resolve name).geometries source = [.point c]) (inside : c.InWorld)
    (holds : box.HoldsTurned c) :
    (compile type (.spatial .bbox left right)).clause.selects (.ofPositions native) id source = true := by
  have frames := Geometry.frames_bounds finite formed written
  obtain ⟨brought, -, -⟩ := Geometry.bounds_intoWorld finite bounded
  have known (c : Coord Float) (member : c ∈ g.frame) : c.Finite :=
    finite c (Geometry.frame_subset g member)
  rw [selects_box_iff paired kept stored finite bounded native id one inside]
  rcases allowed with around | apart | beyond
  · obtain ⟨turns, held⟩ := holds
    exact .inr ⟨around, level_of_holds frames brought known inside held.below held.above⟩
  · exact .inl (contains_of_holdsTurned frames brought known inside holds apart)
  · obtain ⟨turns, held⟩ := holds
    have degrees := inside.degrees.2
    exact absurd ⟨held.below.trans degrees.2, degrees.1.trans held.above⟩ beyond

end

/-- A box clause keeps every position in the bounds of its literal, on any turn, just if these go around
the world or do not reach the antimeridian, or lie beyond the poles. -/
theorem box_keeps_bounds (type : FeatureType) (left right : Operand) (name : String) (g : Geometry Float)
    (swapped : Bool) (native : Json → String → Json → Bool) (box : Rect Float)
    (paired : pairing? left right = some ⟨name, .geometry g, swapped⟩)
    (stored : (type.resolve name).storage = .point)
    (geographic : (type.resolve name).geographic = true) (finite : g.Finite) (formed : g.WellFormed)
    (bounded : g.bounds = some box) :
    let compiled := compile type (.spatial .bbox left right)
    compiled.exact = true ∧
    ((∀ id source c, (type.resolve name).geometries source = [.point c] → c.InWorld →
        box.HoldsTurned c → compiled.clause.selects (.ofPositions native) id source = true) ↔
      goesAround g = true ∨ ¬ box.ReachesAntimeridian ∨ ¬ box.MeetsWorld) := by
  obtain ⟨first, member⟩ := (Geometry.frames_bounds finite formed bounded).exists_mem
  obtain ⟨turned, bounded'⟩ := Geometry.exists_bounds_intoWorld finite member
  obtain ⟨brought, -, -⟩ := Geometry.bounds_intoWorld finite bounded'
  dsimp only
  rcases (type.resolve name).prepared_geographic geographic g with
    ⟨-, empty⟩ | ⟨-, whole, world⟩ | ⟨-, kept⟩
  · rw [Geometry.isEmpty_eq_false member] at empty
    cases empty
  · rw [(settled_world paired stored world).1]
    obtain ⟨west, east⟩ := Geometry.ends_of_isWorld whole bounded' brought.finite
    have around := SpatialRelation.goesAround_of_ends finite formed bounded brought west east
    exact ⟨rfl, fun _ => .inl around, fun _ _ _ _ _ _ _ => rfl⟩
  · have listed := compile_box paired kept stored bounded'
    refine ⟨listed ▸ rfl, ?_, ?_⟩
    · intro keeps
      by_contra otherwise
      push Not at otherwise
      obtain ⟨apart, reaches, meets⟩ := otherwise
      exact apart (goesAround_of_kept paired kept stored finite bounded' native "" formed bounded reaches
        meets (keeps ""))
    · exact fun allowed id _ _ one inside holds =>
        selects_of_holdsTurned paired kept stored finite bounded' native id formed bounded allowed one
          inside holds

/-- The belt around the world keeps its positions. -/
theorem box_keeps_bounds_of_belt :
    let leaf : Predicate := .spatial .bbox (.literal (.geometry belt)) (.property "at")
    pairing? (.literal (.geometry belt)) (.property "at") = some ⟨"at", .geometry belt, true⟩ ∧
      (sites.resolve "at").storage = .point ∧ (sites.resolve "at").geographic = true ∧
      belt.Finite ∧ belt.WellFormed ∧ belt.bounds = some ⟨⟨-190, -10⟩, ⟨190, 10⟩⟩ ∧
      (compile sites leaf).exact = true ∧
      ∀ id source c, (sites.resolve "at").geometries source = [.point c] → c.InWorld →
        Rect.HoldsTurned ⟨⟨-190, -10⟩, ⟨190, 10⟩⟩ c →
        (compile sites leaf).clause.selects (.ofPositions fun _ _ _ => false) id source = true := by
  intro leaf
  have paired : pairing? (.literal (.geometry belt)) (.property "at") =
    some ⟨"at", .geometry belt, true⟩ := rfl
  have formed : belt.WellFormed := ⟨rfl, nofun⟩
  obtain ⟨exact, keeps⟩ := box_keeps_bounds sites _ _ "at" belt true (fun _ _ _ => false) _ paired rfl
    rfl finite_belt formed bounds_belt.1
  exact ⟨rfl, rfl, rfl, finite_belt, formed, bounds_belt.1, exact, keeps.mpr (.inl goesAround_belt)⟩

def band : Geometry Float :=
  .polygon ⟨[⟨170, -10⟩, ⟨190, -10⟩, ⟨190, 10⟩, ⟨170, 10⟩, ⟨170, -10⟩], []⟩

theorem finite_band : band.Finite := by decide

theorem bounds_band : band.bounds = some ⟨⟨170, -10⟩, ⟨190, 10⟩⟩ ∧
    band.intoWorld.bounds = some ⟨⟨-170, -10⟩, ⟨170, 10⟩⟩ := by
  decide +kernel

theorem prepared_band : (sites.resolve "at").prepared band = .clipped band.intoWorld := by
  apply Attribute.prepared_clipped rfl rfl
  rw [Geometry.isWorld, bounds_band.2]
  rfl

/-- A position in the band, on its western side, is lost. -/
theorem position_across_antimeridian_is_lost :
    ¬ ∀ (type : FeatureType) (left right : Operand) (name : String) (g : Geometry Float)
        (swapped : Bool) (box : Rect Float) (id : String) (source : Json) (c : Coord Float),
      pairing? left right = some ⟨name, .geometry g, swapped⟩ →
      (type.resolve name).storage = .point → (type.resolve name).geographic = true → g.Finite →
      g.bounds = some box → (type.resolve name).geometries source = [.point c] → c.InWorld →
      box.HoldsTurned c →
      (compile type (.spatial .bbox left right)).clause.selects (.ofPositions fun _ _ _ => false) id
        source = true := by
  intro keeps
  have paired : pairing? (.property "at") (.literal (.geometry band)) =
    some ⟨"at", .geometry band, false⟩ := rfl
  have one : (sites.resolve "at").geometries (Document.placed ⟨175, 0⟩ "at") = [.point ⟨175, 0⟩] :=
    (sites.resolve "at").geometries_placed ⟨175, 0⟩
  have inside : (⟨175, 0⟩ : Coord Float).InWorld := by decide
  have written : Rect.Contains ⟨⟨170, -10⟩, ⟨190, 10⟩⟩ ⟨175, 0⟩ := by
    refine ⟨⟨?_, ?_⟩, ?_, ?_⟩ <;> decide
  have corners : Rect.Finite ⟨⟨170, -10⟩, ⟨190, 10⟩⟩ := by
    refine ⟨⟨?_, ?_⟩, ?_, ?_⟩ <;> decide
  have holds : Rect.HoldsTurned ⟨⟨170, -10⟩, ⟨190, 10⟩⟩ ⟨175, 0⟩ := by
    refine ⟨0, ?_⟩
    rw [Int.cast_zero, mul_zero, add_zero]
    exact (Rect.contains_iff corners inside.finite).mp written
  have selected := keeps sites _ _ "at" band false _ "1" _ ⟨175, 0⟩ paired rfl rfl finite_band
    bounds_band.1 one inside holds
  rw [selects_box_iff paired prepared_band rfl finite_band bounds_band.2 _ _ one inside] at selected
  rcases selected with ⟨⟨-, east⟩, -⟩ | ⟨around, -⟩
  · exact absurd east (by decide)
  · exact absurd around (by decide)

end Predicate

end GeoSearch
