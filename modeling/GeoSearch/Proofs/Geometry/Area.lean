import GeoSearch.Geometry.Cover
import GeoSearch.Proofs.Binary64.Approximation
import GeoSearch.Proofs.Geometry.Mosaic
import GeoSearch.Proofs.Geometry.Wrap
/-!
How far a computed area is from the exact one. An area is a sum of terms, each the size of a few worlds;
the distance grows with the square of their number.
-/
namespace GeoSearch

open Binary64 (value)

variable {x y : Float} {q r d e : Rat} {m n : Nat}

/-! ### Sums of terms -/

def Measured (x : Float) (q : Rat) (terms : Nat) : Prop :=
  0 < terms ∧ Approximates x q (terms * 2 ^ 17) (terms ^ 2 / 2 ^ 31)

def mostTerms : Nat := 2 ^ 35

namespace Measured

theorem mono (known : Measured x q m) (more : m ≤ n) : Measured x q n := by
  refine ⟨known.1.trans_le more, known.2.mono (Nat.mul_le_mul_right _ more) ?_⟩
  gcongr

theorem zero : Measured (Scalar.ofInt 0) (Scalar.ofInt 0) 1 := by
  have nothing : (Scalar.ofInt 0 : Float).isFinite = true ∧ value (Scalar.ofInt 0 : Float) = 0 := by
    decide +kernel
  have exact : (Scalar.ofInt 0 : Rat) = 0 := Int.cast_zero
  refine ⟨one_pos, nothing.1, ?_, ?_⟩ <;> simp only [nothing.2, exact] <;> norm_num

theorem sum_le (first : 0 < m) (second : 0 < n) :
    (m : Rat) ^ 2 / 2 ^ 31 + n ^ 2 / 2 ^ 31 + ((m * 2 ^ 17 + n * 2 ^ 17 : Nat) : Rat) / 2 ^ 51 ≤
      ((m + n : Nat) : Rat) ^ 2 / 2 ^ 31 := by
  have one : (1 : Rat) ≤ m := by exact_mod_cast first
  have one' : (1 : Rat) ≤ n := by exact_mod_cast second
  have product : (m : Rat) + n ≤ 2 * m * n := by nlinarith
  push_cast
  linarith

theorem add (first : Measured x q m) (second : Measured y r n) (few : m + n ≤ mostTerms) :
    Measured (x + y) (q + r) (m + n) := by
  have some := first.1
  have short : m * 2 ^ 17 + n * 2 ^ 17 < 2 ^ 53 := by
    unfold mostTerms at few
    omega
  exact ⟨by omega, (first.2.add second.2 (by omega) short).mono (by omega) (sum_le some second.1)⟩

theorem sub (first : Measured x q m) (second : Measured y r n) (few : m + n ≤ mostTerms) :
    Measured (x - y) (q - r) (m + n) := by
  have some := first.1
  have short : m * 2 ^ 17 + n * 2 ^ 17 < 2 ^ 53 := by
    unfold mostTerms at few
    omega
  exact ⟨by omega, (first.2.sub second.2 (by omega) short).mono (by omega) (sum_le some second.1)⟩

theorem half (known : Measured x q n) (few : n ≤ mostTerms) : Measured (x / Scalar.ofInt 2) (q / 2) n := by
  obtain ⟨some, finite, size, near⟩ := known
  have two : (Scalar.ofInt 2 : Float).isFinite = true ∧ value (Scalar.ofInt 2 : Float) = 2 := by
    decide +kernel
  have rounds := Binary64.rounds_div finite two.1 (by rw [two.2]; norm_num)
  rw [two.2] at rounds
  have one : (1 : Rat) ≤ n := by exact_mod_cast some
  have short : n * 2 ^ 17 < 2 ^ 53 := by
    unfold mostTerms at few
    omega
  have smaller : |value x / 2| ≤ (n * 2 ^ 17 : Nat) := by
    rw [abs_div, abs_two]
    exact (half_le_self (abs_nonneg _)).trans size
  have nearer : |value x / 2 - q / 2| ≤ n ^ 2 / 2 ^ 32 := by
    rw [← sub_div, abs_div, abs_two]
    linarith
  refine ⟨some, (Approximates.of_rounds rounds (by omega) short smaller nearer).mono le_rfl ?_⟩
  push_cast
  nlinarith

theorem abs (known : Measured x q n) : Measured (Scalar.abs x) |q| n := by
  obtain ⟨some, finite, size, near⟩ := known
  have bare : (Scalar.abs x).isFinite = true ∧ value (Scalar.abs x) = |value x| := by
    have same : Scalar.abs x = Binary64.withSign .positive x := Binary64.abs_eq finite
    rw [same, Binary64.value_withSign _ finite, Binary64.abs_value]
    exact ⟨Binary64.finite_withSign _ finite, rfl⟩
  refine ⟨some, bare.1, ?_, ?_⟩
  · rw [bare.2, abs_abs]
    exact size
  · rw [bare.2]
    exact (abs_abs_sub_abs_le _ _).trans near

theorem neg (known : Measured x q n) : Measured (-x) (-q) n := by
  obtain ⟨some, finite, size, near⟩ := known
  refine ⟨some, Binary64.finite_neg finite, ?_, ?_⟩
  · rw [Binary64.value_neg finite, abs_neg]
    exact size
  · rw [Binary64.value_neg finite, ← neg_sub', abs_neg]
    exact near

/-- Items that are taken in one after the other, each of them a number of terms. -/
theorem foldl {α : Type} {items : List α} {take : Float → α → Float} {exact : Rat → α → Rat}
    {terms : α → Nat} (known : Measured x q n) (few : n + (items.map terms).sum ≤ mostTerms)
    (step : ∀ item ∈ items, ∀ {x q n}, Measured x q n → n + terms item ≤ mostTerms →
      Measured (take x item) (exact q item) (n + terms item)) :
    Measured (items.foldl take x) (items.foldl exact q) (n + (items.map terms).sum) := by
  induction items generalizing x q n with
  | nil => exact known
  | cons item rest ih =>
    rw [List.map_cons, List.sum_cons, ← Nat.add_assoc] at few ⊢
    have taken := step item List.mem_cons_self known (by omega)
    exact ih taken few fun other member => step other (List.mem_cons_of_mem _ member)

end Measured

/-! ### Determinants -/

section

variable {a b : Coord Float} {p q : Position}

theorem measured_determinant (across : Approximates a.x p.x 360 (360 / 2 ^ 51))
    (along : Approximates a.y p.y 180 (180 / 2 ^ 51)) (across' : Approximates b.x q.x 360 (360 / 2 ^ 51))
    (along' : Approximates b.y q.y 180 (180 / 2 ^ 51)) :
    Measured (determinant a b) (determinant p q) 1 := by
  have rising := across.mul along' (by norm_num) (by norm_num)
  have falling := along.mul across' (by norm_num) (by norm_num)
  refine ⟨one_pos, (rising.sub falling (by norm_num) (by norm_num)).mono (by norm_num) ?_⟩
  norm_num

theorem Coord.InWorld.approximates (inside : a.InWorld) :
    Approximates a.x a.exact.x 180 0 ∧ Approximates a.y a.exact.y 90 0 := by
  obtain ⟨finite, across, along⟩ := Coord.inWorld_iff_abs.mp inside
  exact ⟨.of_value finite.1 across, .of_value finite.2 along⟩

theorem Coord.InWorld.shift (inside : a.InWorld) (inside' : b.InWorld) :
    Approximates (a.shift b).x (a.exact.shift b.exact).x 360 (360 / 2 ^ 51) ∧
      Approximates (a.shift b).y (a.exact.shift b.exact).y 180 (180 / 2 ^ 51) := by
  obtain ⟨across, along⟩ := inside.approximates
  obtain ⟨across', along'⟩ := inside'.approximates
  constructor
  · exact (across.sub across' (by norm_num) (by norm_num)).mono le_rfl (by norm_num)
  · exact (along.sub along' (by norm_num) (by norm_num)).mono le_rfl (by norm_num)

end

/-! ### Rings -/

theorem Coord.same_exact {a b : Coord Float} (first : a.Finite) (second : b.Finite) :
    a.exact.same b.exact = a.same b := by
  have equal {x y : Float} (left : x.isFinite = true) (right : y.isFinite = true) :
      Scalar.eq (value x) (value y) = Scalar.eq x y :=
    Bool.eq_iff_iff.mpr (decide_eq_true_iff.trans (Binary64.beq_iff left right).symm)
  unfold same
  rw [exact, exact, equal first.1 second.1, equal first.2 second.2]

theorem segments_exact (ring : List (Coord Float)) :
    segments (ring.map Coord.exact) = (segments ring).map (Prod.map Coord.exact Coord.exact) := by
  rw [segments, segments, ← List.map_tail, List.zip_map]

def ringTerms (ring : List (Coord Float)) : Nat := ring.length + 1

section

variable {ring : List (Coord Float)} (inside : ∀ c ∈ ring, c.InWorld)
  (few : ringTerms ring ≤ mostTerms)

include inside few

theorem measured_segments {origin : Coord Float} (stands : origin ∈ ring) :
    Measured
      ((segments ring).foldl (fun sum s => sum + determinant (s.1.shift origin) (s.2.shift origin))
        (Scalar.ofInt 0))
      ((segments (ring.map Coord.exact)).foldl
        (fun sum s => sum + determinant (s.1.shift origin.exact) (s.2.shift origin.exact))
        (Scalar.ofInt 0)) (ringTerms ring) := by
  have count : ((segments ring).map fun _ => 1).sum ≤ ring.length := by
    simp [segments]
  unfold ringTerms at few ⊢
  rw [segments_exact, List.foldl_map]
  refine Measured.mono (m := 1 + ((segments ring).map fun _ => 1).sum)
    (Measured.foldl Measured.zero (by omega) ?_) (by omega)
  intro s member x q n known fits
  obtain ⟨first, second⟩ := List.of_mem_zip member
  have start := (inside _ first).shift (inside _ stands)
  have stop := (inside _ (List.mem_of_mem_tail second)).shift (inside _ stands)
  exact known.add (measured_determinant start.1 start.2 stop.1 stop.2) fits

theorem measured_twiceRingArea :
    Measured (twiceRingArea ring) (twiceRingArea (ring.map Coord.exact)) (ringTerms ring) := by
  have nothing : Measured (Scalar.ofInt 0) (Scalar.ofInt 0) (ringTerms ring) :=
    Measured.zero.mono (Nat.le_add_left _ _)
  match ring, inside, few, nothing with
  | [], _, _, nothing => exact nothing
  | [_], _, _, nothing => exact nothing
  | [_, _], _, _, nothing => exact nothing
  | first :: second :: third :: rest, inside, few, nothing =>
    obtain ⟨last, found⟩ : ∃ last, (first :: second :: third :: rest).getLast? = some last :=
      ⟨_, List.getLast?_eq_some_getLast (List.cons_ne_nil _ _)⟩
    have same := Coord.same_exact (inside first List.mem_cons_self).finite
      (inside last (List.mem_of_getLast? found)).finite
    have found' : ((first :: second :: third :: rest).map Coord.exact).getLast? = some last.exact := by
      rw [List.getLast?_map, found, Option.map_some]
    have sums := measured_segments inside few List.mem_cons_self
    rw [List.map_cons, List.map_cons, List.map_cons] at found' sums ⊢
    unfold twiceRingArea
    rw [found, found']
    simp only [same]
    split
    · exact sums
    · exact nothing

/-- The computed area of a ring. -/
theorem measured_ringArea :
    Measured (ringArea ring) (ringArea (ring.map Coord.exact)) (ringTerms ring) := by
  have halved : ringArea (ring.map Coord.exact) =
      twiceRingArea (ring.map Coord.exact) / (2 : Int) := rfl
  rw [halved, Int.cast_ofNat]
  exact (measured_twiceRingArea inside few).half few

end

/-! ### Polygons -/

namespace Polygon

def terms (p : Polygon Float) : Nat := ringTerms p.exterior + (p.interiors.map ringTerms).sum

/-- The computed area of a polygon. -/
theorem measured_area {p : Polygon Float} (inside : ∀ c ∈ p.coords, c.InWorld)
    (few : p.terms ≤ mostTerms) : Measured p.area p.exact.area p.terms := by
  unfold terms at few
  have outer := measured_ringArea (fun c member => inside c (List.mem_append_left _ member))
    (by omega : ringTerms p.exterior ≤ mostTerms)
  have rest : Measured
      (p.interiors.foldl (fun sum ring => sum - Scalar.abs (ringArea ring))
        (Scalar.abs (ringArea p.exterior)))
      (p.exact.interiors.foldl (fun sum ring => sum - |ringArea ring|) |ringArea p.exact.exterior|)
      p.terms := by
    unfold exact terms
    rw [List.foldl_map]
    refine Measured.foldl outer.abs few ?_
    intro hole member x q n known fits
    have inner := measured_ringArea
      (fun c stands => inside c (List.mem_append_right _ (List.mem_flatten_of_mem member stands)))
      (by omega : ringTerms hole ≤ mostTerms)
    exact known.sub inner.abs fits
  rw [area_eq, ← foldl_sub_abs, area]
  split
  · rw [← abs_neg]
    exact rest.neg.abs
  · exact rest.abs

end Polygon

/-! ### Geometries -/

namespace Geometry

mutual

def terms : Geometry Float → Nat
  | polygon p => p.terms
  | multiPolygon ps => 1 + (ps.map Polygon.terms).sum
  | collection gs => 1 + memberTerms gs
  | triangle _ _ _ => 4
  | _ => 1

def memberTerms : List (Geometry Float) → Nat
  | [] => 0
  | g :: gs => terms g + memberTerms gs

end

/-! #### Exact areas -/

theorem exactArea_single {g : Geometry Float} {p : Polygon Float} (only : g.areas = [p]) :
    g.exactArea = p.exact.area := by
  simp [exactArea, exactAreas, only]

def memberExactArea (gs : List (Geometry Float)) : Rat :=
  (((memberAreas gs).map Polygon.exact).map Polygon.area).sum

theorem memberExactArea_cons (g : Geometry Float) (gs : List (Geometry Float)) :
    memberExactArea (g :: gs) = g.exactArea + memberExactArea gs := by
  simp [memberExactArea, memberAreas, exactArea, exactAreas]

theorem measured_rect {box : Rect Float} (low : box.low.InWorld) (high : box.high.InWorld)
    (ordered : box.Ordered) : Measured (rect box).area (rect box).exactArea 1 := by
  obtain ⟨width, height⟩ := high.shift low
  have across := (Binary64.le_iff low.finite.1 high.finite.1).mp ordered.1
  have along := (Binary64.le_iff low.finite.2 high.finite.2).mp ordered.2
  have polygon : box.toPolygon.exact = (⟨box.low.exact, box.high.exact⟩ : Rect Rat).toPolygon := rfl
  have sides : (rect box).area = (box.high.shift box.low).x * (box.high.shift box.low).y := rfl
  have product := width.mul height (by norm_num) (by norm_num)
  have single : (rect box).exactArea = box.toPolygon.exact.area := exactArea_single rfl
  have filled := @Rect.area_toPolygon ⟨box.low.exact, box.high.exact⟩ across along
  rw [single, polygon, filled, sides]
  exact ⟨one_pos, product.mono (by norm_num) (by norm_num)⟩

/-- A triangle is as large as its polygon. -/
theorem exactArea_triangle {a b c : Coord Float} (finite : a.Finite) :
    (triangle a b c).exactArea = |(Scalar.ofInt 0 + determinant a.exact b.exact +
      determinant b.exact c.exact + determinant c.exact a.exact) / 2| := by
  have polygon : (trianglePolygon a b c).exact = ⟨[a.exact, b.exact, c.exact, a.exact], []⟩ := by
    rw [trianglePolygon_eq finite]
    rfl
  have single : (triangle a b c).exactArea = (trianglePolygon a b c).exact.area := exactArea_single rfl
  have nothing : (Scalar.ofInt 0 : Rat) = 0 := Int.cast_zero
  have closed : Closed [a.exact, b.exact, c.exact, a.exact] := rfl
  rw [single, polygon, Polygon.area_eq, List.map_nil, List.sum_nil, sub_zero, abs_abs,
    ringArea_eq closed 0, nothing]
  congr 1
  simp only [segments, areaBeside, determinant_rat, List.tail_cons, List.zip_cons_cons,
    List.zip_nil_right, List.map_cons, List.map_nil, List.sum_cons, List.sum_nil]
  ring

theorem measured_triangle {a b c : Coord Float} (first : a.InWorld) (second : b.InWorld)
    (third : c.InWorld) : Measured (triangle a b c).area (triangle a b c).exactArea 4 := by
  have side {a b : Coord Float} (start : a.InWorld) (stop : b.InWorld) :
      Measured (determinant a b) (determinant a.exact b.exact) 1 := by
    obtain ⟨across, along⟩ := start.approximates
    obtain ⟨across', along'⟩ := stop.approximates
    exact measured_determinant (across.mono (by norm_num) (by norm_num))
      (along.mono (by norm_num) (by norm_num)) (across'.mono (by norm_num) (by norm_num))
      (along'.mono (by norm_num) (by norm_num))
  have sides := ((Measured.zero.add (side first second) (by decide)).add (side second third)
    (by decide)).add (side third first) (by decide)
  rw [exactArea_triangle first.finite]
  exact (sides.half (by decide)).abs

mutual

/-- The computed area of a literal in the world. -/
theorem measured_intoWorld : ∀ g : Geometry Float, g.Finite → g.intoWorld.terms ≤ mostTerms →
    Measured g.intoWorld.area g.intoWorld.exactArea g.intoWorld.terms
  | point _, _, _ => Measured.zero
  | line _ _, _, _ => Measured.zero
  | lineString _, _, _ => Measured.zero
  | multiPoint _, _, _ => Measured.zero
  | multiLineString _, _, _ => Measured.zero
  | polygon p, finite, few => by
    rw [exactArea_single (p := p.mapCoords Coord.intoWorld) rfl]
    exact Polygon.measured_area (Polygon.inWorld_intoWorld finite) few
  | multiPolygon ps, finite, few => by
    have total (qs : List (Polygon Float)) : (multiPolygon qs).exactArea =
        qs.foldl (fun sum q => sum + q.exact.area) (Scalar.ofInt 0) := by
      have nothing : (Scalar.ofInt 0 : Rat) = 0 := Int.cast_zero
      rw [exactArea, exactAreas, areas, List.sum_eq_foldl, List.foldl_map, List.foldl_map, nothing]
    rw [intoWorld, mapCoords, total]
    refine Measured.foldl Measured.zero few ?_
    intro q member x r n known fits
    obtain ⟨p, stands, rfl⟩ := List.mem_map.mp member
    have inside := Polygon.inWorld_intoWorld fun c below =>
      finite c (List.mem_flatMap.mpr ⟨p, stands, below⟩)
    exact known.add (Polygon.measured_area inside (by omega)) fits
  | collection gs, finite, few => by
    have sum := measured_members gs finite Measured.zero few
    have nothing : (Scalar.ofInt 0 : Rat) = 0 := Int.cast_zero
    rw [nothing, zero_add] at sum
    exact sum
  | rect r, finite, _ => by
    obtain ⟨low, high⟩ := Rect.inWorld_intoWorld finite
    exact measured_rect low high (framed_rect_intoWorld finite).ordered
  | triangle a b c, finite, _ =>
    have corners := @inWorld_map_intoWorld [a, b, c] finite
    measured_triangle (corners _ (by simp)) (corners _ (by simp)) (corners _ (by simp))

theorem measured_members : ∀ (gs : List (Geometry Float)) {x : Float} {q : Rat} {n : Nat},
    (∀ c ∈ memberCoords gs, c.Finite) → Measured x q n →
    n + memberTerms (mapMembers Coord.intoWorld gs) ≤ mostTerms →
    Measured (memberArea (mapMembers Coord.intoWorld gs) x)
      (q + memberExactArea (mapMembers Coord.intoWorld gs))
      (n + memberTerms (mapMembers Coord.intoWorld gs))
  | [], _, _, _, _, known, _ => by
    have nothing : memberExactArea (mapMembers Coord.intoWorld []) = 0 := rfl
    rw [nothing, add_zero]
    exact known
  | g :: gs, x, q, n, finite, known, few => by
    rw [mapMembers, memberTerms, ← Nat.add_assoc] at few ⊢
    rw [memberExactArea_cons, ← add_assoc]
    have here := measured_intoWorld g (fun c member => finite c (List.mem_append_left _ member))
      (by rw [intoWorld]; omega)
    rw [intoWorld] at here
    exact measured_members gs (fun c member => finite c (List.mem_append_right _ member))
      (known.add here (by omega)) few

end

end Geometry

end GeoSearch
