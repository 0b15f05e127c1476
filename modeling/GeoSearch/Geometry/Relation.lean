import GeoSearch.Geometry.Location
/-!
Topological relations of two geometries. All their segments cut each other into pieces; positions,
pieces and the faces beside pieces are sampled, and each sample says in which part of either
geometry it lies. What is recorded is the highest dimension met for each pair of parts.
-/
namespace GeoSearch

namespace Relation

/-! ### Samples -/

def segmentsOf (s : Shape) : List (Position × Position) :=
  let rings := s.areas.flatMap fun area => area.exterior :: area.interiors
  ((s.lines ++ rings).flatMap segments).filter fun t => t.1 ≠ t.2

/-- Single positions: points, and the vertices of lines and rings. -/
def vertices (s : Shape) : List Position :=
  s.points ++ s.lines.flatten ++ s.areas.flatMap fun area => area.exterior ++ area.interiors.flatten

/-- Where the lines through two segments meet, if they are not parallel. -/
def meeting? (s t : Position × Position) : Option Position :=
  let d := (s.2.x - s.1.x) * (t.2.y - t.1.y) - (s.2.y - s.1.y) * (t.2.x - t.1.x)
  if d = 0 then none
  else
    let k := ((t.1.x - s.1.x) * (t.2.y - t.1.y) - (t.1.y - s.1.y) * (t.2.x - t.1.x)) / d
    some ⟨s.1.x + k * (s.2.x - s.1.x), s.1.y + k * (s.2.y - s.1.y)⟩

def crossings (s t : Position × Position) : List Position :=
  match meeting? s t with
  | some p => if onSegment s p && onSegment t p then [p] else []
  | none => []

def precedes (a b : Position) : Bool := a.x < b.x || (a.x = b.x && a.y ≤ b.y)

/-- The positions that cut a segment, in order along it. -/
def cuts (all : List (Position × Position)) (marks : List Position) (s : Position × Position) :
    List Position :=
  let found := marks.filter (onSegment s) ++ all.flatMap (crossings s)
  withoutRepeats (found.mergeSort precedes)

def midpoint (a b : Position) : Position := ⟨(a.x + b.x) / 2, (a.y + b.y) / 2⟩

/-- How far along a ray, in units of its direction, a segment is met beyond the start. The ends of a
segment may be one position. -/
def reach (start direction : Position) (s : Position × Position) : List Rat :=
  let square := direction.x * direction.x + direction.y * direction.y
  let along (p : Position) : Rat :=
    ((p.x - start.x) * direction.x + (p.y - start.y) * direction.y) / square
  let ahead : Position := ⟨start.x + direction.x, start.y + direction.y⟩
  let ends := [s.1, s.2].filter fun p => orientation start ahead p = 0
  let met := match meeting? s (start, ahead) with
    | some p => if onSegment s p then [p] else []
    | none => []
  ((ends ++ met).map along).filter fun t => 0 < t

/-- A position beside a piece, before anything else is met in that direction. -/
def beside (obstacles : List (Position × Position)) (start direction : Position) : Position :=
  let step := match obstacles.flatMap (reach start direction) with
    | [] => 1
    | t :: rest => rest.foldl Scalar.least t / 2
  ⟨start.x + step * direction.x, start.y + step * direction.y⟩

/-- Samples with the dimension of what they stand for. -/
def samples (a b : Shape) : List (Position × Nat) :=
  let all := segmentsOf a ++ segmentsOf b
  let marks := vertices a ++ vertices b
  let cut := all.map fun s => (s, cuts all marks s)
  let corners := (marks ++ cut.flatMap (·.2)).map fun p => (p, 0)
  let pieces := cut.flatMap fun (s, ps) => (segments ps).map fun piece => (s, midpoint piece.1 piece.2)
  let edges := pieces.map fun (_, m) => (m, 1)
  let obstacles := all ++ (a.points ++ b.points).map fun p => (p, p)
  let faces :=
    if a.areas.isEmpty && b.areas.isEmpty then []
    else pieces.flatMap fun (s, m) =>
      let dx := s.2.x - s.1.x
      let dy := s.2.y - s.1.y
      [(beside obstacles m ⟨-dy, dx⟩, 2), (beside obstacles m ⟨dy, -dx⟩, 2)]
  corners ++ edges ++ faces

end Relation

/-- For each pair of parts the highest dimension in which they meet, none when they do not. -/
structure Relation where
  meets : Location → Location → Option Nat

namespace Relation

def higher (d : Option Nat) (n : Nat) : Option Nat :=
  match d with
  | none => some n
  | some m => some (max m n)

def highest (located : List (Location × Location × Nat)) (i j : Location) : Option Nat :=
  located.foldl (fun d (k, l, n) => if k = i ∧ l = j then higher d n else d) none

/-- The relation of two shapes. The outsides always share an area. -/
def ofShapes (a b : Shape) : Relation :=
  let located := (samples a b).map fun (p, n) => (a.locate p, b.locate p, n)
  { meets := fun i j => if i = .exterior ∧ j = .exterior then some 2 else highest located i j }

def of (a b : Geometry Float) : Relation := ofShapes (Shape.ofGeometry a) (Shape.ofGeometry b)

variable (r : Relation)

def apart (i j : Location) : Bool := (r.meets i j).isNone

/-- No part but the outsides meets another. -/
def disjoint : Bool :=
  r.apart .interior .interior && r.apart .interior .boundary &&
    r.apart .boundary .interior && r.apart .boundary .boundary

def intersects : Bool := !r.disjoint

/-- Interiors meet and nothing of the first lies outside the second. -/
def within : Bool :=
  !r.apart .interior .interior && r.apart .interior .exterior && r.apart .boundary .exterior

def contains : Bool :=
  !r.apart .interior .interior && r.apart .exterior .interior && r.apart .exterior .boundary

/-- Boundaries meet, interiors do not. -/
def touches : Bool := r.apart .interior .interior && r.intersects

def firstDimension : Option Nat :=
  [r.meets .interior .interior, r.meets .interior .boundary, r.meets .interior .exterior].foldl
    (fun d e => match e with
      | some n => higher d n
      | none => d) none

def secondDimension : Option Nat :=
  [r.meets .interior .interior, r.meets .boundary .interior, r.meets .exterior .interior].foldl
    (fun d e => match e with
      | some n => higher d n
      | none => d) none

/-- Dimensions in order, with nothing below a point. -/
def rank : Option Nat → Nat
  | none => 0
  | some n => n + 1

/-- Interiors meet in a lower dimension than the higher one, and the lower geometry leaves it. -/
def crosses : Bool :=
  let first := rank r.firstDimension
  let second := rank r.secondDimension
  if first < second then !r.apart .interior .interior && !r.apart .interior .exterior
  else if second < first then !r.apart .interior .interior && !r.apart .exterior .interior
  else first = 2 && r.meets .interior .interior = some 0

/-- Interiors of equal dimension meet in that dimension, and each leaves the other. -/
def overlaps : Bool :=
  let first := rank r.firstDimension
  let second := rank r.secondDimension
  let apart := r.apart .interior .exterior || r.apart .exterior .interior
  if first ≠ second || first = 0 then false
  else if first = 2 then r.meets .interior .interior = some 1 && !apart
  else !r.apart .interior .interior && !apart

/-- Both cover the same positions; two empty geometries do. -/
def equal : Bool :=
  let alone (i j : Location) := r.apart i j
  let outer := alone .interior .exterior && alone .boundary .exterior &&
    alone .exterior .interior && alone .exterior .boundary
  outer && (!r.apart .interior .interior || r.disjoint)

end Relation

end GeoSearch
