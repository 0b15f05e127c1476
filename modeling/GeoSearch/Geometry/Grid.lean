import GeoSearch.Geometry.World
import GeoSearch.Json.Basic
/-!
Geohash grids: how many cells of a level cover a box, the level that fits a budget of cells best,
and writing that level into grid aggregations.
-/
namespace GeoSearch.Grid

open Scalar

variable {α : Type} [Scalar α]

def deepest : Nat := 12

/-- Each level adds five bits, longitude first. -/
def longitudeBits (level : Nat) : Nat := (5 * level + 1) / 2

def latitudeBits (level : Nat) : Nat := 5 * level / 2

def cellWidth (level : Nat) : α := ofInt 360 / ofInt (Nat.pow 2 (longitudeBits level))

def cellHeight (level : Nat) : α := ofInt 180 / ofInt (Nat.pow 2 (latitudeBits level))

/-- The number of cells that cover the part of a box inside the world. -/
def cellCount (box : Rect α) (level : Nat) : α :=
  let lowX := greatest box.low.x (ofInt (-180))
  let highX := least box.high.x (ofInt 180)
  let lowY := greatest box.low.y (ofInt (-90))
  let highY := least box.high.y (ofInt 90)
  let width := greatest (highX - lowX) (ofInt 0)
  let height := greatest (highY - lowY) (ofInt 0)
  (width / cellWidth level) * (height / cellHeight level)

/-- Going down from `level`, with `rest` levels left: the first level that exceeds the budget, or
the one above it if that is nearer. -/
def fitFrom (box : Rect α) (budget : α) : (rest level : Nat) → Nat
  | 0, _ => deepest
  | rest + 1, level =>
    let cells := cellCount box level
    if lt budget cells then
      if lt (budget - cellCount box (level - 1)) (cells - budget) then level - 1 else level
    else fitFrom box budget rest (level + 1)

/-- The level whose cell count over a box best fits a budget. -/
def precision (box : Rect α) (budget : Nat) : Nat := fitFrom box (ofInt budget) deepest 1

/-- An aggregation with the level written into its grid, if it has one. -/
def setPrecision (level : Nat) : Json → Json
  | .object members =>
    match members.lookup "geohash_grid" with
    | some (.object grid) =>
      .object (Json.Members.put members "geohash_grid"
        (.object (Json.Members.put grid "precision" (.ofNat level))))
    | _ => .object members
  | other => other

def setPrecisions (level : Nat) (aggregations : Json.Members) : Json.Members :=
  aggregations.map fun (name, entry) => (name, setPrecision level entry)

end GeoSearch.Grid
