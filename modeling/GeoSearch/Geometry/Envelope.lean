import GeoSearch.Geometry.Basic
import GeoSearch.Decimal.Reader
import GeoSearch.Text.Split
/-!
Boxes as text: `minx,miny,maxx,maxy`.
-/
namespace GeoSearch.Envelope

inductive ReadError where
  | number (why : Decimal.ReadError)
  | reversed
  | count
  deriving Repr, DecidableEq

def ReadError.reason : ReadError → String
  | .number why => why.message
  | .reversed => "min exceeds max"
  | .count => "expected four numbers"

def numbers (text : String) : Except Decimal.ReadError (List Float) :=
  (Text.split ',' text.toList).mapM fun piece => Decimal.read (Text.trimChars piece)

/-- Reads a box; its numbers come first, then their count and their order. -/
def read (text : String) : Except ReadError (Rect Float) :=
  match numbers text with
  | .error why => .error (.number why)
  | .ok [lowX, lowY, highX, highY] =>
    if lowX ≤ highX ∧ lowY ≤ highY then .ok (Rect.ofCorners ⟨lowX, lowY⟩ ⟨highX, highY⟩)
    else .error .reversed
  | .ok _ => .error .count

end GeoSearch.Envelope
