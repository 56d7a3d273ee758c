import TwinDesk.Geometry.Coord

/-!
# Points and rectangles

A rectangle is half-open: it covers the pixels from `left` up to but not including `right`, and
from `top` up to but not including `bottom`. A rectangle whose right edge is not past its left
edge, or whose bottom edge is not past its top edge, covers nothing.
-/

namespace TwinDesk

/-- A pixel position. -/
structure Point where
  x : Coord
  y : Coord
  deriving DecidableEq, Repr, Inhabited

/-- The point as `(x,y)`. -/
def Point.describe (p : Point) : String :=
  s!"({p.x},{p.y})"

/-- A rectangle, by its four edges. -/
structure Rect where
  left : Coord
  top : Coord
  right : Coord
  bottom : Coord
  deriving DecidableEq, Repr, Inhabited

namespace Rect

/-- The canonical rectangle without pixels. -/
def empty : Rect := ⟨0, 0, 0, 0⟩

/-- The rectangle of a given size at a given origin; its far edges saturate. -/
def ofOriginSize (x y width height : Coord) : Rect :=
  ⟨x, y, x.addSat width, y.addSat height⟩

/-- Width in pixels, zero when the edges are crossed. -/
def width (r : Rect) : Coord :=
  if r.left < r.right then r.right.subSat r.left else 0

/-- Height in pixels, zero when the edges are crossed. -/
def height (r : Rect) : Coord :=
  if r.top < r.bottom then r.bottom.subSat r.top else 0

/-- Whether the rectangle covers no pixel. -/
def isEmpty (r : Rect) : Bool :=
  r.right ≤ r.left || r.bottom ≤ r.top

/-- Whether the rectangle covers the pixel `p`. -/
def contains (r : Rect) (p : Point) : Bool :=
  r.left ≤ p.x && p.x < r.right && r.top ≤ p.y && p.y < r.bottom

/-- Whether `other` lies inside `r`. An empty rectangle lies inside every rectangle. -/
def covers (r other : Rect) : Bool :=
  other.isEmpty ||
    (r.left ≤ other.left && r.top ≤ other.top && other.right ≤ r.right && other.bottom ≤ r.bottom)

/-- Whether two rectangles meet, decided edge by edge. -/
def intersects (r other : Rect) : Bool :=
  !(r.right ≤ other.left || other.right ≤ r.left || r.bottom ≤ other.top || other.bottom ≤ r.top)

/-- The bounding box of two rectangles, taken edge by edge. -/
def union (r other : Rect) : Rect :=
  ⟨min r.left other.left, min r.top other.top, max r.right other.right, max r.bottom other.bottom⟩

/-- The common part of two rectangles, taken edge by edge. -/
def intersection (r other : Rect) : Rect :=
  ⟨max r.left other.left, max r.top other.top, min r.right other.right, min r.bottom other.bottom⟩

/-- Moves every edge into `bounds`; what lies outside is flattened against the nearest edge. -/
def clipTo (r bounds : Rect) : Rect :=
  ⟨r.left.clamp bounds.left bounds.right, r.top.clamp bounds.top bounds.bottom,
    r.right.clamp bounds.left bounds.right, r.bottom.clamp bounds.top bounds.bottom⟩

/-- The rectangle moved by `(dx, dy)`, each edge on its own saturating. -/
def offset (r : Rect) (dx dy : Coord) : Rect :=
  ⟨r.left.addSat dx, r.top.addSat dy, r.right.addSat dx, r.bottom.addSat dy⟩

/-- The top left corner. -/
def origin (r : Rect) : Point :=
  ⟨r.left, r.top⟩

/-- The rectangle as `(left,top)-(right,bottom)`. -/
def describe (r : Rect) : String :=
  s!"({r.left},{r.top})-({r.right},{r.bottom})"

/-- The rectangle in listings. -/
def inspect (r : Rect) : String :=
  "Rect" ++ r.describe

theorem contains_iff {r : Rect} {p : Point} :
    r.contains p = true ↔ r.left ≤ p.x ∧ p.x < r.right ∧ r.top ≤ p.y ∧ p.y < r.bottom := by
  simp [contains, and_assoc]

theorem isEmpty_iff {r : Rect} : r.isEmpty = true ↔ r.right ≤ r.left ∨ r.bottom ≤ r.top := by
  simp [isEmpty]

end Rect

end TwinDesk
