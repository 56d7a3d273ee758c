import Mathlib.Tactic.MkIffOfInductiveProp
import TwinDesk.Proofs.Geometry.Bounds

/-!
# Edges without a range

A rectangle by four integers, for computing where a window belongs: nothing saturates here. A window
only ever shows edges that were moved onto the screen, and there the coordinates give what the
integers give, although they saturate on the way.

* `Edges`, `Rect.edges` — four integers, and those of a rectangle.
* `Rect.edges_ofOriginSize_clipTo`, `Rect.edges_offset_clipTo` — on the screen, sizing and moving are
  exact.
-/

namespace TwinDesk

/-- The edges of a rectangle, as integers. -/
@[ext] structure Edges where
  left : Int
  top : Int
  right : Int
  bottom : Int
  deriving DecidableEq, Repr

namespace Edges

/-- A rectangle of a given size at a given origin. -/
def ofOriginSize (x y width height : Int) : Edges :=
  ⟨x, y, x + width, y + height⟩

/-- The rectangle moved by `(dx, dy)`. -/
def translate (e : Edges) (dx dy : Int) : Edges :=
  ⟨e.left + dx, e.top + dy, e.right + dx, e.bottom + dy⟩

/-- The rectangle moved to a given origin. -/
def moveTo (e : Edges) (x y : Int) : Edges :=
  e.translate (x - e.left) (y - e.top)

/-- The rectangle of another size at the same origin. -/
def resize (e : Edges) (width height : Int) : Edges :=
  ofOriginSize e.left e.top width height

/-- Every edge moved into `bounds`. -/
def clampTo (e bounds : Edges) : Edges :=
  ⟨min (max e.left bounds.left) bounds.right, min (max e.top bounds.top) bounds.bottom,
    min (max e.right bounds.left) bounds.right, min (max e.bottom bounds.top) bounds.bottom⟩

/-- The rectangle without its outermost pixels. -/
def inset (e : Edges) : Edges :=
  ⟨e.left + 1, e.top + 1, e.right - 1, e.bottom - 1⟩

/-- Every edge of `e` is inside of `bounds`. -/
@[mk_iff] structure Inside (e bounds : Edges) : Prop where
  left : bounds.left ≤ e.left
  top : bounds.top ≤ e.top
  right : e.right ≤ bounds.right
  bottom : e.bottom ≤ bounds.bottom

/-- The screen. -/
def screen : Edges :=
  ⟨0, 0, 320, 224⟩

end Edges

namespace Coord

/-- A sum that is clamped need not fit. -/
theorem toInt_clamp_addSat (a b low high : Coord) :
    ((a.addSat b).clamp low high).toInt =
      min (max (a.toInt + b.toInt) low.toInt) high.toInt := by
  have bounds := low.toInt_bounds
  have bounds' := high.toInt_bounds
  rw [toInt_clamp, toInt_addSat]
  omega

/-- Neither need the distance by which an edge moves, as long as both bounds are within the largest
distance of the edge. -/
theorem toInt_clamp_addSat_subSat {edge low high : Coord} (target origin : Coord)
    (below : edge.toInt - 32768 ≤ low.toInt) (above : high.toInt ≤ edge.toInt + 32767) :
    ((edge.addSat (target.subSat origin)).clamp low high).toInt =
      min (max (edge.toInt + (target.toInt - origin.toInt)) low.toInt) high.toInt := by
  rw [toInt_clamp_addSat, toInt_subSat]
  omega

end Coord

namespace Rect

/-- The edges of a rectangle. -/
def edges (r : Rect) : Edges :=
  ⟨r.left.toInt, r.top.toInt, r.right.toInt, r.bottom.toInt⟩

theorem toInt_bounds (r : Rect) :
    (-32768 ≤ r.left.toInt ∧ r.left.toInt ≤ 32767) ∧
      (-32768 ≤ r.top.toInt ∧ r.top.toInt ≤ 32767) ∧
      (-32768 ≤ r.right.toInt ∧ r.right.toInt ≤ 32767) ∧
      -32768 ≤ r.bottom.toInt ∧ r.bottom.toInt ≤ 32767 :=
  ⟨r.left.toInt_bounds, r.top.toInt_bounds, r.right.toInt_bounds, r.bottom.toInt_bounds⟩

theorem edges_screen : Layout.screen.edges = .screen := rfl

/-- The far edges of a rectangle saturate off the screen only. -/
theorem edges_ofOriginSize_clipTo (x y width height : Coord) (bounds : Rect) :
    ((ofOriginSize x y width height).clipTo bounds).edges =
      (Edges.ofOriginSize x.toInt y.toInt width.toInt height.toInt).clampTo bounds.edges := by
  apply Edges.ext
  · apply Coord.toInt_clamp
  · apply Coord.toInt_clamp
  · apply Coord.toInt_clamp_addSat
  · apply Coord.toInt_clamp_addSat

/-- An edge that cannot be moved far enough leaves the screen all the same. -/
theorem edges_offset_clipTo {r : Rect} (onScreen : r.OnScreen) (x y : Coord) :
    ((r.offset (x.subSat r.left) (y.subSat r.top)).clipTo Layout.screen).edges =
      (r.edges.moveTo x.toInt y.toInt).clampTo .screen := by
  obtain ⟨left, top, right, bottom⟩ := onScreen
  have screen := toInt_screen
  rw [← edges_screen]
  apply Edges.ext
  · apply Coord.toInt_clamp_addSat_subSat
    · omega
    · omega
  · apply Coord.toInt_clamp_addSat_subSat
    · omega
    · omega
  · apply Coord.toInt_clamp_addSat_subSat
    · omega
    · omega
  · apply Coord.toInt_clamp_addSat_subSat
    · omega
    · omega

end Rect

end TwinDesk
