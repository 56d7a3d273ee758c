import TwinDesk.Geometry.Layout

/-!
# Damage

Which parts of the screen have to be painted again. Rectangles collect until the next frame has
used them up; together they always cover everything that was reported, and they may cover more.

A reported rectangle is clipped to the screen and merged into the first entry that it meets. When
all entries are taken and it meets none, it is merged into the first entry of all, so that the next
frame paints too much rather than too little.
-/

namespace TwinDesk

/-- The parts of the screen that wait to be painted. -/
structure Damage where
  rects : List Rect
  /-- Whether the menu bar has changed. -/
  menuBar : Bool
  deriving DecidableEq, Repr, Inhabited

namespace Damage

/-- Nothing waits to be painted. -/
def clean : Damage := ⟨[], false⟩

/-- Extends the first rectangle that meets `rect` to cover it; none if there is no such. -/
def mergeFirst? (rect : Rect) : List Rect → Option (List Rect)
  | [] => none
  | r :: rest =>
    if r.intersects rect then some (r.union rect :: rest)
    else (mergeFirst? rect rest).map (r :: ·)

/-- Adds a rectangle to those that are kept, or merges it where there is no more room. -/
def append (rect : Rect) (rects : List Rect) : List Rect :=
  if rects.length < Layout.maxDirtyRects then
    rects ++ [rect]
  else
    match rects with
    | [] => [rect]
    | first :: rest => first.union rect :: rest

/-- Reports that a part of the screen has to be painted again. -/
def invalidate (damage : Damage) (rect : Rect) : Damage :=
  let clipped := rect.clipTo Layout.screen
  if clipped.isEmpty then
    damage
  else
    { damage with rects := (mergeFirst? clipped damage.rects).getD (append clipped damage.rects) }

/-- Reports that the menu bar has changed. -/
def invalidateMenuBar (damage : Damage) : Damage :=
  { damage with menuBar := true }

/-- Whether nothing waits to be painted. -/
def isClean (damage : Damage) : Bool :=
  damage.rects.isEmpty && !damage.menuBar

/-- Whether a pixel waits to be painted. -/
def covers (damage : Damage) (p : Point) : Bool :=
  damage.rects.any (·.contains p)

end Damage

end TwinDesk
