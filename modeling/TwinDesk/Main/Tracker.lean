import TwinDesk.Geometry.Layout
import TwinDesk.Input.PointerEvent

/-!
# Tracking the pointer

The pointer device reports relative motion. The tracker adds it up to a position on the screen and
turns every sample into at most one event.

* `Tracker.contains_moved` — the position stays on the screen.
-/

namespace TwinDesk

/-- One reading of the pointer device. -/
structure PointerSample where
  dx : Coord
  /-- Positive values go down the screen. -/
  dy : Coord
  buttons : Buttons
  deriving DecidableEq, Repr, Inhabited

/-- What a tracker knows of the pointer. -/
structure Tracker where
  pos : Point
  buttons : Buttons
  deriving DecidableEq, Repr, Inhabited

namespace Tracker

/-- The largest motion that a sample can report on one axis. -/
def maxDelta : Coord := 255

/-- A pointer in the middle of the screen, with no button held. -/
def initial : Tracker := ⟨Layout.center, .none⟩

/-- The motion that a reported one stands for: larger ones are cut off. -/
def limit (delta : Coord) : Coord :=
  delta.clamp (-maxDelta) maxDelta

/-- The position after a motion, kept on the screen. -/
def moved (pos : Point) (dx dy : Coord) : Point where
  x := (pos.x.addSat dx).clamp 0 (Layout.screenWidth - 1)
  y := (pos.y.addSat dy).clamp 0 (Layout.screenHeight - 1)

theorem contains_moved (pos : Point) (dx dy : Coord) :
    Layout.screen.contains (moved pos dx dy) = true := by
  rw [Rect.contains_iff]
  refine ⟨Coord.le_clamp (by decide), ?_, Coord.le_clamp (by decide), ?_⟩
  · exact Int16.lt_of_le_of_lt (Coord.clamp_le ..) (by decide)
  · exact Int16.lt_of_le_of_lt (Coord.clamp_le ..) (by decide)

/-- Takes a sample in, and returns the event that it makes. -/
def update (tracker : Tracker) (sample : PointerSample) : Option PointerEvent × Tracker :=
  let dx := limit sample.dx
  let dy := limit sample.dy
  let pos := moved tracker.pos dx dy
  (PointerEvent.classify? pos sample.buttons tracker.buttons dx dy, ⟨pos, sample.buttons⟩)

end Tracker

end TwinDesk
