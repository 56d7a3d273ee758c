import TwinDesk.Main.FrameLoop

/-!
# Scripted pointers

A pointer that follows waypoints. With every sample it moves toward the next waypoint, on each axis
by at most its speed, with that waypoint's buttons held. A waypoint at the place where the pointer
already is takes one sample, which presses or releases buttons. Behind the last waypoint there are
no more samples.
-/

namespace TwinDesk

/-- A position, and the buttons held on the way there. -/
structure Waypoint where
  target : Point
  buttons : Buttons
  deriving DecidableEq, Repr, Inhabited

namespace Waypoint

/-- Moves with no button held. -/
def hover (x y : Coord) : Waypoint := ⟨⟨x, y⟩, .none⟩

/-- Moves with the left button held. -/
def drag (x y : Coord) : Waypoint := ⟨⟨x, y⟩, .left⟩

end Waypoint

/-- A pointer that follows waypoints. -/
structure PointerScript where
  /-- The waypoints that are not reached yet. -/
  remaining : List Waypoint
  position : Point
  speed : Coord
  deriving DecidableEq, Repr, Inhabited

namespace PointerScript

/-- The largest step on each axis, unless another one is asked for. -/
def defaultSpeed : Coord := 8

/-- A pointer in the middle of the screen. -/
def ofWaypoints (waypoints : List Waypoint) : PointerScript :=
  ⟨waypoints, Layout.center, defaultSpeed⟩

/-- The script at another speed, which is at least 1. -/
def withSpeed (script : PointerScript) (speed : Coord) : PointerScript :=
  { script with speed := max speed 1 }

/-- The step from one coordinate toward another. -/
def step (speed here there : Coord) : Checked Coord := do
  let way ← Coord.sub there here
  return way.clamp (-speed) speed

/-- Moves toward the next waypoint. -/
def advance (script : PointerScript) : Checked (Option PointerSample × PointerScript) :=
  match script.remaining with
  | [] => return (none, script)
  | waypoint :: rest => do
    let dx ← step script.speed script.position.x waypoint.target.x
    let dy ← step script.speed script.position.y waypoint.target.y
    let position : Point :=
      ⟨← Coord.add script.position.x dx, ← Coord.add script.position.y dy⟩
    let remaining := if position = waypoint.target then rest else script.remaining
    return (some ⟨dx, dy, waypoint.buttons⟩, { script with remaining, position })

instance : PointerSource PointerScript where
  poll := advance

/-- A session: File > New opens a window, which is dragged by its title bar; Apps > Paint opens a
sketch, into which a stroke is drawn. -/
def demo : PointerScript :=
  ofWaypoints
    [.hover 20 5, .drag 20 5, .drag 30 28, .hover 30 28,
     .hover 130 58, .drag 130 58, .drag 160 100, .hover 160 100,
     .hover 95 5, .drag 95 5, .drag 100 56, .hover 100 56,
     .hover 60 90, .drag 60 90, .drag 100 110, .hover 100 110]

end PointerScript

end TwinDesk
