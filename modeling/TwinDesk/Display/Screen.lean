import TwinDesk.Display.Frame
import TwinDesk.Hardware.Side

/-!
# The screen

What the Main processor shows: the last frame that was presented.
-/

namespace TwinDesk

/-- The screen. -/
structure Screen where
  frame : Frame
  /-- How many frames were shown, modulo 2³². -/
  presented : UInt32
  /-- The bank that held the last frame. -/
  lastBank : Option Bank

namespace Screen

/-- A white screen. -/
def blank : Screen := ⟨.white, 0, none⟩

/-- Shows the frame at the beginning of a bank's bytes. Bytes too short for a frame show nothing. -/
def present (screen : Screen) (bank : Bank) {n : Nat} (bytes : Vector UInt8 n) : Screen :=
  if h : Layout.frameBytes ≤ n then
    { frame := (bytes.take Layout.frameBytes).cast (Nat.min_eq_left h)
      presented := screen.presented + 1
      lastBank := some bank }
  else
    screen

/-- The color of a pixel. -/
def pixel? (screen : Screen) (p : Point) : Option UInt8 :=
  Frame.pixel? screen.frame.toArray p

/-- The number of pixels that are not white. -/
def ink (screen : Screen) : Nat :=
  screen.frame.ink

end Screen

end TwinDesk
