import TwinDesk.Display.Drawing
import TwinDesk.Machine.ServingSub
import TwinDesk.Machine.Station
import TwinDesk.Simulation.Script
import TwinDesk.Simulation.Settings
import TwinDesk.Simulation.SimulationError

/-!
# Simulations

A simulation boots both processors over a chip that exchanges banks at once, runs a number of frames
with a scripted pointer, and tells what is then on the screen.
-/

namespace TwinDesk

/-- A window as the Sub processor left it. -/
structure WindowSnapshot where
  title : String
  frame : Rect
  active : Bool
  deriving DecidableEq, Repr, Inhabited

/-- The snapshot of a window. -/
def Window.snapshot (window : Window) : WindowSnapshot :=
  ⟨window.title.text, window.frame, window.isActive⟩

/-- What a simulation leaves. -/
structure Summary where
  /-- The frames that the Main processor showed. -/
  frames : UInt32
  /-- The frames that the Sub processor painted. -/
  rendered : UInt32
  /-- The windows from the back to the front. -/
  windows : List WindowSnapshot
  screen : Screen

namespace Simulation

/-- A machine that follows a script and starts applications. -/
abbrev Machine : Type := Station PointerScript (ServingSub Canvas)

/-- The machine at power-up. -/
def machine (script : PointerScript) : Machine :=
  .start (.inReset (.initial .blank (.standIns []))) (.initial true) script

/-- The error that stands for a halt of the Main processor in a frame; frame 0 is the boot. -/
def haltError (settings : Settings) (frame : UInt32) : Halt → SimulationError
  | .fault _ => .panicked .main
  | .stuck => .watchdog frame (settings.watchdog.toNat * 1000)

/-- The machine after the boot. -/
def booted (settings : Settings) (script : PointerScript) : Except SimulationError Machine :=
  match (machine script).boot with
  | (.ok (.ok ()), machine) => .ok machine
  | (.ok (.error e), _) => .error (.main e)
  | (.error halt, _) => .error (haltError settings 0 halt)

/-- What a machine leaves. -/
def summary (machine : Machine) : Summary :=
  let dispatcher := machine.sub.peer.dispatcher
  { frames := machine.loop.frames
    rendered := dispatcher.frames
    windows := dispatcher.desktop.compositor.windows.backToFront.map Window.snapshot
    screen := machine.loop.screen }

/-- Runs a simulation. -/
def run (settings : Settings) (script : PointerScript) : Except SimulationError Summary := do
  let machine ← booted settings script
  match machine.runFor settings.frames.toNat with
  | (.ok (.ok ()), machine) => .ok (summary machine)
  | (.ok (.error e), _) => .error (.main e)
  | (.error halt, machine) => .error (haltError settings (machine.loop.frames + 1) halt)

end Simulation

end TwinDesk
