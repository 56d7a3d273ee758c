import TwinDesk.Main.MainError
import TwinDesk.Window.DesktopError

/-!
# Errors of a simulation
-/

namespace TwinDesk

/-- Why a simulation ended early. -/
inductive SimulationError where
  /-- A frame took too long; frame 0 is the boot. -/
  | watchdog (frame : UInt32) (micros : Nat)
  /-- The Main processor stopped with an error. -/
  | main (error : MainError)
  /-- The Sub processor could not set its desktop up. -/
  | subBoot (error : DesktopError)
  /-- The Sub processor's end of the link failed. -/
  | subLink (error : LinkError)
  /-- The Sub processor took too long to stop. -/
  | subStuck (micros : Nat)
  /-- A processor stopped with a fault. -/
  | panicked (side : Side)
  deriving DecidableEq, Repr, Inhabited

/-- A duration in whole milliseconds. -/
def SimulationError.millis (micros : Nat) : String :=
  s!"{micros / 1000} ms"

/-- The error in words. -/
def SimulationError.message : SimulationError → String
  | watchdog frame micros =>
    let what := if frame = 0 then "boot" else s!"frame {frame}"
    s!"watchdog: {what} did not finish within {millis micros}"
  | main error => s!"main processor: {error.message}"
  | subBoot error => s!"sub processor init failed: {error.message}"
  | subLink error => s!"sub processor link: {error.message}"
  | subStuck micros => s!"sub processor did not stop within {millis micros}"
  | panicked side => s!"{side.name} processor thread panicked"

end TwinDesk
