import TwinDesk.Text.Blank
import TwinDesk.Text.Natural
import TwinDesk.Text.Quoted

/-!
# Settings of a simulation

| Variable | Meaning | Default |
|----------|---------|---------|
| `GS1_FRAMES` | how many frames to run | 120 |
| `GS1_WATCHDOG_MS` | how long a frame may take | 2000 |
| `GS1_LOG` | what to log | `info` |

Blanks around a number do not count, and a blank log setting counts as none.
-/

namespace TwinDesk

/-- The settings of a simulation. -/
structure Settings where
  frames : UInt32
  /-- How many milliseconds a frame may take. -/
  watchdog : UInt64
  log : String
  deriving DecidableEq, Repr, Inhabited

/-- Why settings cannot be used. -/
inductive SettingsError where
  | notANumber (key value : String)
  | zeroWatchdog
  deriving DecidableEq, Repr, Inhabited

/-- The error in words. -/
def SettingsError.message : SettingsError → String
  | notANumber key value => key ++ "=" ++ Text.quoted value ++ " is not a non-negative integer"
  | zeroWatchdog => "GS1_WATCHDOG_MS must be at least 1"

namespace Settings

/-- The names of the variables that settings are made of. -/
def keys : List String := ["GS1_FRAMES", "GS1_WATCHDOG_MS", "GS1_LOG"]

/-- The settings where nothing is set. -/
def default : Settings := ⟨120, 2000, "info"⟩

/-- The number that a variable is set to; none when it is not set. -/
def number (lookup : String → Option String) (key : String) :
    Except SettingsError (Option UInt64) :=
  match lookup key with
  | none => .ok none
  | some value =>
    match Text.natural? UInt64.size (Text.trim value.toList) with
    | some n => .ok (some (UInt64.ofNat n))
    | none => .error (.notANumber key value)

/-- The number of frames; a number too large for it is reported without leading zeros. -/
def framesOf : Option UInt64 → Except SettingsError UInt32
  | none => .ok default.frames
  | some n =>
    if n.toNat < UInt32.size then .ok n.toUInt32
    else .error (.notANumber "GS1_FRAMES" s!"{n}")

/-- The settings given by variables. -/
def ofLookup (lookup : String → Option String) : Except SettingsError Settings := do
  let frames ← framesOf (← number lookup "GS1_FRAMES")
  let watchdog := (← number lookup "GS1_WATCHDOG_MS").getD default.watchdog
  if watchdog = 0 then
    throw .zeroWatchdog
  let log := ((lookup "GS1_LOG").filter fun value => !(Text.trim value.toList).isEmpty).getD
    default.log
  return { frames, watchdog, log }

end Settings

end TwinDesk
