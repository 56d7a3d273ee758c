import TwinDesk.Simulation.Report

/-!
# The command line

Runs the demo session with the settings that the environment gives. The report goes to the standard
output and complaints to the standard error; the exit code tells whether the run succeeded.
-/

namespace TwinDesk

/-- The environment variables that are set, among those that settings are made of. -/
def readVariables : IO (List (String × String)) :=
  Settings.keys.filterMapM fun key => do
    return (← IO.getEnv key).map fun value => (key, value)

/-- Prints a complaint, and returns the exit code of a failure. -/
def complain (text : String) : IO UInt32 := do
  IO.eprintln text
  return 1

/-- Runs the demo session, and returns the exit code. -/
def runDemo (settings : Settings) : IO UInt32 := do
  IO.println settings.announcement
  match Simulation.outcome settings with
  | .ok report =>
    IO.println report
    return 0
  | .error complaint => complain complaint

end TwinDesk

/-- Runs the demo session with the settings of the environment. -/
def main : IO UInt32 := do
  let given ← TwinDesk.readVariables
  match TwinDesk.Settings.ofLookup (fun key => given.lookup key) with
  | .ok settings => TwinDesk.runDemo settings
  | .error e => TwinDesk.complain s!"invalid configuration error={e.message}"
