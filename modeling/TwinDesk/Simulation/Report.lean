import TwinDesk.Simulation.Run

/-!
# Reports of a simulation

How a run is announced and how it ended, each in one line.
-/

namespace TwinDesk

namespace Settings

/-- The run that is about to start. -/
def announcement (settings : Settings) : String :=
  s!"starting simulation frames={settings.frames} watchdog_ms={settings.watchdog}"

end Settings

namespace Summary

/-- The titles of the windows from the back to the front. -/
def titles (summary : Summary) : List String :=
  summary.windows.map (·.title)

/-- What the run has left. -/
def report (summary : Summary) : String :=
  let titles := ", ".intercalate (summary.titles.map Text.quoted)
  s!"simulation finished frames={summary.frames} rendered={summary.rendered} " ++
    s!"windows=[{titles}] ink={summary.screen.ink}"

end Summary

/-- How a run of the demo session ended: its report, or the complaint that stands in for one. -/
def Simulation.outcome (settings : Settings) : Except String String :=
  match run settings .demo with
  | .ok summary => .ok summary.report
  | .error e => .error s!"simulation failed error={e.message}"

end TwinDesk
