import TwinDesk.Machine.Peer
import TwinDesk.Main.Boot
import TwinDesk.Main.FrameLoop

/-!
# The whole machine

Both processors on one bus: the Main processor with its frame loop runs, and the Sub processor moves
by turns whenever the Main processor looks at its flag.

Rounds of the frame loop are run one by one, so that whatever ends the last one, the screen shows
the last frame that was completed.
-/

namespace TwinDesk

/-- A machine with a pointer device `S` and a Sub processor `P`. -/
structure Station (S P : Type) where
  loop : FrameLoop S
  sub : Delayed P
  bus : Bus

namespace Station

variable {S P α : Type} [Peer P]

/-- What a run answers, and the machine it leaves. -/
abbrev Run (S P α : Type) : Type := Except Halt α × Station S P

/-- A machine whose Sub processor has made no move yet. -/
def start (sub : P) (bus : Bus) (source : S) : Station S P :=
  ⟨.start .atRest source, ⟨0, sub⟩, bus⟩

/-- The Main processor runs a program. -/
def run (program : Program α) (station : Station S P) : Run S P α :=
  let (result, sub, bus) := Peer.run program station.sub station.bus
  (result, { station with sub, bus })

/-- The Main processor runs a program on the state of its loop. -/
def onLoop (program : FrameLoop S → Program (α × FrameLoop S)) (station : Station S P) :
    Run S P α :=
  match station.run (program station.loop) with
  | (.ok (value, loop), station) => (.ok value, { station with loop })
  | (.error halt, station) => (.error halt, station)

/-- The Main processor boots the Sub processor. -/
def boot (station : Station S P) : Run S P (Except MainError Unit) :=
  station.run Boot.boot

/-- The Main processor makes a call of its client. -/
def call (call : Client.Call α) (station : Station S P) : Run S P (Except MainError α) :=
  station.onLoop fun loop => do
    let (result, client) ← call loop.client
    return (result, { loop with client })

/-- One frame. -/
def tick [PointerSource S] (station : Station S P) : Run S P (Except MainError FrameReport) :=
  station.onLoop FrameLoop.tick

/-- A number of frames, up to the first error. -/
def runFor [PointerSource S] : Nat → Station S P → Run S P (Except MainError Unit)
  | 0, station => (.ok (.ok ()), station)
  | count + 1, station =>
    match station.tick with
    | (.ok (.ok _), station) => station.runFor count
    | (.ok (.error e), station) => (.ok (.error e), station)
    | (.error halt, station) => (.error halt, station)

/-- Frames up to the first error, which is returned. Without an error the run is endless. -/
def runUntilError [PointerSource S] (station : Station S P) : Run S P MainError :=
  match station.runFor Bus.patience with
  | (.ok (.error e), station) => (.ok e, station)
  | (.ok (.ok ()), station) => (.error .stuck, station)
  | (.error halt, station) => (.error halt, station)

end Station

end TwinDesk
