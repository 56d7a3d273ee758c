import TwinDesk.Machine.ScriptedMain
import TwinDesk.Sub.Dispatcher

/-!
# The Sub processor on the bench

The Sub processor's dispatcher on a bus, with a Main processor that moves by turns after a script,
and an initiator that completes what it has in flight between the runs.

The chip completes the Sub processor's exchange requests at its next look, unless it is stalled.
-/

namespace TwinDesk

/-- A dispatcher with a painter `R`, an initiator and a bus. -/
structure SubBench (R : Type) where
  bus : Bus
  initiator : Initiator
  dispatcher : Dispatcher R

/-- Lets the chip complete the Sub processor's exchange requests, or leaves them waiting. -/
def Bus.setStalled (bus : Bus) (stalled : Bool) : Bus :=
  { bus with watch := if stalled then none else some ⟨.sub, 0⟩ }

namespace SubBench

variable {R α P : Type}

/-- A dispatcher before its boot. -/
def initial (automatic : Bool) (dispatcher : Dispatcher R) : SubBench R :=
  ⟨(Bus.initial automatic).setStalled false, .atRest, dispatcher⟩

/-- What a run answers, and the bench it leaves. -/
abbrev Run (R α : Type) : Type := Except Halt α × SubBench R

/-- A processor runs a program while the other one rests. -/
def run (side : Side) (program : Program α) (bench : SubBench R) : Run R α :=
  let (result, bus) := bench.bus.run side program
  (result, { bench with bus })

/-- The initiator runs while the dispatcher rests. -/
def runInitiator (program : Initiator → Program (α × Initiator)) (bench : SubBench R) : Run R α :=
  match bench.run .main (program bench.initiator) with
  | (.ok (value, initiator), bench) => (.ok value, { bench with initiator })
  | (.error halt, bench) => (.error halt, bench)

/-- The dispatcher runs against a peer, whose state afterwards is returned. -/
def runDispatcher [Peer P] (peer : P) (program : Dispatcher R → Program (α × Dispatcher R))
    (bench : SubBench R) : Run R (α × P) :=
  let (result, peer, bus) := Peer.run (program bench.dispatcher) peer bench.bus
  match result with
  | .ok (value, dispatcher) => (.ok (value, peer), { bench with bus, dispatcher })
  | .error halt => (.error halt, { bench with bus })

/-- The initiator looks once whether its command is complete, whatever comes of it. -/
def settle (result : Run R α) : Run R α :=
  match result with
  | (.error halt, bench) => (.error halt, bench)
  | (.ok value, bench) =>
    match bench.runInitiator Initiator.pollCompletion with
    | (.ok _, bench) => (.ok value, bench)
    | (.error halt, bench) => (.error halt, bench)

/-- Serves one command, posted by the initiator after some turns. -/
def serve [Painter R] (cmd : Command) (delay : Nat) (bench : SubBench R) :
    Run R (Except LinkError Status) :=
  let main : Delayed PostingMain := ⟨delay, bench.initiator, some cmd⟩
  match bench.runDispatcher main Dispatcher.serve with
  | (.ok (status, main), bench) =>
    settle (.ok status, { bench with initiator := main.peer.initiator })
  | (.error halt, bench) => (.error halt, bench)

/-- Serves one command given by its opcode byte. -/
def serveRaw [Painter R] (opcode : UInt8) (params : List UInt16) (bench : SubBench R) :
    Run R (Except LinkError Status) :=
  match bench.runDispatcher (⟨opcode, params, false⟩ : RawMain) Dispatcher.serve with
  | (.ok (status, _), bench) => settle (.ok status, bench)
  | (.error halt, bench) => (.error halt, bench)

/-- The dispatcher runs while the Main processor writes bytes into its flag. -/
def runWithFlags (flags : List UInt8) (program : Dispatcher R → Program (α × Dispatcher R))
    (bench : SubBench R) : Run R α :=
  match bench.runDispatcher (⟨flags⟩ : FlagMain) program with
  | (.ok (value, _), bench) => (.ok value, bench)
  | (.error halt, bench) => (.error halt, bench)

end SubBench

end TwinDesk
