import TwinDesk.Machine.ScriptedMain
import TwinDesk.Machine.ScriptedSub

/-!
# The link on the bench

Both ends of the link on one bus. One of them runs, and the other one either rests or moves by turns
after a script; afterwards both are where the run has left them.
-/

namespace TwinDesk

/-- Both ends of the link on one bus. -/
structure LinkBench where
  bus : Bus
  initiator : Initiator
  responder : Responder

/-- How the Sub processor answers whatever it is sent. -/
structure AnswerScript where
  status : Status
  words : List (Nat × UInt16)
  /-- The turns that it misses first. -/
  delay : Nat
  deriving DecidableEq, Repr, Inhabited

/-- What the Main processor posts while the Sub processor runs. -/
structure PostScript where
  cmd : Option Command
  /-- The turns that it misses first. -/
  delay : Nat
  deriving DecidableEq, Repr, Inhabited

namespace LinkBench

variable {α : Type}

/-- Both ends at rest. -/
def initial (automatic : Bool) : LinkBench :=
  ⟨.initial automatic, .atRest, .atRest⟩

/-- What a run answers, and the bench it leaves. -/
abbrev Run (α : Type) : Type := Except Halt α × LinkBench

/-- A processor runs a program while the other one rests. -/
def run (side : Side) (program : Program α) (bench : LinkBench) : Run α :=
  let (result, bus) := bench.bus.run side program
  (result, { bench with bus })

/-- The initiator runs, against a Sub processor with or without a script. -/
def runInitiator (script : Option AnswerScript) (program : Initiator → Program (α × Initiator))
    (bench : LinkBench) : Run α :=
  match script with
  | none =>
    match bench.run .main (program bench.initiator) with
    | (.ok (value, initiator), bench) => (.ok value, { bench with initiator })
    | (.error halt, bench) => (.error halt, bench)
  | some script =>
    let sub : Delayed AnsweringSub := ⟨script.delay, bench.responder, script.status, script.words⟩
    let (result, sub, bus) := Peer.run (program bench.initiator) sub bench.bus
    let bench := { bench with bus, responder := sub.peer.responder }
    match result with
    | .ok (value, initiator) => (.ok value, { bench with initiator })
    | .error halt => (.error halt, bench)

/-- The responder runs, against a Main processor with or without a script. -/
def runResponder (script : Option PostScript) (program : Responder → Program (α × Responder))
    (bench : LinkBench) : Run α :=
  match script with
  | none =>
    match bench.run .sub (program bench.responder) with
    | (.ok (value, responder), bench) => (.ok value, { bench with responder })
    | (.error halt, bench) => (.error halt, bench)
  | some script =>
    let main : Delayed PostingMain := ⟨script.delay, bench.initiator, script.cmd⟩
    let (result, main, bus) := Peer.run (program bench.responder) main bench.bus
    let bench := { bench with bus, initiator := main.peer.initiator }
    match result with
    | .ok (value, responder) => (.ok value, { bench with responder })
    | .error halt => (.error halt, bench)

/-- A look at the link that changes nothing. -/
def watching (look : Responder → Program α) (responder : Responder) :
    Program (α × Responder) := do
  return (← look responder, responder)

end LinkBench

end TwinDesk
