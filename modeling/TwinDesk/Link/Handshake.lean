import TwinDesk.Link.Registers
import TwinDesk.Link.Waiting
import TwinDesk.Protocol.Status

/-!
# The command handshake

A strict rendezvous over two flag bytes, with one command in flight at most. The Main processor is
the *initiator*, the Sub processor the *responder*.

| Step | Main flag | Sub flag |
|------|-----------|----------|
| post | opcode, after the parameters | `IDLE` |
| acknowledge | | `BUSY` |
| signal | | `DONE` or `ERROR` |
| release | `NONE` | |
| rest | | `IDLE` |

Each processor writes its flag only once it has seen the previous step of the other: Main posts
only while it reads `IDLE`, and Sub returns to `IDLE` only once it reads `NONE`. Every call below
that waits repeats a poll that does not wait, either forever or within a budget.
-/

namespace TwinDesk

open Program

/-! ### The initiator -/

/-- Where the initiator is in the command cycle. -/
inductive InitiatorPhase where
  /-- No command in flight. -/
  | idle
  /-- The opcode is written; a terminal status is awaited. -/
  | posted (opcode : Opcode)
  /-- The opcode is cleared; the responder is to come to rest. -/
  | releasing (status : Status)
  deriving DecidableEq, Repr, Inhabited

/-- The Main processor's half of the handshake. -/
structure Initiator where
  phase : InitiatorPhase
  deriving DecidableEq, Repr, Inhabited

/-- A completed command: its terminal status and the result words. -/
structure Reply where
  status : Status
  words : Results
  deriving DecidableEq, Repr, Inhabited

/-- Whether the command was carried out. -/
def Reply.isDone (reply : Reply) : Bool :=
  reply.status == .done

namespace Initiator

/-- The initiator at rest. -/
def atRest : Initiator := ⟨.idle⟩

/-- Whether no command is in flight. -/
def isIdle (initiator : Initiator) : Bool :=
  initiator.phase == .idle

/-- Posts a command if the responder is at rest: the parameter words first and the opcode last,
which is the signal. -/
def post (cmd : Command) (initiator : Initiator) : Program (Except LinkError Unit × Initiator) := do
  if !initiator.isIdle || cmd.opcode == .none then
    return (.error .protocolViolation, initiator)
  let flag ← Side.main.peerFlag
  if flag ≠ Status.idle.code then
    return (.error .peerBusy, initiator)
  MainRegisters.writeParams cmd.params
  Side.main.setFlag cmd.opcode.code
  return (.ok (), ⟨.posted cmd.opcode⟩)

/-- Looks whether the responder has come to rest after a cycle that ended in `status`. -/
def awaitRest (status : Status) : Program (Except LinkError (Option Status) × Initiator) := do
  let flag ← Side.main.peerFlag
  if flag = Status.idle.code then
    return (.ok (some status), ⟨.idle⟩)
  else
    return (.ok none, ⟨.releasing status⟩)

/-- Takes the completion of the command in flight one step further. The terminal status comes out
once the responder is at rest again. -/
def pollCompletion : Poll Initiator Status := fun initiator => do
  match initiator.phase with
  | .idle => return (.error .protocolViolation, initiator)
  | .releasing status => awaitRest status
  | .posted _ =>
    let flag ← Side.main.peerFlag
    match (Status.ofCode? flag).filter (·.isTerminal) with
    | some status =>
      Side.main.setFlag Opcode.none.code
      awaitRest status
    | none => return (.ok none, initiator)

/-- Tries once to post a command; a busy responder means "not yet". -/
def pollPost (cmd : Command) : Poll Initiator Unit := fun initiator => do
  match ← initiator.post cmd with
  | (.ok (), initiator) => return (.ok (some ()), initiator)
  | (.error .peerBusy, initiator) => return (.ok none, initiator)
  | (.error e, initiator) => return (.error e, initiator)

/-- Posts a command as soon as the responder is at rest. -/
def send (cmd : Command) (initiator : Initiator) : Program (Except LinkError Unit × Initiator) :=
  (pollPost cmd).forever initiator

/-- Like `send`, within a budget. -/
def sendWithin (budget : Budget) (cmd : Command) (initiator : Initiator) :
    Program (Except LinkError Unit × Initiator) :=
  (pollPost cmd).within budget initiator

/-- Waits until the command in flight is complete and the responder at rest. -/
def waitDone (initiator : Initiator) : Program (Except LinkError Status × Initiator) :=
  pollCompletion.forever initiator

/-- Like `waitDone`, within a budget. -/
def waitDoneWithin (budget : Budget) (initiator : Initiator) :
    Program (Except LinkError Status × Initiator) :=
  pollCompletion.within budget initiator

/-- Sends a command with `send`, waits for it with `wait`, and collects the result words. -/
def exchange (send : Initiator → Program (Except LinkError Unit × Initiator))
    (wait : Initiator → Program (Except LinkError Status × Initiator)) (initiator : Initiator) :
    Program (Except LinkError Reply × Initiator) := do
  match ← send initiator with
  | (.error e, initiator) => return (.error e, initiator)
  | (.ok (), initiator) =>
    match ← wait initiator with
    | (.error e, initiator) => return (.error e, initiator)
    | (.ok status, initiator) =>
      let words ← MainRegisters.readResults
      return (.ok ⟨status, words⟩, initiator)

/-- Sends a command, waits for its completion and collects the result words. -/
def call (cmd : Command) (initiator : Initiator) : Program (Except LinkError Reply × Initiator) :=
  exchange (send cmd) waitDone initiator

/-- Like `call`, with each wait within a budget. -/
def callWithin (budget : Budget) (cmd : Command) (initiator : Initiator) :
    Program (Except LinkError Reply × Initiator) :=
  exchange (sendWithin budget cmd) (waitDoneWithin budget) initiator

end Initiator

/-! ### The responder -/

/-- Where the responder is in the command cycle. -/
inductive ResponderPhase where
  /-- Waiting for an opcode. -/
  | waiting
  /-- The opcode is seen and acknowledged. -/
  | acked (opcode : UInt8)
  /-- The terminal status is written; the initiator is to clear its opcode. -/
  | signalled (status : Status)
  deriving DecidableEq, Repr, Inhabited

/-- The Sub processor's half of the handshake. -/
structure Responder where
  phase : ResponderPhase
  deriving DecidableEq, Repr, Inhabited

namespace Responder

/-- The responder before its first command. -/
def atRest : Responder := ⟨.waiting⟩

/-- The opcode byte of the command that is being carried out. -/
def ackedOpcode? (responder : Responder) : Option UInt8 :=
  match responder.phase with
  | .acked opcode => some opcode
  | .waiting | .signalled _ => none

/-- Looks once for a posted opcode byte, which need not be the code of an opcode. Outside of the
waiting phase nothing is read and nothing found. -/
def pollCommand (responder : Responder) : Program (Option UInt8) := do
  if responder.phase ≠ .waiting then
    return none
  let flag ← Side.sub.peerFlag
  return if flag = Opcode.none.code then none else some flag

/-- Waits for a posted opcode byte. -/
def waitCommand (responder : Responder) : Program UInt8 :=
  await responder.pollCommand

/-- Like `waitCommand`, within a budget. -/
def waitCommandWithin (budget : Budget) (responder : Responder) :
    Program (Except LinkError UInt8) :=
  budget.await responder.pollCommand

/-- Acknowledges the posted command. -/
def ack (responder : Responder) : Program (Except LinkError Unit × Responder) := do
  match ← responder.pollCommand with
  | none => return (.error .protocolViolation, responder)
  | some opcode =>
    Side.sub.setFlag Status.busy.code
    return (.ok (), ⟨.acked opcode⟩)

/-- Writes the status flag outside of a command cycle. -/
def setStatus (status : Status) : Program Unit :=
  Side.sub.setFlag status.code

/-- Writes the terminal status of the acknowledged command. -/
def signal (status : Status) (responder : Responder) :
    Program (Except LinkError Unit × Responder) := do
  if !status.isTerminal || responder.ackedOpcode?.isNone then
    return (.error .protocolViolation, responder)
  Side.sub.setFlag status.code
  return (.ok (), ⟨.signalled status⟩)

/-- Looks once whether the initiator has cleared its opcode, and if so comes to rest. -/
def pollRelease (responder : Responder) : Program (Except LinkError Bool × Responder) := do
  match responder.phase with
  | .waiting | .acked _ => return (.error .protocolViolation, responder)
  | .signalled _ =>
    let flag ← Side.sub.peerFlag
    if flag ≠ Opcode.none.code then
      return (.ok false, responder)
    Side.sub.setFlag Status.idle.code
    return (.ok true, ⟨.waiting⟩)

/-- The poll behind every wait for the release. -/
def pollReleased : Poll Responder Unit := fun responder => do
  match ← responder.pollRelease with
  | (.ok true, responder) => return (.ok (some ()), responder)
  | (.ok false, responder) => return (.ok none, responder)
  | (.error e, responder) => return (.error e, responder)

/-- Signals a terminal status and waits until the initiator has released the cycle. -/
def finish (status : Status) (responder : Responder) :
    Program (Except LinkError Unit × Responder) := do
  match ← responder.signal status with
  | (.error e, responder) => return (.error e, responder)
  | (.ok (), responder) => pollReleased.forever responder

/-- Like `finish`, with the wait within a budget. After a timeout the status stays signalled. -/
def finishWithin (budget : Budget) (status : Status) (responder : Responder) :
    Program (Except LinkError Unit × Responder) := do
  match ← responder.signal status with
  | (.error e, responder) => return (.error e, responder)
  | (.ok (), responder) => pollReleased.within budget responder

end Responder

end TwinDesk
