import TwinDesk.Desktop.Desktop
import TwinDesk.Link.BankExchange
import TwinDesk.Link.Handshake

/-!
# The command dispatcher

What runs on the Sub processor. After `Dispatcher.boot` has announced it, the Sub processor serves
one command after the other: it waits for an opcode, acknowledges it, carries the command out and
signals `DONE` or `ERROR`.

| Opcode | Effect | Result word 0 |
|--------|--------|---------------|
| `INIT_OS` | a fresh desktop | |
| `RENDER_FRAME` | paint the damage and publish the bank | the state `READY` |
| `WRAM_SWAP` | return the bank | |
| `OPEN_WINDOW` | open an untitled window | its id, or `0xFF` |
| `CLOSE_WINDOW` | close a window | `0` or `0xFF` |
| `MOVE_WINDOW` | move a window | `0` or `0xFF` |
| `CD_PLAY`, `CD_STOP` | passed to the CD drive | |
| `MOUSE_EVENT` | pointer routing and menu commands | |

Every other byte is answered with `ERROR` before anything is touched.
-/

namespace TwinDesk

open Program

/-- What the CD drive is asked to do. -/
inductive CdRequest where
  | play (track : UInt16)
  | stop
  deriving DecidableEq, Repr, Inhabited

/-- The state of the Sub processor, with a painter `R`. -/
structure Dispatcher (R : Type) where
  responder : Responder
  desktop : Desktop
  painter : R
  /-- The frames published so far. -/
  frames : UInt32
  /-- What the CD drive was asked to do, oldest first. -/
  cd : List CdRequest
  launcher : Launcher
  /-- Whether a bounded cycle ran out of polls before the initiator released it. -/
  unreleased : Bool

namespace Dispatcher

variable {R : Type}

/-- The Sub processor at power-up. -/
def initial (painter : R) (launcher : Launcher) : Dispatcher R :=
  ⟨.atRest, .initial, painter, 0, [], launcher, false⟩

/-! ### Boot -/

/-- Sets up the desktop, and tells the Main processor through status word 0 how it went. The flag
shows `BUSY` in between and `IDLE` afterwards. -/
def boot (d : Dispatcher R) : Program (Except DesktopError Unit × Dispatcher R) := do
  SubRegisters.writeResult 0 Lifecycle.booting.word
  Responder.setStatus .busy
  let (result, desktop) ← ofChecked Desktop.fresh
  let stage : Lifecycle := if result.isOk then .ready else .crashed
  SubRegisters.writeResult 0 stage.word
  Responder.setStatus .idle
  return (result, { d with desktop })

/-! ### Carrying commands out -/

/-- Paints the damage on the bytes that are to be published. -/
def paintInto [Painter R] (d : Dispatcher R) (bytes : BankBytes) :
    Checked (Dispatcher R × BankBytes) := do
  let (ops, compositor) ← d.desktop.compositor.paint
  let painter ← Painter.paintAll d.painter ops
  let (painter, bytes) := Painter.finish painter bytes
  return ({ d with desktop.compositor := compositor, painter }, bytes)

/-- Paints the damage and publishes the bank. Without a bank nothing is painted and the damage is
kept. -/
def renderFrame [Painter R] (d : Dispatcher R) :
    Program (Except LinkError Nat × Dispatcher R) := do
  SubRegisters.writeResult 0 Lifecycle.rendering.word
  let count := d.desktop.compositor.pendingDamage
  SubRegisters.writeResult 1 (UInt16.ofNat count)
  match ← Grant.acquire .sub with
  | .error e =>
    SubRegisters.writeResult 0 Lifecycle.ready.word
    return (.error e, d)
  | .ok grant =>
    let d ← grant.withBytes d.paintInto
    discard grant.swap
    SubRegisters.writeResult 0 Lifecycle.ready.word
    return (.ok count, { d with frames := d.frames + 1 })

/-- Returns the bank without painting. -/
def returnBank : Program (Except LinkError Unit) := do
  match ← Grant.acquire .sub with
  | .error e => return .error e
  | .ok grant =>
    discard grant.swap
    return .ok ()

/-- The status that answers a command with a result. -/
def statusOf {ε α : Type} : Except ε α → Status
  | .ok _ => .done
  | .error _ => .error

/-- Carries out a command that is known by its opcode. -/
def perform [Painter R] (d : Dispatcher R) (opcode : Opcode) (params : Params) :
    Program (Status × Dispatcher R) := do
  match opcode with
  | .initOs =>
    let (result, desktop) ← ofChecked Desktop.fresh
    return (statusOf result, { d with desktop })
  | .renderFrame =>
    let (result, d) ← d.renderFrame
    return (statusOf result, d)
  | .wramSwap =>
    let result ← returnBank
    return (statusOf result, d)
  | .openWindow =>
    let frame := Rect.ofOriginSize (Coord.ofWord params.word0) (Coord.ofWord params.word1)
      (Coord.ofWord params.word2) (Coord.ofWord params.word3)
    let (id, desktop) := d.desktop.openWindow frame
    SubRegisters.writeResult 0 (WindowId.toResult id)
    return (.done, { d with desktop })
  | .closeWindow =>
    let (closed, desktop) := match WindowId.ofParameter? params.word0 with
      | some id => d.desktop.closeWindow id
      | none => (false, d.desktop)
    SubRegisters.writeResult 0 (Command.outcome closed)
    return (.done, { d with desktop })
  | .moveWindow =>
    let (moved, desktop) := match WindowId.ofParameter? params.word0 with
      | some id => d.desktop.moveWindow id (Coord.ofWord params.word1) (Coord.ofWord params.word2)
      | none => (false, d.desktop)
    SubRegisters.writeResult 0 (Command.outcome moved)
    return (.done, { d with desktop })
  | .cdPlay => return (.done, { d with cd := d.cd ++ [.play params.word0] })
  | .cdStop => return (.done, { d with cd := d.cd ++ [.stop] })
  | .mouseEvent =>
    match PointerEvent.ofParams? params with
    | some event =>
      let (desktop, launcher) ← ofChecked (d.desktop.pointerEvent d.launcher event)
      return (.done, { d with desktop, launcher })
    | none => return (.error, d)
  | .none | .boot | .drawText | .drawIcon | .fileRead | .fileWrite => return (.error, d)

/-- Carries out the acknowledged command and says how to answer it. -/
def execute [Painter R] (d : Dispatcher R) (raw : UInt8) : Program (Status × Dispatcher R) := do
  match Opcode.ofCode? raw with
  | none => return (.error, d)
  | some opcode =>
    let params ← SubRegisters.readParams
    d.perform opcode params

/-! ### Serving -/

/-- Acknowledges the command that was seen, carries it out and answers it with `finish`. -/
def answer [Painter R] (d : Dispatcher R) (raw : UInt8)
    (finish : Status → Responder → Program (Except LinkError Unit × Responder)) :
    Program (Except LinkError Status × Dispatcher R) := do
  match ← d.responder.ack with
  | (.error e, responder) => return (.error e, { d with responder })
  | (.ok (), responder) =>
    let (status, d) ← { d with responder }.execute raw
    let (finished, responder) ← finish status d.responder
    return (finished.map fun _ => status, { d with responder })

/-- Serves one command, waiting as long as it takes; returns the status that it answered with. -/
def serve [Painter R] (d : Dispatcher R) : Program (Except LinkError Status × Dispatcher R) := do
  let raw ← d.responder.waitCommand
  d.answer raw Responder.finish

/-- Serves commands until one fails. -/
def serveForever [Painter R] (d : Dispatcher R) : Program (LinkError × Dispatcher R) :=
  loop
    (fun d => do
      match ← d.serve with
      | (.ok _, d) => return .inl d
      | (.error e, d) => return .inr (e, d))
    d

/-- Completes a release that an earlier bounded cycle ran out of polls for. -/
def completeRelease (budget : Budget) (d : Dispatcher R) :
    Program (Except LinkError Unit × Dispatcher R) := do
  if d.unreleased then
    let (result, responder) ← Responder.pollReleased.within budget d.responder
    return (result, { d with responder, unreleased := !result.isOk })
  else
    return (.ok (), d)

/-- Serves one command with each wait for the initiator within a budget. When the initiator is slow
to release the cycle, the next call completes the release first. -/
def serveWithin [Painter R] (budget : Budget) (d : Dispatcher R) :
    Program (Except LinkError Status × Dispatcher R) := do
  match ← d.completeRelease budget with
  | (.error e, d) => return (.error e, d)
  | (.ok (), d) =>
    match ← d.responder.waitCommandWithin budget with
    | .error e => return (.error e, d)
    | .ok raw =>
      match ← d.answer raw (Responder.finishWithin budget) with
      | (.error .timeout, d) => return (.error .timeout, { d with unreleased := true })
      | result => return result

end Dispatcher

end TwinDesk
