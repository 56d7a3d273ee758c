import TwinDesk.Display.Screen
import TwinDesk.Input.PointerEvent
import TwinDesk.Link.BankExchange
import TwinDesk.Link.Handshake
import TwinDesk.Main.MainError

/-!
# Commands to the Sub processor

One function per command: it sends the command, waits until the cycle is complete and decodes the
result words. A reply of `ERROR` becomes `MainError.commandFailed`, and for a frame
`MainError.renderFailed`.
-/

namespace TwinDesk

open Program

/-- The Main processor's end of the link. -/
structure Client where
  initiator : Initiator
  deriving DecidableEq, Repr, Inhabited

/-- What the Sub processor says about a painted frame. -/
structure RenderReply where
  /-- Its stage after the frame. -/
  state : UInt16
  /-- How many rectangles it painted. -/
  rects : UInt16
  deriving DecidableEq, Repr, Inhabited

/-- A call of the client: an answer or an error, and the client afterwards. -/
abbrev Client.Call (α : Type) : Type 1 := Client → Program (Except MainError α × Client)

namespace Client

variable {α β : Type}

/-- A client with no command in flight. -/
def atRest : Client := ⟨.atRest⟩

/-- Accepts only a reply of `DONE`. -/
def check (cmd : Command) : Except LinkError Reply → Except MainError Reply
  | .ok reply => if reply.isDone then .ok reply else .error (.commandFailed cmd.opcode)
  | .error e => .error (.link e)

/-- Sends a command and waits for the reply. -/
def call (cmd : Command) : Call Reply := fun client => do
  let (result, initiator) ← client.initiator.call cmd
  return (check cmd result, ⟨initiator⟩)

/-- Like `call`, with each wait within a budget. After a timeout the command may still be in
flight, and the client sends no other one until it is complete. -/
def callWithin (budget : Budget) (cmd : Command) : Call Reply := fun client => do
  let (result, initiator) ← client.initiator.callWithin budget cmd
  return (check cmd result, ⟨initiator⟩)

/-- Sends a command and decodes the reply. -/
def request (cmd : Command) (decode : Results → α) : Call α := fun client => do
  let (result, client) ← call cmd client
  return (result.map fun reply => decode reply.words, client)

/-! ### Commands -/

/-- Starts the desktop afresh. -/
def initOs : Call Unit :=
  request .initOs fun _ => ()

/-- The error of a frame, given the error of its command. -/
def frameError : MainError → MainError
  | .commandFailed _ => .renderFailed
  | e => e

/-- Lets the Sub processor paint the screen. Afterwards the bank that the Main processor sees holds
the frame. -/
def renderFrame : Call RenderReply := fun client => do
  let cmd := Command.renderFrame 0 0 Layout.screenWidth Layout.screenHeight
  let (result, client) ← request cmd (fun words => ⟨words[0], words[1]⟩) client
  return (result.mapError frameError, client)

/-- Opens a window; none when there is no room for it. -/
def openWindow (frame : Rect) : Call (Option WindowId) :=
  request (.openWindow frame.left frame.top frame.width frame.height) fun words =>
    WindowId.ofResult? words[0]

/-- Whether result word 0 reports success. -/
def succeeded (words : Results) : Bool :=
  words[0] == Command.resultOk

/-- Closes a window, and tells whether there was one. -/
def closeWindow (id : WindowId) : Call Bool :=
  request (.closeWindow id) succeeded

/-- Moves a window, and tells whether there is one. -/
def moveWindow (id : WindowId) (x y : Coord) : Call Bool :=
  request (.moveWindow id x y) succeeded

/-- Plays an audio track. -/
def cdPlay (track : UInt16) : Call Unit :=
  request (.cdPlay track) fun _ => ()

/-- Stops audio playback. -/
def cdStop : Call Unit :=
  request .cdStop fun _ => ()

/-- Delivers a pointer event. -/
def sendPointer (event : PointerEvent) : Call Unit :=
  request event.toCommand fun _ => ()

/-- Takes the Sub processor's bank over as it is. -/
def wramSwap : Call Unit :=
  request .wramSwap fun _ => ()

/-! ### Frames -/

/-- Shows the frame in the bank that the Main processor sees, and returns which one that is. -/
def present (screen : Screen) : Program (Except MainError Bank × Screen) := do
  match ← Grant.acquire .main with
  | .error e => return (.error (.link e), screen)
  | .ok grant =>
    let screen ← grant.withBytes fun bytes => return (screen.present grant.bank bytes, bytes)
    return (.ok grant.bank, screen)

end Client

end TwinDesk
