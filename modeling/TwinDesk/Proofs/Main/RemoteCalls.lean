import TwinDesk.Main.Client
import TwinDesk.Proofs.Checked
import TwinDesk.Proofs.Hardware.Words
import TwinDesk.Sub.Dispatcher

/-!
# Remote calls and local calls

The client of the Main processor offers the operations of the desktop as remote calls. Here every
remote call is set beside the local one, which works on the desktop itself.

* `RemoteCall.send` — the remote call: one command on the link.
* `RemoteCall.run` — the local call.
* `RemoteCall.intact` — all arguments survive the trip through the parameter words.
* `RemoteCall.send_eq` — a remote call is one command and a look at the result words.
-/

namespace TwinDesk

/-! ## Arguments on the wire -/

namespace WindowId

@[simp] theorem ofParameter?_toUInt16 (id : WindowId) :
    ofParameter? id.byte.toUInt16 = some id := by
  have low : id.byte.toUInt16.toNat < 256 := by
    rw [UInt8.toNat_toUInt16]
    exact id.byte.toNat_lt
  rw [ofParameter?, if_pos low, UInt8.toUInt8_toUInt16]

end WindowId

namespace PointerEvent

/-- Kind and buttons share a word, one byte each. -/
theorem bytes_of_pair (high low : UInt8) :
    (((high.toUInt16 <<< 8) ||| low.toUInt16) >>> 8).toUInt8 = high ∧
      ((high.toUInt16 <<< 8) ||| low.toUInt16).toUInt8 = low :=
  ⟨GateArray.highByte_join high low, GateArray.toUInt8_join high low⟩

@[simp] theorem ofParams?_toParams (event : PointerEvent) :
    ofParams? event.toParams = some event := by
  obtain ⟨kind, buttons, pos, dx⟩ := event
  obtain ⟨high, low⟩ := bytes_of_pair kind.code buttons.bits
  have known : PointerKind.ofCode? kind.code = some kind := PointerKind.ofCode?_eq_some_iff.mpr rfl
  simp only [ofParams?, toParams, high, low, known, Option.map_some, Buttons.ofBits_bits,
    Coord.ofWord_toWord]

end PointerEvent

/-! ## Replies -/

namespace Client

theorem check_done (cmd : Command) {reply : Reply} (done : reply.status = .done) :
    check cmd (.ok reply) = .ok reply := by
  rw [check, Reply.isDone, done]
  rfl

/-- A reply is accepted, or tells that the command has failed. -/
theorem check_eq (cmd : Command) (reply : Reply) :
    check cmd (.ok reply) = .ok reply ∨
      check cmd (.ok reply) = .error (.commandFailed cmd.opcode) := by
  unfold check
  dsimp only
  split
  · exact .inl rfl
  · exact .inr rfl

end Client

/-! ## Calls -/

/-- A call of the client that changes the desktop or what belongs to it. -/
inductive RemoteCall where
  | initOs
  | openWindow (frame : Rect)
  | closeWindow (id : WindowId)
  | moveWindow (id : WindowId) (x y : Coord)
  | sendPointer (event : PointerEvent)
  | cdPlay (track : UInt16)
  | cdStop
  deriving DecidableEq, Repr

/-- What a call returns. -/
inductive RemoteCall.Answer where
  | nothing
  | opened (id : Option WindowId)
  | succeeded (ok : Bool)
  deriving DecidableEq, Repr

/-- What local calls work on. -/
structure Workplace where
  desktop : Desktop
  launcher : Launcher
  cd : List CdRequest

namespace RemoteCall

/-- The command that carries the call. -/
def command : RemoteCall → Command
  | initOs => .initOs
  | openWindow frame => .openWindow frame.left frame.top frame.width frame.height
  | closeWindow id => .closeWindow id
  | moveWindow id x y => .moveWindow id x y
  | sendPointer event => event.toCommand
  | cdPlay track => .cdPlay track
  | cdStop => .cdStop

/-- A call of the client, with another form of its answer. -/
def answering {α : Type} (f : α → Answer) (call : Client.Call α) : Client.Call Answer :=
  fun client => do
    let (result, client) ← call client
    return (result.map f, client)

/-- The remote call. -/
def send : RemoteCall → Client.Call Answer
  | initOs => answering (fun _ => .nothing) Client.initOs
  | openWindow frame => answering .opened (Client.openWindow frame)
  | closeWindow id => answering .succeeded (Client.closeWindow id)
  | moveWindow id x y => answering .succeeded (Client.moveWindow id x y)
  | sendPointer event => answering (fun _ => .nothing) (Client.sendPointer event)
  | cdPlay track => answering (fun _ => .nothing) (Client.cdPlay track)
  | cdStop => answering (fun _ => .nothing) Client.cdStop

/-- One remote call after the other. -/
def sendAll : List RemoteCall → Client → Program (List (Except MainError Answer) × Client)
  | [], client => return ([], client)
  | call :: rest, client => do
    let (result, client) ← call.send client
    let (results, client) ← sendAll rest client
    return (result :: results, client)

/-- The local call. -/
def run (place : Workplace) : RemoteCall → Checked (Answer × Workplace)
  | initOs => Desktop.fresh.map fun fresh => (.nothing, { place with desktop := fresh.2 })
  | openWindow frame =>
    let opened := place.desktop.openWindow
      (.ofOriginSize frame.left frame.top frame.width frame.height)
    .ok (.opened opened.1, { place with desktop := opened.2 })
  | closeWindow id =>
    let closed := place.desktop.closeWindow id
    .ok (.succeeded closed.1, { place with desktop := closed.2 })
  | moveWindow id x y =>
    let moved := place.desktop.moveWindow id x y
    .ok (.succeeded moved.1, { place with desktop := moved.2 })
  | sendPointer event =>
    (place.desktop.pointerEvent place.launcher event).map fun handled =>
      (.nothing, { place with desktop := handled.1, launcher := handled.2 })
  | cdPlay track => .ok (.nothing, { place with cd := place.cd ++ [.play track] })
  | cdStop => .ok (.nothing, { place with cd := place.cd ++ [.stop] })

/-- One local call after the other. -/
def runAll : List RemoteCall → Workplace → Checked (List Answer × Workplace)
  | [], place => return ([], place)
  | call :: rest, place => do
    let (answer, place) ← call.run place
    let (answers, place) ← runAll rest place
    return (answer :: answers, place)

theorem opcode_ne_none (call : RemoteCall) : call.command.opcode ≠ .none := by
  intro none
  cases call <;> cases none

/-- Local calls, the last of which is made after all others. -/
theorem runAll_concat {calls : List RemoteCall} {call : RemoteCall} {answers : List Answer}
    {answer : Answer} {start place place' : Workplace}
    (run : runAll calls start = .ok (answers, place))
    (last : call.run place = .ok (answer, place')) :
    runAll (calls ++ [call]) start = .ok (answers ++ [answer], place') := by
  induction calls generalizing start answers with
  | nil =>
    cases run
    rw [List.nil_append, runAll, last]
    rfl
  | cons first rest ih =>
    obtain ⟨⟨answer₁, place₁⟩, begins, run⟩ := Checked.bind_eq_ok_iff.mp run
    obtain ⟨⟨answers₁, place₂⟩, continues, run⟩ := Checked.bind_eq_ok_iff.mp run
    cases run
    rw [List.cons_append, runAll, begins]
    show (runAll (rest ++ [call]) place₁ >>= _) = _
    rw [ih continues]
    rfl

/-! ## Arguments and answers -/

/-- All arguments are found again in the parameter words. -/
def Intact (call : RemoteCall) : Prop :=
  let params := call.command.params
  match call with
  | openWindow frame =>
    Rect.ofOriginSize (Coord.ofWord params.word0) (Coord.ofWord params.word1)
      (Coord.ofWord params.word2) (Coord.ofWord params.word3) =
      Rect.ofOriginSize frame.left frame.top frame.width frame.height
  | closeWindow id => WindowId.ofParameter? params.word0 = some id
  | moveWindow id x y =>
    WindowId.ofParameter? params.word0 = some id ∧ Coord.ofWord params.word1 = x ∧
      Coord.ofWord params.word2 = y
  | sendPointer event => PointerEvent.ofParams? params = some event
  | cdPlay track => params.word0 = track
  | initOs | cdStop => True

theorem intact (call : RemoteCall) : call.Intact := by
  cases call with
  | initOs | cdStop => trivial
  | openWindow | cdPlay => rfl
  | closeWindow id => exact id.ofParameter?_toUInt16
  | moveWindow id x y => exact ⟨id.ofParameter?_toUInt16, rfl, rfl⟩
  | sendPointer event => exact event.ofParams?_toParams

/-- What an answer leaves in result word 0. -/
def Answer.word : Answer → Option UInt16
  | nothing => none
  | opened id => some (WindowId.toResult id)
  | succeeded ok => some (Command.outcome ok)

/-- How the client reads the result words of the call. -/
def decode (words : Results) : RemoteCall → Answer
  | openWindow _ => .opened (WindowId.ofResult? words.first)
  | closeWindow _ | moveWindow _ _ _ => .succeeded (Client.succeeded words)
  | initOs | sendPointer _ | cdPlay _ | cdStop => .nothing

theorem request_eq {α : Type} (cmd : Command) (g : Results → α) (client : Client) :
    Client.request cmd g client = (client.initiator.call cmd).bind fun (result, initiator) =>
      .done ((Client.check cmd result).map fun reply => g reply.words, ⟨initiator⟩) :=
  Program.bind_assoc _ _ _

theorem answering_request {α : Type} (f : α → Answer) (cmd : Command) (g : Results → α) :
    answering f (Client.request cmd g) = Client.request cmd fun words => f (g words) := by
  funext client
  show ((Client.call cmd client).bind _).bind _ = (Client.call cmd client).bind _
  rw [Program.bind_assoc]
  congr 1
  funext ⟨result, client⟩
  cases result <;> rfl

/-- A remote call is one command and a look at the result words. -/
theorem send_eq (call : RemoteCall) :
    call.send = Client.request call.command fun words => call.decode words := by
  cases call <;> exact answering_request _ _ _

end RemoteCall

end TwinDesk
