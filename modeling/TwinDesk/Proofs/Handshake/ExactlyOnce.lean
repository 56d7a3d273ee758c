import TwinDesk.Proofs.Handshake.Initiator
import TwinDesk.Proofs.Handshake.Responder
import TwinDesk.Proofs.Link.Calls

/-!
# Every command crosses the link exactly once

An initiator and a responder make their calls in any order over one chip, and their bus cycles
interleave one by one. An observer notes what the Main processor posted, which statuses it got back
and which result words it read then, and on the other side which requests the Sub processor took up
and how it replied.

The Sub processor keeps to the protocol: it writes results and reads the parameters only between an
acknowledgement and its signal, it reads the parameters once there, and it never writes its flag
outside of a cycle. The Main processor may make its calls at any time.

* `Sender.upholds`, `Receiver.upholds` — what either side can rely on, call by call.
* `handshake_exactly_once` — requests arrive in order and once each; statuses and result words come
  back with the command they belong to.
-/

namespace TwinDesk

open Handshake Program

namespace Handshake

/-- The contract of a handshake without any agreement on its contents. -/
def plain : Contract := ⟨none, fun _ => True, fun _ _ => True⟩

/-- A result word that the Main processor read after the completion of a command. -/
structure Collected where
  /-- How many commands were completed before this one. -/
  command : Nat
  index : Fin 8
  word : UInt16

/-- The word is the one that was left in the reply to its command. -/
def Collected.Agrees (entry : Collected) (replies : List Reply) : Prop :=
  ∃ reply, replies[entry.command]? = some reply ∧ reply.words.get entry.index = entry.word

/-! ## The Main processor -/

/-- The initiator, with what it posted and got back so far, oldest first. -/
structure Sender where
  initiator : Initiator
  posted : List Request
  completed : List Status
  collected : List Collected

namespace Sender

/-- A sender before its first call. -/
def atRest : Sender := ⟨.atRest, [], [], []⟩

/-- The calls of the Main processor. -/
inductive Call where
  | post (cmd : Command)
  | pollCompletion
  | readResult (index : Fin 8)

/-- Notes how a post went. -/
def notePost (sender : Sender) (cmd : Command) :
    Except LinkError Unit × Initiator → Sender
  | (.ok (), initiator) => { sender with initiator, posted := sender.posted ++ [cmd.request] }
  | (.error _, initiator) => { sender with initiator }

/-- Notes how a poll for the completion went. -/
def notePoll (sender : Sender) : Except LinkError (Option Status) × Initiator → Sender
  | (.ok (some status), initiator) =>
    { sender with initiator, completed := sender.completed ++ [status] }
  | (_, initiator) => { sender with initiator }

/-- Notes a result word that was read between a completion and the next post. -/
def noteResult (sender : Sender) (index : Fin 8) (word : UInt16) : Sender :=
  if sender.initiator.isIdle ∧ sender.completed ≠ [] then
    { sender with
      collected := sender.collected ++ [⟨sender.completed.length - 1, index, word⟩] }
  else
    sender

/-- What the Main processor may do: any call at any time. -/
def role : Role Sender where
  Call := Call
  Allowed _ _ := True
  run
    | .post cmd, sender => do
      let result ← sender.initiator.post cmd
      return fun _ => sender.notePost cmd result
    | .pollCompletion, sender => do
      let result ← Initiator.pollCompletion sender.initiator
      return fun _ => sender.notePoll result
    | .readResult index, sender => do
      let word ← MainRegisters.readResult index
      return fun _ => sender.noteResult index word

/-- What holds of the notes, also in the middle of a call. -/
structure Noted (sender : Sender) (replies : List Reply) : Prop where
  completed : sender.completed <+: replies.map (·.status)
  inFlight : sender.posted.length ≤ sender.completed.length + 1
  collected : ∀ entry ∈ sender.collected, entry.Agrees replies

/-- How many commands are in flight follows from the phase of the initiator. -/
def Settled (sender : Sender) : Prop :=
  sender.posted.length = sender.completed.length + if sender.initiator.isIdle then 0 else 1

theorem settled_of_idle {sender : Sender} (idle : sender.initiator.isIdle = true) :
    sender.Settled ↔ sender.posted.length = sender.completed.length := by
  simp [Settled, idle]

theorem settled_of_busy {sender : Sender} (busy : sender.initiator.isIdle = false) :
    sender.Settled ↔ sender.posted.length = sender.completed.length + 1 := by
  simp [Settled, busy]

/-- What holds between two calls. -/
structure Ready (sender : Sender) (w : World plain) : Prop where
  fits : Initiating sender.initiator sender.posted w.course
  settled : sender.Settled
  noted : sender.Noted w.course.replies

/-- What holds in the middle of a call. -/
def Between (sender : Sender) (w : World plain) : Prop :=
  w.course.requests = sender.posted ∧ sender.Noted w.course.replies

theorem Noted.mono {sender : Sender} {replies replies' : List Reply}
    (noted : sender.Noted replies) (more : replies <+: replies') : sender.Noted replies' where
  completed := noted.completed.trans (more.map _)
  inFlight := noted.inFlight
  collected entry mem := by
    obtain ⟨reply, eq, word⟩ := noted.collected entry mem
    refine ⟨reply, ?_, word⟩
    obtain ⟨rest, rfl⟩ := more
    have bound : entry.command < replies.length := (List.getElem?_eq_some_iff.mp eq).1
    rw [List.getElem?_append_left bound]
    exact eq

end Sender

/-- Nothing that has crossed the link is forgotten by a move of either side. -/
theorem moves_extend {contract : Contract} {side : Side} {w w' : World contract}
    (move : (handshake contract).Moves side w w') :
    w.course.requests <+: w'.course.requests ∧ w.course.replies <+: w'.course.replies := by
  obtain ⟨-, lingers | advances⟩ := move
  · rw [lingers.course]
    exact ⟨List.prefix_rfl, List.prefix_rfl⟩
  · exact ⟨advances.step.requests_grow, advances.step.replies_grow⟩

/-- What stands is kept by the moves of the other side. -/
theorem Standing.kept {contract : Contract} {side : Side} {A B : Course → Prop}
    {w w' : World contract} (standing : Standing side B A)
    (move : (handshake contract).Moves side.peer w w') (h : A w.course) : A w'.course := by
  obtain ⟨-, lingers | advances⟩ := move
  · rw [lingers.course]
    exact h
  · exact standing.outlasts advances.step h

/-- Nobody is in a hurry where the number of commands is open. -/
theorem at_of_course {side : Side} {A : Course → Prop} {w : World plain} (room : Nat)
    (slack : room ≤ pace) (h : A w.course) : At side A room anything w := by
  have rested : ¬ Due plain side w.course := by
    rintro ⟨limit, eq, -⟩
    cases eq
  refine ⟨h, ?_, trivial⟩
  rw [w.unhurried side rested, Nat.zero_add]
  exact slack

namespace Sender

theorem noted_kept (sender : Sender) :
    (handshake plain).Kept fun w => sender.Noted w.course.replies :=
  fun _ _ _ move noted => noted.mono (moves_extend move).2

theorem ready_stable (sender : Sender) : (handshake plain).Stable .main sender.Ready := by
  intro w w' move ready
  refine ⟨?_, ready.settled, sender.noted_kept move ready.noted⟩
  have standing : Standing .main (fun _ => True) (Initiating sender.initiator sender.posted) :=
    initiating sender.initiator fun _ _ => trivial
  exact standing.kept move ready.fits

/-- The last reply is the one to the last command that was completed. -/
theorem last_reply {sender : Sender} {w : World plain} (ready : sender.Ready w)
    (idle : sender.initiator.isIdle = true) :
    w.course.stage = .rest ∧ w.course.replies.length = sender.completed.length := by
  have rest := rest_of_idle ready.fits idle
  have count := w.shows.count
  have settled := (settled_of_idle idle).mp ready.settled
  rw [rest, ready.fits.2] at count
  change sender.posted.length = w.course.replies.length + 0 at count
  exact ⟨rest, by omega⟩

theorem ready_notePost {sender : Sender} {cmd : Command}
    {result : Except LinkError Unit × Initiator} {w : World plain}
    (noted : sender.Noted w.course.replies) (settled : sender.Settled)
    (h : Posted cmd sender.initiator sender.posted result w.course) :
    (sender.notePost cmd result).Ready w := by
  obtain ⟨e | ⟨⟨⟩⟩, initiator⟩ := result
  · obtain ⟨rfl, -, fits⟩ := h
    exact ⟨fits, settled, noted.completed, noted.inFlight, noted.collected⟩
  · obtain ⟨idle, busy, fits⟩ := h
    have settled := (settled_of_idle idle).mp settled
    refine ⟨fits, (settled_of_busy busy).mpr ?_, noted.completed, ?_, noted.collected⟩
    · simp [notePost, settled]
    · simp [notePost, settled]

theorem ready_notePoll {sender : Sender} {result : Except LinkError (Option Status) × Initiator}
    {w : World plain} (noted : sender.Noted w.course.replies)
    (settled : sender.Settled)
    (h : Polled sender.initiator sender.posted result w.course) :
    (sender.notePoll result).Ready w := by
  obtain ⟨e | (_ | status), initiator⟩ := result
  · obtain ⟨rfl, -, fits⟩ := h
    exact ⟨fits, settled, noted.completed, noted.inFlight, noted.collected⟩
  · obtain ⟨busy, busy', fits⟩ := h
    have settled := (settled_of_busy busy).mp settled
    exact ⟨fits, (settled_of_busy busy').mpr settled, noted.completed, noted.inFlight,
      noted.collected⟩
  · obtain ⟨busy, idle, fits, last⟩ := h
    have settled := (settled_of_busy busy).mp settled
    have rest := rest_of_idle fits idle
    have count := w.shows.count
    rw [rest, fits.2] at count
    change sender.posted.length = w.course.replies.length + 0 at count
    -- nothing is in flight, so the status noted is the one reply that was missing
    have all : w.course.replies.map (·.status) = sender.completed ++ [status] := by
      refine concat_of_extends noted.completed ?_ ?_
      · rw [List.length_map]
        omega
      · rw [List.getLast?_map]
        exact last
    refine ⟨fits, (settled_of_idle idle).mpr ?_, ?_, ?_, noted.collected⟩
    · simp [notePoll, settled]
    · exact all ▸ List.prefix_rfl
    · simp [notePoll, settled]

theorem ready_noteResult {sender : Sender} {index : Fin 8} {word : UInt16} {w : World plain}
    (ready : sender.Ready w)
    (agrees : sender.initiator.isIdle = true →
      ∀ reply ∈ w.course.replies.getLast?, reply.words.get index = word) :
    (sender.noteResult index word).Ready w := by
  unfold noteResult
  split
  case isFalse => exact ready
  case isTrue h =>
    obtain ⟨idle, nonempty⟩ := h
    obtain ⟨-, length⟩ := last_reply ready idle
    refine ⟨ready.fits, ready.settled, ready.noted.completed, ready.noted.inFlight, ?_⟩
    intro entry mem
    rcases List.mem_append.mp mem with old | new
    · exact ready.noted.collected entry old
    · obtain rfl := List.mem_singleton.mp new
      have positive := List.length_pos_iff.mpr nonempty
      have replied : w.course.replies ≠ [] := List.ne_nil_of_length_pos (by omega)
      have last := List.getLast?_eq_some_getLast replied
      refine ⟨_, ?_, agrees idle _ last⟩
      show w.course.replies[sender.completed.length - 1]? = _
      rw [← length, ← List.getLast?_eq_getElem?]
      exact last

/-- A call keeps the notes true if they can be brought up to date from what the call returns. -/
theorem call_upheld {α : Type} {sender : Sender} {p : Program α} {note : α → Sender} {room : Nat}
    {Q : α → Course → Prop} {rooms : α → Nat} (slack : room ≤ pace)
    (outline : Outlined plain .main (fun c => c.requests = sender.posted) p
      (At .main (Initiating sender.initiator sender.posted) room anything)
      fun value => At .main (Q value) (rooms value) anything)
    (noting : ∀ value (w : World plain), sender.Settled → sender.Noted w.course.replies →
      Q value w.course → (note value).Ready w) :
    (handshake plain).Outline .main sender.Between (p.bind fun value => .done fun _ => note value)
      sender.Ready fun leave w => (leave w.chip).Ready w := by
  have framed := outline.frame sender.noted_kept
  refine Rules.Outline.strengthen (Rules.Outline.assuming (φ := sender.Settled) fun settled =>
    framed.bind fun value => .done fun w h => ?_) ?_
  · exact noting value w settled h.2 h.1.course
  · exact fun w ready => ⟨ready.settled, at_of_course room slack ready.fits, ready.noted⟩

theorem post_upheld (sender : Sender) (cmd : Command) :
    (handshake plain).Outline .main sender.Between (role.run (.post cmd) sender) sender.Ready
      fun leave w => (leave w.chip).Ready w := by
  have outline : Outlined plain .main (fun c => c.requests = sender.posted)
      (sender.initiator.post cmd)
      (At .main (Initiating sender.initiator sender.posted) 5 anything)
      fun result => At .main (Posted cmd sender.initiator sender.posted result)
        (postedRoom 0 result) anything :=
    post_outline cmd sender.initiator (fun _ h => h) ⟨by rintro limit ⟨⟩, trivial⟩
  exact call_upheld (by decide) outline fun result w settled noted h =>
    ready_notePost noted settled h

theorem pollCompletion_upheld (sender : Sender) :
    (handshake plain).Outline .main sender.Between (role.run .pollCompletion sender) sender.Ready
      fun leave w => (leave w.chip).Ready w := by
  have outline : Outlined plain .main (fun c => c.requests = sender.posted)
      (Initiator.pollCompletion sender.initiator)
      (At .main (Initiating sender.initiator sender.posted) 1 anything)
      fun result => At .main (Polled sender.initiator sender.posted result)
        (polledRoom 0 result) anything :=
    pollCompletion_outline sender.initiator (fun _ h => h) (by decide)
  exact call_upheld (by decide) outline fun result w settled noted h =>
    ready_notePoll noted settled h

/-- A result word was read. It is known to be the last reply's only while the initiator is idle. -/
def HasRead (sender : Sender) (index : Fin 8) (word : UInt16) (c : Course) : Prop :=
  Initiating sender.initiator sender.posted c ∧
    (sender.initiator.isIdle = true →
      ∀ reply ∈ c.replies.getLast?, reply.words.get index = word)

theorem readResult_upheld (sender : Sender) (index : Fin 8) :
    (handshake plain).Outline .main sender.Between (role.run (.readResult index) sender)
      sender.Ready fun leave w => (leave w.chip).Ready w := by
  have outline : Outlined plain .main (fun c => c.requests = sender.posted)
      (MainRegisters.readResult index)
      (At .main (Initiating sender.initiator sender.posted) 1 anything)
      fun word => At .main (sender.HasRead index word) 0 anything := by
    refine readResult_outline index.isLt (initiating sender.initiator fun _ h => h) ?_
    refine fun w fits => ⟨fits, fun idle reply last => ?_⟩
    have rest := rest_of_idle fits idle
    obtain ⟨-, words, -⟩ := w.shows.reply (by rw [rest]; rfl) reply last
    rw [words]
    rfl
  exact call_upheld (by decide) outline fun word w settled noted h =>
    ready_noteResult ⟨h.1, settled, noted⟩ h.2

/-- Each call of the Main processor keeps its notes true, whatever the Sub processor does. -/
theorem upholds : (handshake plain).Upholds .main role Between Ready where
  stable := ready_stable
  within sender w ready := ⟨ready.fits.2, ready.noted⟩
  call call sender _ := by
    cases call with
    | post cmd => exact sender.post_upheld cmd
    | pollCompletion => exact sender.pollCompletion_upheld
    | readResult index => exact sender.readResult_upheld index

end Sender

/-! ## The Sub processor -/

/-- The responder, with the requests that it took up and its replies so far, oldest first. -/
structure Receiver where
  responder : Responder
  /-- Whether the parameters of the command in hand were read. -/
  read : Bool
  seen : List Request
  signalled : List Reply

namespace Receiver

/-- A receiver before its first call. -/
def atRest : Receiver := ⟨.atRest, false, [], []⟩

/-- The calls of the Sub processor. -/
inductive Call where
  | pollCommand
  | ack
  | readParams
  | writeResult (index : Fin 8) (value : UInt16)
  | signal (status : Status)
  | pollRelease

/-- The protocol of the Sub processor: it writes results between an acknowledgement and its signal,
and reads the parameters there, once before it signals. -/
def Allowed : Call → Receiver → Prop
  | .readParams, receiver =>
    receiver.responder.ackedOpcode?.isSome = true ∧ receiver.read = false
  | .writeResult _ _, receiver => receiver.responder.ackedOpcode?.isSome = true
  | .signal _, receiver => receiver.responder.ackedOpcode?.isSome = true → receiver.read = true
  | .pollCommand, _ | .ack, _ | .pollRelease, _ => True

/-- Notes how an acknowledgement went. -/
def noteAck (receiver : Receiver) : Except LinkError Unit × Responder → Receiver
  | (.ok (), responder) => { receiver with responder, read := false }
  | (.error _, responder) => { receiver with responder }

/-- Notes the parameters of the command in hand. -/
def noteParams (receiver : Receiver) (params : Params) : Receiver :=
  match receiver.responder.ackedOpcode? with
  | some opcode => { receiver with read := true, seen := receiver.seen ++ [⟨opcode, params⟩] }
  | none => receiver

/-- Notes how a signal went, with the result words as they were then. -/
def noteSignal (receiver : Receiver) (status : Status) (words : Results) :
    Except LinkError Unit × Responder → Receiver
  | (.ok (), responder) =>
    { receiver with responder, signalled := receiver.signalled ++ [⟨status, words⟩] }
  | (.error _, responder) => { receiver with responder }

/-- What the Sub processor may do. -/
def role : Role Receiver where
  Call := Call
  Allowed := Allowed
  run
    | .pollCommand, receiver => do
      let _ ← receiver.responder.pollCommand
      return fun _ => receiver
    | .ack, receiver => do
      let result ← receiver.responder.ack
      return fun _ => receiver.noteAck result
    | .readParams, receiver => do
      let params ← SubRegisters.readParams
      return fun _ => receiver.noteParams params
    | .writeResult index value, receiver => do
      SubRegisters.writeResult index value
      return fun _ => receiver
    | .signal status, receiver => do
      let result ← receiver.responder.signal status
      return fun chip => receiver.noteSignal status chip.results result
    | .pollRelease, receiver => do
      let (_, responder) ← receiver.responder.pollRelease
      return fun _ => { receiver with responder }

/-- How many requests were seen follows from the phase of the responder. -/
def Settled (receiver : Receiver) : Prop :=
  receiver.seen.length = receiver.signalled.length +
    if receiver.responder.ackedOpcode?.isSome && receiver.read then 1 else 0

/-- What holds between two calls. -/
structure Ready (receiver : Receiver) (w : World plain) : Prop where
  fits : Responding receiver.responder receiver.signalled w.course
  settled : receiver.Settled
  seen : receiver.seen <+: w.course.requests

/-- What holds in the middle of a call. -/
def Between (receiver : Receiver) (w : World plain) : Prop :=
  w.course.replies = receiver.signalled ∧ receiver.seen <+: w.course.requests

theorem seen_kept (receiver : Receiver) :
    (handshake plain).Kept fun w => receiver.seen <+: w.course.requests :=
  fun _ _ _ move seen => seen.trans (moves_extend move).1

theorem ready_stable (receiver : Receiver) : (handshake plain).Stable .sub receiver.Ready := by
  intro w w' move ready
  have standing : Standing .sub (fun _ => True)
      (Responding receiver.responder receiver.signalled) :=
    responding receiver.responder fun _ _ => trivial
  exact ⟨standing.kept move ready.fits, ready.settled, receiver.seen_kept move ready.seen⟩

/-- A call keeps the notes true if they can be brought up to date from what the call returns. -/
theorem call_upheld {α : Type} {receiver : Receiver} {p : Program α}
    {note : α → GateArray → Receiver} {room : Nat} {Q : α → Course → Prop} {rooms : α → Nat}
    (slack : room ≤ pace)
    (outline : Outlined plain .sub (fun c => c.replies = receiver.signalled) p
      (At .sub (Responding receiver.responder receiver.signalled) room anything)
      fun value => At .sub (Q value) (rooms value) anything)
    (noting : ∀ value (w : World plain), receiver.Settled →
      receiver.seen <+: w.course.requests → Q value w.course → (note value w.chip).Ready w) :
    (handshake plain).Outline .sub receiver.Between (p.bind fun value => .done (note value))
      receiver.Ready fun leave w => (leave w.chip).Ready w := by
  have framed := outline.frame receiver.seen_kept
  refine Rules.Outline.strengthen (Rules.Outline.assuming (φ := receiver.Settled) fun settled =>
    framed.bind fun value => .done fun w h => ?_) ?_
  · exact noting value w settled h.2 h.1.course
  · exact fun w ready => ⟨ready.settled, at_of_course room slack ready.fits, ready.seen⟩

/-- A call that is refused makes no bus cycle and changes nothing. -/
theorem refused_upheld (receiver : Receiver) :
    (handshake plain).Outline .sub receiver.Between (.done fun _ => receiver) receiver.Ready
      fun leave w => (leave w.chip).Ready w :=
  .done fun _ ready => ready

variable {read : Bool} {seen : List Request} {signalled : List Reply}

theorem pollCommand_upheld (receiver : Receiver) :
    (handshake plain).Outline .sub receiver.Between (role.run .pollCommand receiver)
      receiver.Ready fun leave w => (leave w.chip).Ready w := by
  obtain ⟨⟨phase⟩, read, seen, signalled⟩ := receiver
  cases phase with
  | acked opcode => exact refused_upheld _
  | signalled status => exact refused_upheld _
  | waiting =>
    have outline : Outlined plain .sub (fun c => c.replies = signalled)
        (Responder.pollCommand ⟨.waiting⟩)
        (At .sub (Responding ⟨.waiting⟩ signalled) 1 anything) _ :=
      pollCommand_outline rfl (responding ⟨.waiting⟩ fun _ h => h) (fun c h => h.1)
        (by rintro c h limit ⟨⟩)
    exact call_upheld (by decide) outline fun found w settled more h => ⟨h.1, settled, more⟩

theorem ack_upheld (receiver : Receiver) :
    (handshake plain).Outline .sub receiver.Between (role.run .ack receiver)
      receiver.Ready fun leave w => (leave w.chip).Ready w := by
  obtain ⟨⟨phase⟩, read, seen, signalled⟩ := receiver
  cases phase with
  | acked opcode => exact refused_upheld _
  | signalled status => exact refused_upheld _
  | waiting =>
    have outline : Outlined plain .sub (fun c => c.replies = signalled)
        (Responder.ack ⟨.waiting⟩)
        (At .sub (Responding ⟨.waiting⟩ signalled) 1 anything)
        fun result => At .sub (Acknowledged (Responding ⟨.waiting⟩ signalled) ⟨.waiting⟩ result)
          (ackedRoom 0 result) anything :=
      ack_outline rfl (responding ⟨.waiting⟩ fun _ h => h) (fun c h => h.1)
        (by rintro c h limit ⟨⟩) (Nat.zero_le _)
    apply call_upheld (by decide) outline
    intro result w settled more h
    obtain ⟨e | ⟨⟨⟩⟩, responder⟩ := result
    · obtain ⟨rfl, fits, -⟩ := h
      exact ⟨fits, settled, more⟩
    · obtain ⟨opcode, rfl, acked, last, -, same⟩ := h
      exact ⟨⟨⟨acked, last⟩, same⟩, settled, more⟩

theorem readParams_upheld {receiver : Receiver} (allowed : Allowed .readParams receiver) :
    (handshake plain).Outline .sub receiver.Between (role.run .readParams receiver)
      receiver.Ready fun leave w => (leave w.chip).Ready w := by
  obtain ⟨⟨phase⟩, read, seen, signalled⟩ := receiver
  obtain ⟨acked, unread⟩ := allowed
  cases phase with
  | waiting => cases acked
  | signalled status => cases acked
  | acked opcode =>
    obtain rfl : read = false := unread
    have outline : Outlined plain .sub (fun c => c.replies = signalled) SubRegisters.readParams
        (At .sub (Responding ⟨.acked opcode⟩ signalled) 4 anything)
        fun params => At .sub (Reading (Responding ⟨.acked opcode⟩ signalled) (· = params)) 0
          anything :=
      readParams_outline (responding ⟨.acked opcode⟩ fun _ h => h) fun c h => h.1.1
    apply call_upheld (by decide) outline
    intro params w settled more h
    obtain ⟨⟨⟨stage, last⟩, same⟩, params_eq⟩ := h
    obtain ⟨request, eq, rfl⟩ := Option.map_eq_some_iff.mp last
    obtain rfl : request.params = params := params_eq request eq
    have settled : seen.length = signalled.length + 0 := settled
    have count := w.shows.count
    rw [stage, same] at count
    change w.course.requests.length = signalled.length + 1 at count
    -- all requests but the one in hand were seen before
    have all : w.course.requests = seen ++ [request] := concat_of_extends more (by omega) eq
    refine ⟨⟨⟨stage, last⟩, same⟩, ?_, ?_⟩
    · show (seen ++ [_]).length = signalled.length + 1
      simp [settled]
    · exact all ▸ List.prefix_rfl

theorem writeResult_upheld {receiver : Receiver} {index : Fin 8} {value : UInt16}
    (allowed : Allowed (.writeResult index value) receiver) :
    (handshake plain).Outline .sub receiver.Between (role.run (.writeResult index value) receiver)
      receiver.Ready fun leave w => (leave w.chip).Ready w := by
  obtain ⟨⟨phase⟩, read, seen, signalled⟩ := receiver
  cases phase with
  | waiting => cases allowed
  | signalled status => cases allowed
  | acked opcode =>
    have outline : Outlined plain .sub (fun c => c.replies = signalled)
        (SubRegisters.writeResult index value)
        (At .sub (Responding ⟨.acked opcode⟩ signalled) 1 anything)
        fun _ => At .sub (Responding ⟨.acked opcode⟩ signalled) 0 anything :=
      writeResult_outline (R := fun _ => True) value index.isLt
        (responding ⟨.acked opcode⟩ fun _ h => h) fun c h => h.1.1
    exact call_upheld (by decide) outline fun _ w settled more h => ⟨h, settled, more⟩

theorem signal_upheld {receiver : Receiver} {status : Status}
    (allowed : Allowed (.signal status) receiver) :
    (handshake plain).Outline .sub receiver.Between (role.run (.signal status) receiver)
      receiver.Ready fun leave w => (leave w.chip).Ready w := by
  obtain ⟨⟨phase⟩, read, seen, signalled⟩ := receiver
  cases phase with
  | waiting => cases status <;> exact refused_upheld _
  | signalled last => cases status <;> exact refused_upheld _
  | acked opcode =>
    obtain rfl : read = true := allowed rfl
    cases terminal : status.isTerminal with
    | false =>
      cases status with
      | done => cases terminal
      | error => cases terminal
      | _ => exact refused_upheld _
    | true =>
      have outline : Outlined plain .sub (fun c => c.replies = signalled)
          (Responder.signal status ⟨.acked opcode⟩)
          (At .sub (Responding ⟨.acked opcode⟩ signalled) 0 anything) _ :=
        signal_outline rfl terminal (responding ⟨.acked opcode⟩ fun _ h => h) (fun c h => h.1.1)
          (fun _ _ _ => trivial)
      apply call_upheld (by decide) outline
      intro result w settled more h
      obtain ⟨rfl, stage, words, replies, all, -, same⟩ := h
      obtain rfl : replies = signalled := same
      have last : w.course.replies.getLast? = some ⟨status, words⟩ := by
        rw [all]
        exact List.getLast?_concat
      -- the reply is kept with the words that the chip shows at this moment
      have closed : w.course.stage.isOpen = false := by
        rcases stage with e | e <;> rw [e] <;> rfl
      obtain ⟨-, words_eq, -⟩ := w.shows.reply closed _ last
      obtain rfl : w.chip.results = words := words_eq
      refine ⟨⟨⟨stage, by rw [last]; rfl⟩, all⟩, ?_, more⟩
      have settled : seen.length = replies.length + 1 := settled
      show seen.length = (replies ++ [_]).length + 0
      simp [settled]

theorem pollRelease_upheld (receiver : Receiver) :
    (handshake plain).Outline .sub receiver.Between (role.run .pollRelease receiver)
      receiver.Ready fun leave w => (leave w.chip).Ready w := by
  obtain ⟨⟨phase⟩, read, seen, signalled⟩ := receiver
  cases phase with
  | waiting => exact refused_upheld _
  | acked opcode => exact refused_upheld _
  | signalled status =>
    have outline : Outlined plain .sub (fun c => c.replies = signalled)
        (Responder.pollRelease ⟨.signalled status⟩)
        (At .sub (Responding ⟨.signalled status⟩ signalled) 1 anything)
        fun result => At .sub
          (Released (Responding ⟨.signalled status⟩ signalled) ⟨.signalled status⟩ result)
          pace anything :=
      pollRelease_outline rfl (responding ⟨.signalled status⟩ fun _ h => h) fun c h => h.1.1
    apply call_upheld (by decide) outline
    intro result w settled more h
    obtain ⟨e | (_ | _), responder⟩ := result
    · cases h
    · obtain ⟨rfl, fits⟩ := h
      exact ⟨fits, settled, more⟩
    · obtain ⟨rfl, rest, -, same⟩ := h
      exact ⟨⟨.inl rest, same⟩, settled, more⟩

/-- Each call of the Sub processor keeps its notes true, whatever the Main processor does. -/
theorem upholds : (handshake plain).Upholds .sub role Between Ready where
  stable := ready_stable
  within _ _ ready := ⟨ready.fits.2, ready.seen⟩
  call call receiver allowed := by
    cases call with
    | pollCommand => exact receiver.pollCommand_upheld
    | ack => exact receiver.ack_upheld
    | readParams => exact readParams_upheld allowed
    | writeResult index value => exact writeResult_upheld allowed
    | signal status => exact signal_upheld allowed
    | pollRelease => exact receiver.pollRelease_upheld

end Receiver

/-! ## Both processors -/

/-- Both processors before their first calls. -/
def start (chip : GateArray) : System Sender Receiver :=
  ⟨chip, .free .atRest, .free .atRest⟩

/-- The interleavings of the two processors' calls. -/
@[reducible] def Interleaved (chip : GateArray) (system : System Sender Receiver) : Prop :=
  System.Reachable Sender.role Receiver.role (start chip) system

/-- What an observer finds in the notes of both processors. -/
structure Faithful (system : System Sender Receiver) : Prop where
  /-- The requests that were taken up are the first ones that were posted, in order. -/
  arrives : system.sub.state.seen <+: system.main.state.posted
  /-- One command at most is in flight. -/
  inFlight : system.main.state.posted.length ≤ system.main.state.completed.length + 1
  /-- The statuses that came back are the first ones that were signalled, in order. -/
  returns : system.main.state.completed <+: system.sub.state.signalled.map (·.status)
  /-- The result words that were read after a completion are those of that command's reply. -/
  results : ∀ entry ∈ system.main.state.collected, entry.Agrees system.sub.state.signalled
  /-- Between commands nothing is left over. -/
  settles : ∀ sender receiver, system.main = .free sender → system.sub = .free receiver →
    sender.initiator.isIdle = true →
      Quiet system.chip ∧ receiver.responder = .atRest ∧ receiver.seen = sender.posted ∧
        receiver.signalled.map (·.status) = sender.completed
  /-- No call ever faults. -/
  runsMain : ∀ sender rest, system.main = .calling sender rest →
    ∃ next, rest.step .main system.chip = .ok next
  runsSub : ∀ receiver rest, system.sub = .calling receiver rest →
    ∃ next, rest.step .sub system.chip = .ok next

/-- At rest the responder waits and both flags are clear. -/
theorem settles_of_ready {w : World plain} {sender : Sender} {receiver : Receiver}
    (main : sender.Ready w) (sub : receiver.Ready w) (idle : sender.initiator.isIdle = true) :
    Quiet w.chip ∧ receiver.responder = .atRest ∧ receiver.seen = sender.posted ∧
      receiver.signalled.map (·.status) = sender.completed := by
  obtain ⟨rest, length⟩ := Sender.last_reply main idle
  obtain ⟨⟨phase⟩, read, seen, signalled⟩ := receiver
  have waits : phase = .waiting := by
    have fits := sub.fits.1
    cases phase with
    | waiting => rfl
    | acked opcode =>
      have stage := fits.1
      rw [rest] at stage
      cases stage
    | signalled status =>
      rcases fits.1 with stage | stage <;> rw [rest] at stage <;> cases stage
  subst waits
  refine ⟨fun side => ?_, rfl, ?_, ?_⟩
  · rw [w.shows.flag side]
    cases side <;> simp only [Course.flag, rest] <;> rfl
  · have settled : seen.length = signalled.length + 0 := sub.settled
    have same : w.course.replies = signalled := sub.fits.2
    have posted := (Sender.settled_of_idle idle).mp main.settled
    have more := sub.seen
    rw [main.fits.2] at more
    apply more.eq_of_length
    rw [posted, ← length, same]
    exact settled
  · have same : w.course.replies = signalled := sub.fits.2
    have completed := main.noted.completed
    rw [same] at completed
    refine (completed.eq_of_length ?_).symm
    rw [List.length_map, ← same, length]

/-- The handshake carries every command across exactly once, in every interleaving of the bus
cycles of both processors. -/
theorem handshake_exactly_once {chip : GateArray} (quiet : Quiet chip)
    {system : System Sender Receiver} (interleaved : Interleaved chip system) :
    Faithful system := by
  have initially : System.Upheld (handshake plain) Sender.Between Sender.Ready Receiver.Between
      Receiver.Ready (start chip) :=
    ⟨.ofQuiet quiet, rfl, ⟨⟨rfl, rfl⟩, rfl, List.prefix_rfl, Nat.le_succ _, by rintro entry ⟨⟩⟩,
      ⟨⟨.inl rfl, rfl⟩, rfl, List.prefix_rfl⟩⟩
  obtain ⟨w, eq, main, sub⟩ := System.upheld_of_reachable Sender.upholds Receiver.upholds
    initially interleaved
  obtain ⟨requests, noted⟩ := main.within Sender.upholds
  obtain ⟨replies, seen⟩ := sub.within Receiver.upholds
  rw [requests] at seen
  rw [replies] at noted
  refine ⟨seen, noted.inFlight, noted.completed, noted.collected, ?_, ?_, ?_⟩
  · intro sender receiver free free' idle
    rw [free] at main
    rw [free'] at sub
    rw [← eq]
    exact settles_of_ready main sub idle
  · intro sender rest calling
    rw [calling] at main
    rw [← eq]
    exact main.runs
  · intro receiver rest calling
    rw [calling] at sub
    rw [← eq]
    exact sub.runs

/-- A whole command on the chip at power-up: posted, taken up, answered, completed, and its first
result word read. -/
theorem handshake_exactly_once_initOs :
    ∃ system, Interleaved (.initial true) system ∧ system.main.state.completed = [.done] ∧
      system.main.state.collected.length = 1 ∧
      system.sub.state.seen = [Command.initOs.request] ∧ Faithful system := by
  have quiet : Quiet (.initial true) := by
    intro side
    cases side <;> rfl
  have h : Interleaved (.initial true) _ := .start
  -- the post: a look, four parameter words, the opcode
  have h : Interleaved (.initial true) _ :=
    .step h (.main _ (.call (show Sender.role.Call from .post .initOs) trivial))
  have h : Interleaved (.initial true) _ := h.main_cycles 6 rfl
  -- the acknowledgement, the parameters and the signal
  have h : Interleaved (.initial true) _ :=
    .step h (.sub _ (.call (show Receiver.role.Call from .ack) trivial))
  have h : Interleaved (.initial true) _ := h.sub_cycles 2 rfl
  have h : Interleaved (.initial true) _ :=
    .step h (.sub _ (.call (show Receiver.role.Call from .readParams) ⟨rfl, rfl⟩))
  have h : Interleaved (.initial true) _ := h.sub_cycles 4 rfl
  have h : Interleaved (.initial true) _ :=
    .step h (.sub _ (.call (show Receiver.role.Call from .signal .done) fun _ => rfl))
  have h : Interleaved (.initial true) _ := h.sub_cycles 1 rfl
  -- the completion, with the release in the middle of the initiator's poll
  have h : Interleaved (.initial true) _ :=
    .step h (.main _ (.call (show Sender.role.Call from .pollCompletion) trivial))
  have h : Interleaved (.initial true) _ := h.main_cycles 2 rfl
  have h : Interleaved (.initial true) _ :=
    .step h (.sub _ (.call (show Receiver.role.Call from .pollRelease) trivial))
  have h : Interleaved (.initial true) _ := h.sub_cycles 2 rfl
  have h : Interleaved (.initial true) _ := h.main_cycles 1 rfl
  have h : Interleaved (.initial true) _ :=
    .step h (.main _ (.call (show Sender.role.Call from .readResult 0) trivial))
  have h : Interleaved (.initial true) _ := h.main_cycles 1 rfl
  exact ⟨_, h, rfl, rfl, rfl, handshake_exactly_once quiet h⟩

end Handshake

end TwinDesk
