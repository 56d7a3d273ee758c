import TwinDesk.Proofs.Display.Safe
import TwinDesk.Proofs.Sub.Requests

/-!
# Every command is answered

Nothing that the Main processor can put on the link stops the Sub processor. The commands here are
raw: any opcode byte but the one at rest, with any parameter words.

* `Request.send` — a raw command on the link, from the post to the completion.
* `every_command_is_answered` — under every fair schedule, all commands are answered with `DONE` or
  `ERROR`, and nothing ever faults.
-/

namespace TwinDesk

open Handshake Program

/-! ## Raw commands -/

namespace Handshake

/-- Puts a request on the link, and waits for its completion. -/
def Request.send (request : Request) : Program (Except LinkError Status) := do
  MainRegisters.writeParams request.params
  Side.main.setFlag request.opcode
  let (result, _) ← Initiator.waitDone ⟨.posted .none⟩
  return result

/-- Sends one request after the other. -/
def Request.sendAll : List Request → Program (List (Except LinkError Status))
  | [] => return []
  | request :: rest => do
    let status ← request.send
    let statuses ← sendAll rest
    return status :: statuses

variable {contract : Contract} {requests : List Request}

/-- A raw request is posted and completed. -/
theorem sendRaw_outline {request : Request} (nonzero : request.opcode ≠ 0)
    (admits : contract.Admits requests request) :
    Triple contract .main request.send (At .main (Initiating .atRest requests) 6 anything)
      fun result w => (∃ status : Status, result = .ok status ∧ status.isTerminal = true) ∧
        At .main (Initiating .atRest (requests ++ [request])) 6 anything w := by
  have rest (c : Course) (fits : Initiating .atRest requests c) : c.stage = .rest := fits.1
  have standing : Standing .main (fun _ => True) (Initiating .atRest requests) :=
    initiating _ fun _ _ => trivial
  have words : Triple contract .main (MainRegisters.writeParams request.params)
      (At .main (Initiating .atRest requests) (2 + 4) anything) _ :=
    writeParams_outline request.params standing rest
  have raise : Triple contract .main (Side.main.setFlag request.opcode)
      (At .main (Initiating .atRest requests) 2 (· = request.params))
      fun _ => At .main (Initiating ⟨.posted .none⟩ (requests ++ [request])) pace
        (· = request.params) := by
    apply setFlag_outline standing
    intro w fits params
    have params : w.chip.params = request.params := params
    refine ⟨_, .post ⟨request.opcode, w.chip.params⟩ (rest _ fits),
      w.shows.post (rest _ fits) nonzero ?_, rfl, ?_⟩
    · rw [fits.2, params]
      exact admits
    · rw [fits.2, params]
  -- the initiator waits for a status; which opcode it has posted makes no difference to it
  have wait : Triple contract .main (Initiator.waitDone ⟨.posted .none⟩)
      (At .main (Initiating ⟨.posted .none⟩ (requests ++ [request])) (60 + 2) anything) _ :=
    waitDone_outline rfl (by decide) fun _ _ => trivial
  refine words.bind fun _ => raise.bind fun _ =>
    Rules.Outline.bind (wait.strengthen fun w h => ?_) ?_
  · exact h.weaken (fun fits => fits) (by decide) fun _ _ => trivial
  · rintro ⟨result, initiator⟩
    refine .done ?_
    intro w h
    obtain ⟨status, eq, idle, fits, last⟩ := h.course
    obtain rfl : initiator = .atRest := eq_atRest_of_idle idle
    obtain ⟨reply, found, rfl⟩ := Option.map_eq_some_iff.mp last
    have rest : w.course.stage = .rest := fits.1
    obtain ⟨terminal, -⟩ := w.shows.reply (by rw [rest]; rfl) reply found
    have room : w.waited .main + 60 ≤ pace := h.room
    exact ⟨⟨reply.status, eq, terminal⟩, fits, by omega, trivial⟩

/-- All raw requests are posted and completed, as long as they are admitted. -/
theorem sendAll_outline {rest : List Request} (nonzero : ∀ request ∈ rest, request.opcode ≠ 0)
    (limit : contract.limit = some (requests.length + rest.length))
    (permits : ∀ request, contract.Permits request) :
    Triple contract .main (Request.sendAll rest)
      (At .main (Initiating .atRest requests) 6 anything)
      fun statuses w => Answered statuses ∧ statuses.length = rest.length ∧
        At .main (Initiating .atRest (requests ++ rest)) 6 anything w := by
  induction rest generalizing requests with
  | nil =>
    refine .done fun w h => ⟨fun _ none => absurd none List.not_mem_nil, rfl, ?_⟩
    rw [List.append_nil]
    exact h
  | cons request rest ih =>
    have admits : contract.Admits requests request := by
      refine ⟨fun bound mem => ?_, permits request⟩
      obtain rfl := Option.some.inj (limit.symm.trans mem)
      simp
    have limit' : contract.limit = some ((requests ++ [request]).length + rest.length) := by
      rw [limit]
      simp [Nat.add_assoc, Nat.add_comm 1]
    refine (sendRaw_outline (nonzero request List.mem_cons_self) admits).bind ?_
    intro result
    apply Rules.Outline.assuming
    intro answered
    refine (ih (fun r mem => nonzero r (List.mem_cons_of_mem _ mem)) limit').bind
      fun statuses => .done ?_
    rintro w ⟨all, length, h⟩
    rw [List.append_assoc] at h
    exact ⟨List.forall_mem_cons.mpr ⟨answered, all⟩, congrArg Nat.succ length, h⟩

/-! ## The dispatcher -/

/-- Nothing is agreed upon but the number of commands. -/
def anyCommands (count : Nat) : Contract := ⟨some count, fun _ => True, fun _ _ => True⟩

/-- Where any reply will do, the dispatcher carries everything out with a painter that paints
whatever is sound. -/
theorem carries_all {R : Type} [Painter R] {contract : Contract}
    (answers : ∀ requests reply, contract.Answers requests reply)
    (paints : ∀ (painter : R) ops, (∀ op ∈ ops, PaintOp.Sound op) →
      Succeeds (Painter.paintAll painter ops)) :
    Carries contract Calm fun _ (d : Dispatcher R) => d.desktop.Sound where
  indifferent _ sound := sound
  results _ _ calm := ⟨calm.automatic, calm.free⟩
  sound h := h
  unknown _ _ sound := ⟨sound, fun _ => answers _ _⟩
  plain {requests d d' opcode params status word} _ _ sound eq :=
    ⟨((d.effect_yields params sound opcode).of_ok eq).2.1, fun _ _ => answers _ _⟩
  bank {requests replies d opcode params} bank _ sound := by
    have acked (c : Course) (h : Handling .acked requests replies ⟨opcode.code, params⟩ c) :
        c.stage = .acked := h.stage
    cases opcode with
    | renderFrame =>
      have paint : Triple contract .sub d.renderFrame
          (At .sub (Handling .acked requests replies ⟨Opcode.renderFrame.code, params⟩) (48 + 12)
            Calm) _ :=
        renderFrame_outline acked sound (paints d.painter)
      exact paint.bind fun result => .done fun w ⟨painted, h⟩ =>
        ⟨Dispatcher.isTerminal_statusOf _, painted.responder, painted.sound,
          h.weaken id (Nat.zero_le _) fun own calm => ⟨calm, answers _ _⟩⟩
    | wramSwap =>
      have swap : Triple contract .sub Dispatcher.returnBank
          (At .sub (Handling .acked requests replies ⟨Opcode.wramSwap.code, params⟩) (53 + 7)
            Calm) _ :=
        returnBank_outline acked
      exact swap.bind fun result => .done fun w h =>
        ⟨Dispatcher.isTerminal_statusOf _, rfl, sound, h.weaken id (Nat.zero_le _)
          fun own calm => ⟨calm, answers _ _⟩⟩
    | _ => cases bank

theorem carries_any (count : Nat) :
    Carries (anyCommands count) Calm fun _ (d : Dispatcher Canvas) => d.desktop.Sound :=
  carries_all (fun _ _ => trivial) fun painter _ sound => painter.paintAll_yields sound

/-- A dispatcher that has booted answers every raw command with `DONE` or `ERROR`, on a chip that
exchanges banks automatically and under every fair schedule. -/
theorem every_command_is_answered {start chip : GateArray} {painter : Canvas} {launcher : Launcher}
    {d : Dispatcher Canvas} (booted : Dispatcher.Booted start painter launcher chip d)
    (calm : Calm start.workspace) (requests : List Request)
    (nonzero : ∀ request ∈ requests, request.opcode ≠ 0) {schedule : Nat → Side}
    (fair : Duo.Fair schedule) :
    ∃ statuses answers d' chip',
      Duo.EndsWith schedule ⟨chip, Request.sendAll requests, d.serveTimes requests.length⟩
        chip' statuses (answers, d') ∧
      statuses.length = requests.length ∧ Answered statuses ∧
      answers.length = requests.length ∧ Answered answers := by
  obtain ⟨rfl, desktop, -, sound, rfl⟩ := booted.known
  obtain ⟨results, workspace⟩ := Dispatcher.workspace_bootedChip start
  have own : Calm (Dispatcher.bootedChip start).workspace := by
    rw [workspace]
    exact ⟨calm.automatic, calm.free⟩
  have outline : Triple (anyCommands requests.length) .main (Request.sendAll requests)
      (At .main (Initiating .atRest []) 6 anything) _ :=
    sendAll_outline nonzero (congrArg some (by simp)) fun _ => trivial
  have gathered : ∀ statuses (w : World (anyCommands requests.length)),
      Answered statuses ∧ statuses.length = requests.length ∧
        At .main (Initiating .atRest ([] ++ requests)) 6 anything w →
      At .main (fun c => (Answered statuses ∧ statuses.length = requests.length) ∧
        Initiating .atRest requests c) 0 anything w :=
    fun statuses w ⟨all, length, h⟩ => h.mono (fun _ fits => ⟨⟨all, length⟩, fits⟩) (by decide)
  obtain ⟨statuses, answers, d', chip', c, ends, ⟨⟨all, length⟩, -⟩, -, -, all', length'⟩ :=
    ends_of_service (d := { Dispatcher.initial painter launcher with desktop }) rfl
      (outline.weaken (fun _ h => h) gathered)
      (fun statuses c h => ⟨h.2.1, congrArg List.length h.2.2⟩)
      (carries_any requests.length).executes rfl sound
      (Dispatcher.quiet_bootedChip booted.quiet) own fair
  exact ⟨statuses, answers, d', chip', ends, length, all, length', all'⟩

/-- A byte without a meaning, a window far off the screen and a frame, one after the other. -/
theorem every_command_is_answered_wild :
    ∃ chip d, Dispatcher.Booted (.initial true) Canvas.blank (.standIns []) chip d ∧
      ∃ statuses answers d' chip',
        Duo.EndsWith Duo.inTurn ⟨chip, Request.sendAll [⟨0xFE, ⟨1, 2, 3, 4⟩⟩,
          ⟨Opcode.openWindow.code, ⟨0x7FFF, 0x8000, 0xFFFF, 0xFFFF⟩⟩,
          ⟨Opcode.renderFrame.code, ⟨0, 0, 0, 0⟩⟩], d.serveTimes 3⟩ chip' statuses (answers, d') ∧
        statuses.length = 3 ∧ Answered statuses ∧ answers.length = 3 ∧ Answered answers := by
  have quiet : Quiet (.initial true) := by
    intro side
    cases side <;> rfl
  obtain ⟨chip, d, booted⟩ := Dispatcher.exists_booted quiet Canvas.blank (.standIns [])
  have calm : Calm (GateArray.initial true).workspace := ⟨rfl, fun bank => by cases bank <;> rfl⟩
  exact ⟨chip, d, booted,
    every_command_is_answered booted calm _ (by decide) Duo.fair_inTurn⟩

end Handshake

end TwinDesk
