import TwinDesk.Proofs.Handoff.Serving
import TwinDesk.Proofs.Handoff.Viewing
import TwinDesk.Proofs.Link.Chip

/-!
# Who is inside of a bank

Every round of the frame loop and every call of the dispatcher works on banks by entering one and
leaving it again before anything else. So neither processor is ever inside of two banks, and both
are never inside of the same one.

* `FrameLoop.tick_bracketed`, `Dispatcher.serve_bracketed` — a round, and the service of a command.
* `Viewer.bracketed`, `Studio.bracketed` — the calls of both processors.
-/

namespace TwinDesk

open Program

/-! ## The Main processor -/

namespace Client

variable (client : Client)

theorem request_bracketed {α : Type} (cmd : Command) (decode : Results → α) :
    (request cmd decode client).Bracketed none := by
  have call : (call cmd client).Bracketed none :=
    (Bracketed.of_plain (Initiator.call_plain cmd client.initiator)).bind fun _ => rfl
  exact call.bind fun _ => rfl

theorem renderFrame_bracketed : (renderFrame client).Bracketed none :=
  (request_bracketed client _ _).bind fun _ => rfl

theorem present_bracketed (screen : Screen) : (present screen).Bracketed none := by
  refine (Grant.acquire_bracketed .main).bind ?_
  rintro (e | grant)
  · rfl
  · exact (grant.withBytes_bracketed _).bind fun _ => rfl

end Client

namespace FrameLoop

variable {S : Type} (loop : FrameLoop S)

theorem deliver_bracketed (event : Option PointerEvent) : (loop.deliver event).Bracketed none := by
  cases event with
  | none => rfl
  | some event =>
    refine (Client.request_bracketed loop.client _ _).bind ?_
    rintro ⟨e | ⟨⟨⟩⟩, client⟩
    · cases e <;> rfl
    · rfl

theorem display_bracketed (pointer : Option PointerEvent) :
    (loop.display pointer).Bracketed none := by
  refine loop.client.renderFrame_bracketed.bind ?_
  rintro ⟨e | reply, client⟩
  · rfl
  · refine (Client.present_bracketed loop.screen).bind ?_
    rintro ⟨e | bank, screen⟩ <;> rfl

/-- A round of the frame loop enters and leaves banks by turns. -/
theorem tick_bracketed [PointerSource S] : loop.tick.Bracketed none := by
  refine (Bracketed.ofChecked loop.readPointer).bind ?_
  rintro ⟨pointer, loop⟩
  refine (loop.deliver_bracketed pointer).bind ?_
  rintro ⟨e | ⟨⟨⟩⟩, loop⟩
  · rfl
  · exact loop.display_bracketed pointer

end FrameLoop

/-! ## The Sub processor -/

namespace Dispatcher

theorem writeResult_bracketed (index : Nat) (value : UInt16) :
    (SubRegisters.writeResult index value).Bracketed none :=
  .of_plain (SubRegisters.writeResult_plain index value)

theorem returnBank_bracketed : returnBank.Bracketed none := by
  refine (Grant.acquire_bracketed .sub).bind ?_
  rintro (e | grant)
  · rfl
  · exact grant.discard_swap_bracketed.bind fun _ => rfl

variable {R : Type} (d : Dispatcher R)

theorem completeRelease_bracketed (budget : Budget) :
    (d.completeRelease budget).Bracketed none := by
  unfold completeRelease
  split
  · exact (Bracketed.of_onFlags
      (Poll.uses_upTo Responder.pollReleased_onFlags _ _)).bind fun _ => rfl
  · rfl

variable [Painter R]

theorem renderFrame_bracketed : d.renderFrame.Bracketed none := by
  refine (writeResult_bracketed _ _).bind fun _ => (writeResult_bracketed _ _).bind fun _ =>
    (Grant.acquire_bracketed .sub).bind ?_
  rintro (e | grant)
  · exact (writeResult_bracketed _ _).bind fun _ => rfl
  · exact (grant.withBytes_bracketed d.paintInto).bind fun _ =>
      grant.discard_swap_bracketed.bind fun _ => (writeResult_bracketed _ _).bind fun _ => rfl

theorem perform_bracketed (opcode : Opcode) (params : Params) :
    (d.perform opcode params).Bracketed none := by
  have publish (word : Option UInt16) : (publish word).Bracketed none := by
    cases word with
    | none => rfl
    | some word => exact writeResult_bracketed 0 word
  cases bank : usesBank opcode with
  | false =>
    rw [d.perform_eq params bank]
    exact (Bracketed.ofChecked _).bind fun _ => (publish _).bind fun _ => rfl
  | true =>
    rcases eq_of_usesBank bank with rfl | rfl
    · exact d.renderFrame_bracketed.bind fun _ => rfl
    · exact returnBank_bracketed.bind fun _ => rfl

theorem execute_bracketed (raw : UInt8) : (d.execute raw).Bracketed none := by
  unfold execute
  split
  · rfl
  · exact (Bracketed.of_plain SubRegisters.readParams_plain).bind fun params =>
      d.perform_bracketed _ params

theorem answer_bracketed (raw : UInt8)
    {finish : Status → Responder → Program (Except LinkError Unit × Responder)}
    (finishes : ∀ status responder, (finish status responder).Uses Access.OnFlag) :
    (d.answer raw finish).Bracketed none := by
  refine (Bracketed.of_onFlags d.responder.ack_onFlags).bind ?_
  rintro ⟨e | ⟨⟨⟩⟩, responder⟩
  · rfl
  · refine (execute_bracketed _ raw).bind ?_
    rintro ⟨status, d⟩
    exact (Bracketed.of_onFlags (finishes _ _)).bind fun _ => rfl

theorem serve_bracketed : d.serve.Bracketed none :=
  (Bracketed.of_onFlags d.responder.waitCommand_onFlags).bind fun raw =>
    d.answer_bracketed raw Responder.finish_onFlags

theorem serveWithin_bracketed (budget : Budget) : (d.serveWithin budget).Bracketed none := by
  refine (d.completeRelease_bracketed budget).bind ?_
  rintro ⟨e | ⟨⟨⟩⟩, d⟩
  · rfl
  refine (Bracketed.of_onFlags
    (d.responder.waitCommandWithin_onFlags budget)).bind ?_
  rintro (e | raw)
  · rfl
  refine (d.answer_bracketed raw (Responder.finishWithin_onFlags budget)).bind ?_
  rintro ⟨e | status, d⟩
  · cases e <;> rfl
  · rfl

end Dispatcher

namespace Handoff

theorem Viewer.bracketed (call : Viewer.role.Call) (viewer : Viewer) :
    (Viewer.role.run call viewer).Bracketed none :=
  viewer.loop.tick_bracketed.bind fun _ => rfl

theorem Studio.bracketed (service : Service) (studio : Studio) :
    (Studio.role.run service studio).Bracketed none := by
  have serve : (service.serve studio.dispatcher).Bracketed none := by
    cases service with
    | forever => exact studio.dispatcher.serve_bracketed
    | within budget => exact studio.dispatcher.serveWithin_bracketed budget
  exact serve.bind fun _ => rfl

end Handoff

end TwinDesk
