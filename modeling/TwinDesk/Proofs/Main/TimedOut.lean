import TwinDesk.Machine.Bus
import TwinDesk.Proofs.Link.Runs
import TwinDesk.Proofs.Main.RemoteCalls

/-!
# After a timeout

A bounded call of the client may give up while its command is in flight. The initiator then stays
where it is in the cycle, and could be polled to the end of it; but no call of the client does so.
Every later call begins with a post, and a post is refused unless the initiator is at rest.

* `Client.Refuses` — every call of the client fails at once, whatever the Sub processor does.
* `Client.refuses_after_timeout` — what a timeout leaves behind.
* `Client.timeout_not_recovered` — the Sub processor completes the command, and the client goes on
  refusing.
-/

namespace TwinDesk

variable {W α β : Type} {exec : (a : Access) → W → Except Halt a.Answer × W} {limit : Nat}
  {world world' : W}

/-! ## The initiator -/

namespace Initiator

variable {cmd : Command} {initiator initiator' : Initiator} {budget : Budget}

/-- A busy initiator refuses every command. -/
theorem pollPost_of_busy (cmd : Command) (busy : initiator.isIdle = false) :
    pollPost cmd initiator = .done (.error .protocolViolation, initiator) := by
  have refused : initiator.post cmd = .done (.error .protocolViolation, initiator) := by
    rw [post, busy, Bool.not_false, Bool.true_or, if_pos rfl]
    rfl
  rw [pollPost, refused]
  rfl

/-- How a send ends: the command is in flight, or it never was. -/
def Sent (start : Initiator) : Except LinkError Unit → Initiator → Prop
  | .ok (), now => now.isIdle = false
  | .error e, now => e = .timeout → now = start ∧ start.isIdle = true

/-- How the wait for the completion ends: the cycle is over, or the command is still in flight. -/
def Completed : Except LinkError Status → Initiator → Prop
  | .ok _, now => now.isIdle = true
  | .error _, now => now.isIdle = false

theorem pollPost_leaves {result : Except LinkError (Option Unit)}
    (ran : (pollPost cmd initiator).run exec limit world = (.ok (result, initiator'), world')) :
    Poll.Leaves (· = initiator) (Sent initiator) result initiator' := by
  obtain ⟨⟨answer, next⟩, between, posted, rest⟩ := Program.parts_of_run_bind ran
  rw [post] at posted
  split at posted
  · cases posted
    cases rest
    rintro ⟨⟩
  · obtain ⟨flag, seen, -, posted⟩ := Program.parts_of_run_bind posted
    split at posted
    · cases posted
      cases rest
      rfl
    · obtain ⟨⟨⟩, written, -, posted⟩ := Program.parts_of_run_bind posted
      obtain ⟨⟨⟩, raised, -, posted⟩ := Program.parts_of_run_bind posted
      cases posted
      cases rest
      rfl

theorem sendWithin_ends {result : Except LinkError Unit} (idle : initiator.isIdle = true)
    (ran : (initiator.sendWithin budget cmd).run exec limit world =
      (.ok (result, initiator'), world')) : Sent initiator result initiator' := by
  refine Poll.run_upTo (· = initiator) (Sent initiator) ?_ ?_ rfl ran
  · rintro _ now world world' result rfl ran
    exact pollPost_leaves ran
  · rintro _ rfl _
    exact ⟨rfl, idle⟩

theorem awaitRest_leaves {status : Status} {result : Except LinkError (Option Status)}
    (ran : (awaitRest status).run exec limit world = (.ok (result, initiator'), world')) :
    Poll.Leaves (isIdle · = false) Completed result initiator' := by
  obtain ⟨flag, seen, -, ran⟩ := Program.parts_of_run_bind ran
  split at ran <;> cases ran <;> rfl

theorem pollCompletion_leaves (busy : initiator.isIdle = false)
    {result : Except LinkError (Option Status)}
    (ran : (pollCompletion initiator).run exec limit world = (.ok (result, initiator'), world')) :
    Poll.Leaves (isIdle · = false) Completed result initiator' := by
  obtain ⟨phase⟩ := initiator
  cases phase with
  | idle => cases busy
  | releasing status => exact awaitRest_leaves ran
  | posted opcode =>
    obtain ⟨flag, seen, -, ran⟩ := Program.parts_of_run_bind ran
    split at ran
    · obtain ⟨⟨⟩, cleared, -, ran⟩ := Program.parts_of_run_bind ran
      exact awaitRest_leaves ran
    · cases ran
      rfl

theorem waitDoneWithin_ends (busy : initiator.isIdle = false) {result : Except LinkError Status}
    (ran : (initiator.waitDoneWithin budget).run exec limit world =
      (.ok (result, initiator'), world')) : Completed result initiator' := by
  refine Poll.run_upTo (isIdle · = false) Completed ?_ (fun busy => busy) busy ran
  intro now next world world' result busy ran
  exact pollCompletion_leaves busy ran

/-- A bounded call that times out has left the initiator as it was, or keeps it busy. -/
theorem callWithin_timeout
    (ran : (initiator.callWithin budget cmd).run exec limit world =
      (.ok (.error .timeout, initiator'), world')) :
    initiator' = initiator ∧ initiator.isIdle = true ∨ initiator'.isIdle = false := by
  obtain ⟨⟨sent, next⟩, between, sending, ran⟩ := Program.parts_of_run_bind ran
  cases idle : initiator.isIdle with
  | false =>
    -- a busy initiator is refused at once, which is no timeout
    rw [sendWithin, Poll.within_of_error budget (pollPost_of_busy cmd idle)] at sending
    cases sending
    cases ran
  | true =>
    have sends := sendWithin_ends idle sending
    rcases sent with e | ⟨⟨⟩⟩
    · cases ran
      exact .inl ⟨(sends rfl).1, rfl⟩
    · obtain ⟨⟨completed, last⟩, after, waiting, ran⟩ := Program.parts_of_run_bind ran
      have completes := waitDoneWithin_ends sends waiting
      rcases completed with e | status
      · cases ran
        exact .inr completes
      · obtain ⟨words, read, -, ran⟩ := Program.parts_of_run_bind ran
        cases ran

end Initiator

/-! ## The client -/

namespace Client

variable {cmd : Command} {client client' : Client} {budget : Budget}

/-- A call for a command, and how long its waits may take. -/
structure Attempt where
  cmd : Command
  /-- The budget of each wait; none to wait for as long as it takes. -/
  budget : Option Budget

/-- Makes the call. -/
def Attempt.make (attempt : Attempt) : Call Reply :=
  match attempt.budget with
  | none => call attempt.cmd
  | some budget => callWithin budget attempt.cmd

/-- Makes one call after the other. -/
def makeAll : List Attempt → Client → Program (List (Except MainError Reply) × Client)
  | [], client => return ([], client)
  | attempt :: rest, client => do
    let (result, client) ← attempt.make client
    let (results, client) ← makeAll rest client
    return (result :: results, client)

/-- Whatever calls are made, with whatever the bus answers: all of them fail without a bus cycle,
and leave the client as it is. -/
def Refuses (client : Client) : Prop :=
  ∀ {W : Type} (exec : (a : Access) → W → Except Halt a.Answer × W) (limit : Nat) (world : W)
    (attempts : List Attempt), 0 < limit →
      (makeAll attempts client).run exec limit world =
        (.ok (attempts.map fun _ => .error (.link .protocolViolation), client), world)

theorem make_of_busy (busy : client.initiator.isIdle = false) (patient : 0 < limit)
    (attempt : Attempt) : (attempt.make client).run exec limit world =
      (.ok (.error (.link .protocolViolation), client), world) := by
  have refused := Initiator.pollPost_of_busy attempt.cmd busy
  have unanswered : ∀ call : Initiator → Program (Except LinkError Reply × Initiator),
      (call client.initiator).run exec limit world =
        (.ok (.error .protocolViolation, client.initiator), world) →
      (call client.initiator >>= fun called =>
        return (check attempt.cmd called.1, (⟨called.2⟩ : Client))).run exec limit world =
          (.ok (.error (.link .protocolViolation), client), world) :=
    fun _ fails => Program.run_bind_of_ok _ fails
  obtain ⟨cmd, _ | budget⟩ := attempt
  · refine unanswered (Initiator.call cmd) ?_
    exact Program.run_bind_of_ok _ (Poll.run_forever_of_error patient refused)
  · refine unanswered (Initiator.callWithin budget cmd) ?_
    rw [Initiator.callWithin, Initiator.exchange, Initiator.sendWithin,
      Poll.within_of_error budget refused]
    rfl

theorem refuses_of_busy (busy : client.initiator.isIdle = false) : client.Refuses := by
  intro W exec limit world attempts patient
  induction attempts with
  | nil => rfl
  | cons attempt rest ih =>
    refine (Program.run_bind_of_ok _ (make_of_busy busy patient attempt)).trans ?_
    exact Program.run_bind_of_ok _ ih

/-- A bounded call that times out has not posted its command, and the client is as it was, or else
the client never has another command posted. -/
theorem refuses_after_timeout
    (timedOut : (callWithin budget cmd client).run exec limit world =
      (.ok (.error (.link .timeout), client'), world')) :
    client' = client ∧ client.initiator.isIdle = true ∨
      client'.initiator.isIdle = false ∧ client'.Refuses := by
  obtain ⟨⟨result, initiator⟩, after, called, ended⟩ := Program.parts_of_run_bind timedOut
  rcases result with e | reply
  · cases ended
    rcases Initiator.callWithin_timeout called with ⟨rfl, idle⟩ | busy
    · exact .inl ⟨rfl, idle⟩
    · exact .inr ⟨busy, refuses_of_busy busy⟩
  · dsimp only at ended
    rcases check_eq cmd reply with accepted | failed
    · rw [accepted] at ended
      cases ended
    · rw [failed] at ended
      cases ended

/-- The Sub processor does not move within one poll, and the client has posted its last command. -/
theorem refuses_after_timeout_cdPlay : ∃ client' bus',
    (Bus.initial true).run .main (callWithin (.ofPolls 1) (.cdPlay 3) atRest) =
      (.ok (.error (.link .timeout), client'), bus') ∧
    client'.initiator.phase = .posted .cdPlay ∧ client'.Refuses := by
  have timedOut : ∃ bus',
      (Bus.initial true).run .main (callWithin (.ofPolls 1) (.cdPlay 3) atRest) =
        (.ok (.error (.link .timeout), ⟨⟨.posted .cdPlay⟩⟩), bus') := ⟨_, rfl⟩
  obtain ⟨bus', timedOut⟩ := timedOut
  rcases refuses_after_timeout timedOut with ⟨same, -⟩ | ⟨-, refuses⟩
  · cases same
  · exact ⟨_, bus', timedOut, rfl, refuses⟩

/-- The Sub processor acknowledges what is posted, carries it out, signals that it is done, and
looks once for the release. -/
def answerOnce : Program (Except LinkError Unit × Responder) := do
  let (_, responder) ← Responder.atRest.ack
  let _ ← SubRegisters.readParams
  responder.finishWithin (.ofPolls 1) .done

/-- A command that times out is carried out and signalled, and still the next call fails instead of
being posted. -/
theorem timeout_not_recovered : ∃ posted served : Bus,
    (Bus.initial true).run .main (callWithin (.ofPolls 1) (.cdPlay 3) atRest) =
      (.ok (.error (.link .timeout), ⟨⟨.posted .cdPlay⟩⟩), posted) ∧
    posted.run .sub answerOnce = (.ok (.error .timeout, ⟨.signalled .done⟩), served) ∧
    served.run .main (call .cdStop ⟨⟨.posted .cdPlay⟩⟩) =
      (.ok (.error (.link .protocolViolation), ⟨⟨.posted .cdPlay⟩⟩), served) := by
  exact ⟨_, _, rfl, rfl, rfl⟩

end Client

end TwinDesk
