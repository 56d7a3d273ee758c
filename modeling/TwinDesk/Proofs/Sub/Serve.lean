import TwinDesk.Proofs.Handshake.Exchange
import TwinDesk.Proofs.Handshake.Responder
import TwinDesk.Sub.Dispatcher

/-!
# Serving commands

The dispatcher's half of a whole command: it waits for a request, takes it up, carries it out,
signals the reply and waits for the release. What carrying out a command does is a parameter here:
an invariant of the dispatcher that speaks of all requests so far.

* `waitCommandWithin_outline`, `finishWithin_outline` — waiting within a budget.
* `Executes` — a dispatcher carries out every request, keeps its invariant and replies as agreed.
* `serve_outline` — it then serves one command, whatever the request is.
* `serveTimes_outline` — and any number of them, one after the other.
-/

namespace TwinDesk

open Handshake Program

namespace Dispatcher

variable {R : Type}

/-- Serves a number of commands, and collects the statuses that it answered with. -/
def serveTimes [Painter R] : Nat → Dispatcher R →
    Program (List (Except LinkError Status) × Dispatcher R)
  | 0, d => return ([], d)
  | count + 1, d => do
    let (result, d) ← d.serve
    let (results, d) ← d.serveTimes count
    return (result :: results, d)

end Dispatcher

namespace Handshake

variable {contract : Contract} {B : Course → Prop} {W : GateArray.Workspace → Prop} {room : Nat}
  {requests : List Request} {replies : List Reply} {request : Request} {R : Type}

/-! ## What the dispatcher knows -/

/-- Between two commands: the next request may be there already. -/
structure Waiting (requests : List Request) (replies : List Reply) (c : Course) : Prop where
  stage : c.stage = .rest ∨ c.stage = .posted
  answered : c.replies = replies
  known : requests <+: c.requests
  count : requests.length = replies.length

/-- At a given stage of a command. -/
structure Handling (stage : Stage) (requests : List Request) (replies : List Reply)
    (request : Request) (c : Course) : Prop where
  stage : c.stage = stage
  answered : c.replies = replies
  asked : c.requests = requests ++ [request]

/-- At a given stage of a command whose parameters are not read yet. -/
def Unread (stage : Stage) (requests : List Request) (replies : List Reply) (opcode : UInt8)
    (c : Course) : Prop :=
  ∃ params, Handling stage requests replies ⟨opcode, params⟩ c

/-- The reply is given, and the release is awaited. -/
structure Replied (requests : List Request) (replies : List Reply) (request : Request)
    (c : Course) : Prop where
  stage : c.stage = .signalled ∨ c.stage = .released
  answered : ∃ reply, c.replies = replies ++ [reply]
  asked : c.requests = requests ++ [request]

theorem waiting_outlasts : Outlasts .sub (Waiting requests replies) := by
  intro c c' step h
  change Course.Step .main c c' at step
  cases step with
  | post request _ =>
    exact ⟨.inr rfl, h.answered, h.known.trans (List.prefix_append _ _), h.count⟩
  | release stage =>
    rcases h.stage with e | e <;> rw [e] at stage <;> cases stage

theorem handling_standing {stage : Stage} (mover : stage.mover = .sub)
    (within : ∀ c, Handling stage requests replies request c → B c) :
    Standing .sub B (Handling stage requests replies request) :=
  .of_stage stage mover (fun _ h => h.stage) within

theorem unread_standing {stage : Stage} {opcode : UInt8} (mover : stage.mover = .sub)
    (within : ∀ c, Unread stage requests replies opcode c → B c) :
    Standing .sub B (Unread stage requests replies opcode) :=
  .of_stage stage mover (fun _ ⟨_, h⟩ => h.stage) within

theorem replied_outlasts : Outlasts .sub (Replied requests replies request) := by
  intro c c' step h
  change Course.Step .main c c' at step
  cases step with
  | post request rest =>
    rcases h.stage with e | e <;> rw [e] at rest <;> cases rest
  | release stage => exact ⟨.inr rfl, h.answered, h.asked⟩

/-! ## One command -/

section

variable (waiting : Standing .sub B (Waiting requests replies))
  (more : ∀ limit ∈ contract.limit, replies.length < limit)
include waiting more

/-- A look for a request that is in vain, or finds its opcode byte. -/
theorem lookRequest_outline (slack : room + 2 ≤ pace) :
    Outlined contract .sub B (Responder.pollCommand ⟨.waiting⟩)
      (At .sub (Waiting requests replies) (room + 1) W) fun
        | some opcode => At .sub (Unread .posted requests replies opcode) room W
        | none => At .sub (Waiting requests replies) (room + 2) W := by
  have look : Outlined contract .sub B (Responder.pollCommand ⟨.waiting⟩)
      (At .sub (Waiting requests replies) (room + 1) W) _ :=
    pollCommand_outline rfl waiting (fun c h => h.stage) fun c h => h.answered ▸ more
  refine look.weaken (fun _ h => h) ?_
  rintro (_ | opcode) w h
  · exact h.mono (fun c found => found.1) slack
  · obtain ⟨waits, pending, -⟩ := h.course
    obtain ⟨posted, last⟩ := pending opcode rfl
    obtain ⟨request, eq, rfl⟩ := Option.map_eq_some_iff.mp last
    have count := w.shows.count
    rw [posted, waits.answered, ← waits.count] at count
    have all := concat_of_extends waits.known count eq
    exact ⟨⟨request.params, posted, waits.answered, all⟩, h.room, h.own⟩

/-- The wait for a request ends with its opcode byte. -/
theorem waitCommand_outline (slack : room + 2 ≤ pace) :
    Outlined contract .sub B (Responder.waitCommand ⟨.waiting⟩)
      (At .sub (Waiting requests replies) (room + 2) W)
      fun opcode => At .sub (Unread .posted requests replies opcode) room W :=
  .await waiting.rests passes ((lookRequest_outline waiting more slack).weaken (fun _ h => h) fun
    | some _ => fun _ h => h
    | none => fun _ h => h)

/-- Within a budget it ends so as well, or runs out of polls before there is a request. -/
theorem waitCommandWithin_outline (budget : Budget) (slack : room + 2 ≤ pace) :
    Outlined contract .sub B (Responder.waitCommandWithin budget ⟨.waiting⟩)
      (At .sub (Waiting requests replies) (room + 2) W) fun
        | .ok opcode => At .sub (Unread .posted requests replies opcode) room W
        | .error e => fun w =>
          e = .timeout ∧ At .sub (Waiting requests replies) (room + 2) W w := by
  refine awaitWithin_outline ((lookRequest_outline waiting more slack).weaken (fun _ h => h) ?_)
    (fun w h => ⟨rfl, h⟩) budget
  rintro (_ | opcode) w h
  · exact h
  · exact h

end

/-- The acknowledgement of a request that was seen succeeds. -/
theorem ackSeen_outline {opcode : UInt8}
    (unread : Standing .sub B (Unread .posted requests replies opcode))
    (more : ∀ limit ∈ contract.limit, replies.length < limit) :
    Outlined contract .sub B (Responder.ack ⟨.waiting⟩)
      (At .sub (Unread .posted requests replies opcode) 1 W)
      fun result => At .sub (fun c => result = (.ok (), ⟨.acked opcode⟩) ∧
        Unread .acked requests replies opcode c) pace W := by
  have ack : Outlined contract .sub B (Responder.ack ⟨.waiting⟩)
      (At .sub (Unread .posted requests replies opcode) 1 W)
      fun result =>
        At .sub (Acknowledged (Unread .posted requests replies opcode) ⟨.waiting⟩ result)
          (ackedRoom 0 result) W :=
    ack_outline rfl unread (fun c ⟨_, h⟩ => .inr h.stage)
      (fun c ⟨_, h⟩ => h.answered ▸ more) (Nat.zero_le _)
  refine ack.weaken (fun _ h => h) ?_
  rintro ⟨e | ⟨⟨⟩⟩, responder⟩ w h
  · obtain ⟨-, -, c, ⟨params, posted⟩, rest⟩ := h.course
    rw [posted.stage] at rest
    cases rest
  · obtain ⟨opcode', rfl, stage, last, params, seen⟩ := h.course
    have all : w.course.requests = requests ++ [⟨opcode, params⟩] := seen.asked
    obtain rfl : opcode = opcode' := by
      rw [all, List.getLast?_concat] at last
      exact Option.some.inj last
    exact ⟨⟨rfl, params, stage, seen.answered, all⟩, h.room, h.own⟩

/-- The command is over: the course is at rest, and waits for the next request. -/
def Closed (requests : List Request) (replies : List Reply) (request : Request) (c : Course) :
    Prop :=
  ∃ reply, Waiting (requests ++ [request]) (replies ++ [reply]) c

section

variable {status : Status} (replied : Standing .sub B (Replied requests replies request))
include replied

/-- A look for the release that is in vain, or leads to rest. -/
theorem pollReleased_outline :
    Outlined contract .sub B (Responder.pollReleased ⟨.signalled status⟩)
      (At .sub (Replied requests replies request) 1 W) fun
        | (.ok (some ()), responder) => fun w =>
          responder = .atRest ∧ At .sub (Closed requests replies request) pace W w
        | (.ok none, responder) => fun w => responder = ⟨.signalled status⟩ ∧
          At .sub (Replied requests replies request) 2 W w
        | (.error _, _) => fun _ => False := by
  have poll : Outlined contract .sub B (Responder.pollRelease ⟨.signalled status⟩)
      (At .sub (Replied requests replies request) 1 W) _ :=
    pollRelease_outline rfl replied fun c h => h.stage
  refine poll.bind ?_
  rintro ⟨e | (_ | _), responder⟩
  · exact .done fun w h => h.course.elim
  · exact .done fun w h => ⟨h.course.1, h.mono (fun c waits => waits.2) (by decide)⟩
  · refine .done ?_
    intro w h
    obtain ⟨⟨rfl, rest, replied⟩, room, own⟩ := h
    obtain ⟨reply, all⟩ := replied.answered
    have count := w.shows.count
    rw [rest] at count
    change w.course.requests.length = w.course.replies.length + 0 at count
    have asked : w.course.requests = requests ++ [request] := replied.asked
    have answered : w.course.replies = replies ++ [reply] := all
    refine ⟨rfl, ⟨reply, .inl rest, answered, asked ▸ List.prefix_rfl, ?_⟩, room, own⟩
    rw [← asked, ← answered]
    exact count

/-- The wait for the release ends at rest. -/
theorem waitReleased_outline :
    Outlined contract .sub B (Responder.pollReleased.forever ⟨.signalled status⟩)
      (At .sub (Replied requests replies request) 2 W)
      fun result w => result = (.ok (), .atRest) ∧
        At .sub (Closed requests replies request) pace W w := by
  refine forever_outline replied ((pollReleased_outline replied).weaken (fun _ h => h) ?_)
  rintro ⟨e | (_ | ⟨⟨⟩⟩), responder⟩ w h
  · exact h.elim
  · exact h
  · exact ⟨by rw [h.1], h.2⟩

/-- Within a budget it ends so as well, or runs out of polls before the release. -/
theorem waitReleasedWithin_outline (budget : Budget) :
    Outlined contract .sub B (Responder.pollReleased.within budget ⟨.signalled status⟩)
      (At .sub (Replied requests replies request) 2 W)
      fun result w =>
        (result = (.ok (), .atRest) ∧ At .sub (Closed requests replies request) pace W w) ∨
          (result = (.error .timeout, ⟨.signalled status⟩) ∧
            At .sub (Replied requests replies request) 2 W w) := by
  refine upTo_outline ((pollReleased_outline replied).weaken (fun _ h => h) ?_)
    (fun w h => .inr ⟨rfl, h⟩) budget.polls
  rintro ⟨e | (_ | ⟨⟨⟩⟩), responder⟩ w h
  · exact h.elim
  · exact h
  · exact .inl ⟨by rw [h.1], h.2⟩

end

section

variable {status : Status} {opcode : UInt8}
  (handling : Standing .sub B (Handling .acked requests replies request))
  (replied : Standing .sub B (Replied requests replies request))
  (terminal : status.isTerminal = true)
  (answers : ∀ own, W own → contract.Answers (requests ++ [request]) ⟨status, own.results⟩)
include handling terminal answers

/-- The reply to a command. -/
theorem reply_outline :
    Outlined contract .sub B (Responder.signal status ⟨.acked opcode⟩)
      (At .sub (Handling .acked requests replies request) room W)
      fun result w => result = (.ok (), ⟨.signalled status⟩) ∧
        At .sub (Replied requests replies request) 2 W w := by
  refine (signal_outline rfl terminal handling (fun c h => h.stage) fun w h own => ?_).weaken
    (fun _ h => h) fun result w h => ⟨h.course.1, h.mono ?_ (by decide)⟩
  · rw [h.asked]
    exact answers _ own
  · rintro c ⟨-, stage, words, replies', all, handling⟩
    obtain rfl : replies' = replies := handling.answered
    exact ⟨stage, ⟨_, all⟩, handling.asked⟩

include replied

/-- The reply to a command and the wait for its release. -/
theorem finish_outline :
    Outlined contract .sub B (Responder.finish status ⟨.acked opcode⟩)
      (At .sub (Handling .acked requests replies request) room W)
      fun result w => result = (.ok (), .atRest) ∧
        At .sub (Closed requests replies request) pace W w := by
  refine (reply_outline handling terminal answers).bind fun result => .assuming ?_
  rintro rfl
  exact waitReleased_outline replied

/-- The same with the wait within a budget. After a timeout the reply is given, but the release is
still to come. -/
theorem finishWithin_outline (budget : Budget) :
    Outlined contract .sub B (Responder.finishWithin budget status ⟨.acked opcode⟩)
      (At .sub (Handling .acked requests replies request) room W)
      fun result w =>
        (result = (.ok (), .atRest) ∧ At .sub (Closed requests replies request) pace W w) ∨
          (result = (.error .timeout, ⟨.signalled status⟩) ∧
            At .sub (Replied requests replies request) 2 W w) := by
  refine (reply_outline handling terminal answers).bind fun result => .assuming ?_
  rintro rfl
  exact waitReleasedWithin_outline replied budget

end

/-! ## Any number of commands -/

/-- The dispatcher carries out every request: it keeps the invariant `I`, which speaks of the
requests so far, and leaves the result words as agreed for its status. `W` is what it relies on
about its registers, besides the results. -/
structure Executes [Painter R] (contract : Contract) (W : GateArray.Workspace → Prop)
    (I : List Request → Dispatcher R → Prop) : Prop where
  indifferent : ∀ {requests : List Request} {d : Dispatcher R} (responder : Responder),
    I requests d → I requests { d with responder }
  execute : ∀ (requests : List Request) (replies : List Reply) (opcode : UInt8) (d : Dispatcher R),
    d.responder = ⟨.acked opcode⟩ → I requests d →
    Triple contract .sub (d.execute opcode) (At .sub (Unread .acked requests replies opcode) pace W)
      fun result w => ∃ params, result.1.isTerminal = true ∧
        result.2.responder = ⟨.acked opcode⟩ ∧ I (requests ++ [⟨opcode, params⟩]) result.2 ∧
        At .sub (Handling .acked requests replies ⟨opcode, params⟩) 0
          (fun own => W own ∧ contract.Answers (requests ++ [⟨opcode, params⟩])
            ⟨result.1, own.results⟩) w

/-- The dispatcher has served these requests and is between two commands. -/
structure Between (W : GateArray.Workspace → Prop) (I : List Request → Dispatcher R → Prop)
    (room : Nat) (requests : List Request) (replies : List Reply) (d : Dispatcher R)
    (w : World contract) : Prop where
  responder : d.responder = .atRest
  holds : I requests d
  course : At .sub (Waiting requests replies) room W w

variable [Painter R] {I : List Request → Dispatcher R → Prop}

/-- One more command is served: it is answered, and the dispatcher is at rest again. -/
theorem serve_outline (executes : Executes contract W I) (d : Dispatcher R)
    (more : ∀ limit ∈ contract.limit, replies.length < limit) :
    Triple contract .sub d.serve (Between W I 3 requests replies d)
      fun result w => ∃ status request reply, result.1 = .ok status ∧ status.isTerminal = true ∧
        Between W I pace (requests ++ [request]) (replies ++ [reply]) result.2 w := by
  refine Rules.Outline.strengthen (Rules.Outline.assuming
    fun known : d.responder = ⟨.waiting⟩ ∧ I requests d => ?_)
    fun w h => ⟨⟨h.responder, h.holds⟩, h.course⟩
  obtain ⟨phase, holds⟩ := known
  obtain ⟨_, desktop, painter, frames, cd, launcher, unreleased⟩ := d
  obtain rfl : _ = (⟨.waiting⟩ : Responder) := phase
  have waiting : Standing .sub (fun _ => True) (Waiting requests replies) :=
    ⟨waiting_outlasts, fun _ _ => trivial⟩
  refine (waitCommand_outline waiting more (by decide)).bind ?_
  intro opcode
  refine (ackSeen_outline (unread_standing rfl fun _ _ => trivial) more).bind ?_
  rintro ⟨e | ⟨⟨⟩⟩, responder⟩
  · exact .done fun w h => absurd h.course.1 (by simp)
  refine Rules.Outline.strengthen
    (Rules.Outline.assuming fun same : responder = ⟨.acked opcode⟩ => ?_)
    fun w h => ⟨by simpa using h.course.1, h.mono (fun c acked => acked.2) (Nat.le_refl _)⟩
  subst same
  refine (executes.execute requests replies opcode _ rfl (executes.indifferent _ holds)).bind ?_
  rintro ⟨status, d⟩
  refine .of_exists ?_
  intro params
  refine Rules.Outline.strengthen (Rules.Outline.assuming fun known : status.isTerminal = true ∧
    d.responder = ⟨.acked opcode⟩ ∧ I (requests ++ [⟨opcode, params⟩]) d => ?_)
    fun w h => ⟨⟨h.1, h.2.1, h.2.2.1⟩, h.2.2.2⟩
  obtain ⟨terminal, phase, holds⟩ := known
  obtain ⟨_, desktop, painter, frames, cd, launcher, unreleased⟩ := d
  obtain rfl : _ = (⟨.acked opcode⟩ : Responder) := phase
  refine (finish_outline (handling_standing rfl fun _ _ => trivial)
    ⟨replied_outlasts, fun _ _ => trivial⟩ terminal fun _ own => own.2).bind ?_
  intro result
  apply Rules.Outline.assuming
  rintro rfl
  refine .done ?_
  intro w h
  obtain ⟨reply, waiting⟩ := h.course
  exact ⟨status, ⟨opcode, params⟩, reply, rfl, terminal, rfl, executes.indifferent _ holds,
    waiting, h.room, h.own.1⟩

/-- Every answer is a terminal status. -/
def Answered (answers : List (Except LinkError Status)) : Prop :=
  ∀ answer ∈ answers, ∃ status : Status, answer = .ok status ∧ status.isTerminal = true

/-- Any number of commands are served, and every one of them is answered. -/
theorem serveTimes_outline (executes : Executes contract W I) (count : Nat) (d : Dispatcher R)
    (limit : contract.limit = some (replies.length + count)) :
    Triple contract .sub (d.serveTimes count) (Between W I 3 requests replies d)
      fun result w => Answered result.1 ∧ result.1.length = count ∧
        ∃ requests replies, contract.limit = some replies.length ∧
          Between W I 3 requests replies result.2 w := by
  -- on the number of commands; what the dispatcher knows grows by one request and one reply
  induction count generalizing requests replies d with
  | zero =>
    exact .done fun w h => ⟨fun _ none => absurd none (by simp), rfl, requests, replies, limit, h⟩
  | succ count ih =>
    refine (serve_outline executes d ?_).bind ?_
    · intro bound mem
      obtain rfl := Option.some.inj (limit.symm.trans mem)
      omega
    rintro ⟨answer, d⟩
    refine .of_exists fun status => .of_exists fun request => .of_exists ?_
    intro reply
    refine Rules.Outline.strengthen (Rules.Outline.assuming fun known : answer = .ok status ∧
      status.isTerminal = true => ?_) fun w h => ⟨⟨h.1, h.2.1⟩, h.2.2⟩
    obtain ⟨rfl, terminal⟩ := known
    have limit' : contract.limit = some ((replies ++ [reply]).length + count) := by
      rw [limit, List.length_append, List.length_singleton]
      congr 1
      omega
    have rest : Triple contract .sub (d.serveTimes count)
        (Between W I pace (requests ++ [request]) (replies ++ [reply]) d) _ :=
      (ih d limit').strengthen fun w h =>
        ⟨h.responder, h.holds, h.course.mono (fun _ h => h) (by decide)⟩
    refine rest.bind ?_
    rintro ⟨answers, d⟩
    refine .done fun w ⟨all, length, rest⟩ => ⟨?_, congrArg Nat.succ length, rest⟩
    rintro answer (_ | ⟨_, mem⟩)
    · exact ⟨status, rfl, terminal⟩
    · exact all answer mem

end Handshake

end TwinDesk
