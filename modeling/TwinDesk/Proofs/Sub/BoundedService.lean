import TwinDesk.Proofs.Desktop.Openings
import TwinDesk.Proofs.Handshake.Standstill
import TwinDesk.Proofs.Sub.EveryCommand

/-!
# Service within budgets

The Sub processor serves one command after the other, and every wait for the Main processor is
within a budget. A call may run out of polls before there is a command, or before the release of the
one that it has answered; then the next call looks for the release first. The Main processor posts
commands and looks for their completion at its own pace.

An observer notes every command when it is carried out, which is before its status is signalled. So
a call is cut in two there.

* `Dispatcher.serveWithin_eq` — a call is its two parts, one after the other.
* `Server.upholds` — what the dispatcher can rely on, part by part.
* `bounded_service_exactly_once` — commands are carried out in the order in which they are posted,
  once each, and before their status is seen; a call fails only by a timeout.
-/

namespace TwinDesk

open Handshake Program

/-! ## A call in two parts -/

namespace Dispatcher

variable {R : Type}

/-- The part of a call that ends with the execution of its command. -/
def takeUp [Painter R] (budget : Budget) (d : Dispatcher R) :
    Program (Except LinkError (Option (Opcode × Params) × Status) × Dispatcher R) := do
  match ← d.completeRelease budget with
  | (.error e, d) => return (.error e, d)
  | (.ok (), d) =>
    match ← d.responder.waitCommandWithin budget with
    | .error e => return (.error e, d)
    | .ok raw =>
      match ← d.responder.ack with
      | (.error e, responder) => return (.error e, { d with responder })
      | (.ok (), responder) =>
        let (command, status, d) ← { d with responder }.carryOut raw
        return (.ok (command, status), d)

/-- The part of a call that signals the status of its command. -/
def giveReply (budget : Budget) (status : Status) (d : Dispatcher R) :
    Program (Except LinkError Status × Dispatcher R) := do
  match ← Responder.finishWithin budget status d.responder with
  | (.ok (), responder) => return (.ok status, { d with responder })
  | (.error .timeout, responder) =>
    return (.error .timeout, { d with responder, unreleased := true })
  | (.error e, responder) => return (.error e, { d with responder })

/-- What a call does once its first part is over. -/
def conclude (budget : Budget) :
    Except LinkError (Option (Opcode × Params) × Status) × Dispatcher R →
      Program (Except LinkError Status × Dispatcher R)
  | (.error e, d) => .done (.error e, d)
  | (.ok (_, status), d) => d.giveReply budget status

theorem serveWithin_eq [Painter R] (budget : Budget) (d : Dispatcher R) :
    d.serveWithin budget = (d.takeUp budget).bind (conclude budget) := by
  show (d.completeRelease budget).bind _ = ((d.completeRelease budget).bind _).bind _
  rw [bind_assoc]
  congr 1
  funext ⟨released, d⟩
  cases released with
  | error e => rfl
  | ok u =>
    show (d.responder.waitCommandWithin budget).bind _ =
      ((d.responder.waitCommandWithin budget).bind _).bind _
    rw [bind_assoc]
    congr 1
    funext found
    cases found with
    | error e => rfl
    | ok raw =>
      -- an acknowledgement is refused without a timeout
      show ((d.responder.pollCommand.bind _).bind _).bind _ =
        ((d.responder.pollCommand.bind _).bind _).bind _
      rw [bind_assoc, bind_assoc, bind_assoc, bind_assoc]
      congr 1
      funext pending
      cases pending with
      | none => rfl
      | some opcode =>
        show Program.access _ _ = Program.access _ _
        congr 1
        funext _
        let d₁ : Dispatcher R := { d with responder := ⟨.acked opcode⟩ }
        show ((d₁.execute raw).bind _).bind _ = ((d₁.carryOut raw).bind _).bind _
        rw [execute_eq, bind_assoc, bind_assoc, bind_assoc]
        congr 1
        funext ⟨command, status, d⟩
        show ((Responder.finishWithin budget status d.responder).bind _).bind _ =
          (Responder.finishWithin budget status d.responder).bind _
        rw [bind_assoc]
        congr 1
        funext ⟨finished, responder⟩
        rcases finished with e | u
        · cases e <;> rfl
        · rfl

end Dispatcher

namespace Handshake

/-! ## Observing the calls -/

/-- A command that was carried out, with the status that answers it. -/
structure Execution where
  opcode : Opcode
  params : Params
  status : Status
  deriving DecidableEq, Repr

/-- The request for it. -/
def Execution.request (execution : Execution) : Request :=
  ⟨execution.opcode.code, execution.params⟩

/-- The Sub processor with its dispatcher. -/
structure Server (R : Type) where
  dispatcher : Dispatcher R
  /-- The status that is still to be signalled, and the budget of the call that it belongs to. -/
  owed : Option (Budget × Status)
  /-- What was carried out so far, oldest first. -/
  executed : List Execution
  /-- How the calls ended so far, oldest first. -/
  results : List (Except LinkError Status)

namespace Server

variable {R : Type}

/-- A server before its first call. -/
def ofDispatcher (d : Dispatcher R) : Server R := ⟨d, none, [], []⟩

/-- The two parts of a call. -/
inductive Call where
  | takeUp (budget : Budget)
  | giveReply

/-- Notes what was carried out, or how the call failed before. -/
def noteTaken (server : Server R) (budget : Budget) :
    Except LinkError (Option (Opcode × Params) × Status) × Dispatcher R → Server R
  | (.error e, dispatcher) =>
    { server with dispatcher, results := server.results ++ [.error e] }
  | (.ok (command, status), dispatcher) =>
    { server with
      dispatcher
      owed := some (budget, status)
      executed := server.executed ++
        (command.map fun (opcode, params) => ⟨opcode, params, status⟩).toList }

/-- Notes how the call ended. -/
def noteReplied (server : Server R) (result : Except LinkError Status × Dispatcher R) : Server R :=
  { server with dispatcher := result.2, owed := none, results := server.results ++ [result.1] }

/-- What the Sub processor may do: one call after the other, each with a budget of its own. -/
def role [Painter R] : Role (Server R) where
  Call := Call
  Allowed
    | .takeUp _, server => server.owed = none
    | .giveReply, server => server.owed ≠ none
  run
    | .takeUp budget, server => do
      let taken ← server.dispatcher.takeUp budget
      return fun _ => server.noteTaken budget taken
    | .giveReply, server => do
      match server.owed with
      | none => return fun _ => server
      | some (budget, status) =>
        let result ← server.dispatcher.giveReply budget status
        return fun _ => server.noteReplied result

end Server

/-! ## What the notes tell -/

/-- The request is for a command. -/
def Request.Known (request : Request) : Prop :=
  ∃ opcode : Opcode, opcode.code = request.opcode

/-- As long as all of them are for commands, these requests were carried out, and these are the
statuses that answer them. -/
def Covers (executed : List Execution) (requests : List Request) (statuses : List Status) : Prop :=
  (∀ request ∈ requests, request.Known) →
    executed.map (·.request) = requests ∧ executed.map (·.status) = statuses

/-- What was carried out has been asked for, and what was replied has been carried out. -/
def Told (executed : List Execution) (c : Course) : Prop :=
  (∀ request ∈ c.requests, request.Known) →
    executed.map (·.request) <+: c.requests ∧ c.replies.map (·.status) <+: executed.map (·.status)

namespace Covers

variable {executed : List Execution} {requests : List Request} {statuses : List Status}

theorem told (covers : Covers executed requests statuses) {c : Course}
    (asked : requests <+: c.requests) (answered : c.replies.map (·.status) <+: statuses) :
    Told executed c := by
  intro known
  obtain ⟨same, told⟩ := covers fun request mem => known request (asked.subset mem)
  exact ⟨same ▸ asked, told ▸ answered⟩

/-- One more request is carried out. -/
theorem concat (covers : Covers executed requests statuses) (raw : UInt8) (params : Params)
    (status : Status) :
    Covers (executed ++ (((Opcode.ofCode? raw).map (·, params)).map
        fun (opcode, params) => ⟨opcode, params, status⟩).toList)
      (requests ++ [⟨raw, params⟩]) (statuses ++ [status]) := by
  intro known
  obtain ⟨opcode, code⟩ := known ⟨raw, params⟩ List.mem_concat_self
  obtain ⟨same, told⟩ := covers fun request mem => known request (List.mem_append_left _ mem)
  rw [Opcode.ofCode?_eq_some_iff.mpr code, ← same, ← told]
  obtain rfl : opcode.code = raw := code
  simp [Execution.request]

end Covers

/-- A call ends with the status of its command, or by a timeout. -/
def Graceful (result : Except LinkError Status) : Prop :=
  (∃ status : Status, result = .ok status ∧ status.isTerminal = true) ∨ result = .error .timeout

/-! ## Between the parts of a call -/

/-- The reply to the last request is given, but its release was not seen yet. -/
structure Given (requests : List Request) (replies : List Reply) (request : Request) (reply : Reply)
    (w : World plain) : Prop where
  course : At .sub (Replied requests replies request) pace Calm w
  reply : replies ++ [reply] <+: w.course.replies

section

variable {requests : List Request} {replies : List Reply} {request : Request} {reply : Reply}

/-- There is one reply more than before. -/
theorem replies_of_replied {c : Course} (replied : Replied requests replies request c)
    (known : replies ++ [reply] <+: c.replies) : c.replies = replies ++ [reply] := by
  obtain ⟨reply', all⟩ := replied.answered
  rw [all] at known ⊢
  exact (known.eq_of_length (by simp)).symm

theorem Given.stable : (handshake plain).Stable .sub (Given requests replies request reply) :=
  fun _ _ move h =>
    ⟨At.stable replied_outlasts move h.course, h.reply.trans (moves_extend move).2⟩

end

namespace Server

variable {R : Type}

/-- What the notes tell in the middle of a call. -/
structure Noted (server : Server R) (c : Course) : Prop where
  results : ∀ result ∈ server.results, Graceful result
  told : Told server.executed c

/-- The next command is awaited. -/
structure Idle (requests : List Request) (replies : List Reply) (server : Server R) : Prop where
  owed : server.owed = none
  responder : server.dispatcher.responder = .atRest
  unreleased : server.dispatcher.unreleased = false
  covers : Covers server.executed requests (replies.map (·.status))

/-- A command is carried out, and its status is still to be signalled. -/
structure Owing (requests : List Request) (replies : List Reply) (request : Request)
    (budget : Budget) (status : Status) (raw : UInt8) (server : Server R) : Prop where
  owed : server.owed = some (budget, status)
  terminal : status.isTerminal = true
  responder : server.dispatcher.responder = ⟨.acked raw⟩
  unreleased : server.dispatcher.unreleased = false
  covers : Covers server.executed (requests ++ [request]) (replies.map (·.status) ++ [status])

/-- The release of the last command is still to come. -/
structure Releasing (requests : List Request) (replies : List Reply) (request : Request)
    (reply : Reply) (status : Status) (server : Server R) : Prop where
  owed : server.owed = none
  responder : server.dispatcher.responder = ⟨.signalled status⟩
  unreleased : server.dispatcher.unreleased = true
  covers : Covers server.executed (requests ++ [request]) ((replies ++ [reply]).map (·.status))

/-- Where a server stands between the parts of its calls. -/
inductive Stands (server : Server R) (w : World plain) : Prop where
  | idle {requests : List Request} {replies : List Reply} (idle : Idle requests replies server)
    (course : At .sub (Waiting requests replies) pace Calm w)
  | owing {requests : List Request} {replies : List Reply} {request : Request} {budget : Budget}
    {status : Status} {raw : UInt8}
    (owing : Owing requests replies request budget status raw server)
    (course : At .sub (Handling .acked requests replies request) pace Calm w)
  | releasing {requests : List Request} {replies : List Reply} {request : Request} {reply : Reply}
    {status : Status} (releasing : Releasing requests replies request reply status server)
    (given : Given requests replies request reply w)

/-- What holds at all times. -/
structure Tidy (server : Server R) : Prop where
  sound : server.dispatcher.desktop.Sound
  results : ∀ result ∈ server.results, Graceful result

/-- What holds between the parts of the calls. -/
structure Ready (server : Server R) (w : World plain) : Prop extends Tidy server where
  stands : server.Stands w

variable {server : Server R} {requests : List Request} {replies : List Reply} {request : Request}
  {reply : Reply} {budget : Budget} {status : Status} {raw : UInt8} {c : Course}

/-! ### The notes -/

theorem Idle.noted (idle : Idle requests replies server)
    (results : ∀ result ∈ server.results, Graceful result) (asked : requests <+: c.requests)
    (answered : c.replies = replies) : server.Noted c :=
  ⟨results, idle.covers.told asked (answered ▸ List.prefix_rfl)⟩

theorem Owing.told (owing : Owing requests replies request budget status raw server)
    (handling : Handling .acked requests replies request c) : Told server.executed c := by
  refine owing.covers.told (handling.asked ▸ List.prefix_rfl) ?_
  rw [handling.answered]
  exact List.prefix_append _ _

theorem told_of_replied {executed : List Execution}
    (covers : Covers executed (requests ++ [request]) ((replies ++ [reply]).map (·.status)))
    (replied : Replied requests replies request c) (known : replies ++ [reply] <+: c.replies) :
    Told executed c :=
  covers.told (replied.asked ▸ List.prefix_rfl)
    (replies_of_replied replied known ▸ List.prefix_rfl)

theorem Ready.noted {w : World plain} (ready : server.Ready w) : server.Noted w.course := by
  cases ready.stands with
  | idle idle waits => exact idle.noted ready.results waits.course.known waits.course.answered
  | owing owing handles => exact ⟨ready.results, owing.told handles.course⟩
  | releasing releasing given =>
    exact ⟨ready.results, told_of_replied releasing.covers given.course.course given.reply⟩

theorem ready_stable (server : Server R) : (handshake plain).Stable .sub server.Ready := by
  intro w w' move ready
  refine ⟨ready.toTidy, ?_⟩
  cases ready.stands with
  | idle idle course => exact .idle idle (At.stable waiting_outlasts move course)
  | owing owing course =>
    refine .owing owing (At.stable ?_ move course)
    exact (handling_standing (B := fun _ => True) rfl fun _ _ => trivial).outlasts
  | releasing releasing given => exact .releasing releasing (Given.stable move given)

/-! ### Waiting for a release -/

/-- The wait for the release ends with it, or runs out of polls before. -/
theorem release_outline (results : ∀ result ∈ server.results, Graceful result)
    (covers : Covers server.executed (requests ++ [request]) ((replies ++ [reply]).map (·.status)))
    (budget : Budget) (status : Status) :
    Outlined plain .sub server.Noted (Responder.pollReleased.within budget ⟨.signalled status⟩)
      (Given requests replies request reply)
      fun result w =>
        (result = (.ok (), .atRest) ∧
          At .sub (Waiting (requests ++ [request]) (replies ++ [reply])) pace Calm w) ∨
        (result = (.error .timeout, ⟨.signalled status⟩) ∧
          Given requests replies request reply w) := by
  -- the reply stays the last one, since it is the only one that the release can be for
  have replied : Standing .sub (Replied requests replies request)
      (Replied requests replies request) := ⟨replied_outlasts, fun _ h => h⟩
  have wait : Outlined plain .sub (Replied requests replies request)
      (Responder.pollReleased.within budget ⟨.signalled status⟩)
      (At .sub (Replied requests replies request) 2 Calm) _ :=
    waitReleasedWithin_outline replied budget
  have kept : (handshake plain).Kept fun w => replies ++ [reply] <+: w.course.replies :=
    fun _ _ _ move known => known.trans (moves_extend move).2
  refine ((wait.frame kept).relax fun w h => ?_).weaken (fun w h => ?_) fun result w h => ?_
  · exact ⟨results, told_of_replied covers h.1 h.2⟩
  · exact ⟨h.course.mono (fun _ h => h) (by decide), h.reply⟩
  · obtain ⟨⟨ok, closed⟩ | ⟨timeout, waits⟩, known⟩ := h
    · obtain ⟨reply', waiting⟩ := closed.course
      have same : replies ++ [reply] = replies ++ [reply'] := by
        rw [waiting.answered] at known
        exact known.eq_of_length (by simp)
      exact .inl ⟨ok, same ▸ waiting, closed.room, closed.own⟩
    · exact .inr ⟨timeout, waits.refreshed rfl, known⟩

/-! ### Taking a command up -/

theorem graceful_concat {results : List (Except LinkError Status)} {last : Except LinkError Status}
    (before : ∀ result ∈ results, Graceful result) (graceful : Graceful last) :
    ∀ result ∈ results ++ [last], Graceful result := by
  intro result mem
  rcases List.mem_append.mp mem with old | new
  · exact before result old
  · exact List.mem_singleton.mp new ▸ graceful

section

variable [Painter R] (paints : ∀ (painter : R) ops, (∀ op ∈ ops, PaintOp.Sound op) →
  Succeeds (Painter.paintAll painter ops))
include paints

/-- A command that is taken up is carried out. -/
theorem Idle.carryOut_outline (idle : Idle requests replies server) (tidy : server.Tidy)
    (budget : Budget) (raw : UInt8) :
    Outlined plain .sub server.Noted
      (Dispatcher.carryOut { server.dispatcher with responder := ⟨.acked raw⟩ } raw)
      (At .sub (Unread .acked requests replies raw) pace Calm)
      fun (command, status, d) => (server.noteTaken budget (.ok (command, status), d)).Ready := by
  let d : Dispatcher R := { server.dispatcher with responder := ⟨.acked raw⟩ }
  have carries : Carries plain Calm fun _ (d : Dispatcher R) => d.desktop.Sound :=
    carries_all (fun _ _ => trivial) paints
  have carryOut : Triple plain .sub (d.carryOut raw)
      (At .sub (Unread .acked requests replies raw) pace Calm) _ :=
    carries.carryOut_outline rfl tidy.sound
  have acked : Outlasts .sub (Unread .acked requests replies raw) :=
    (unread_standing (B := fun _ => True) rfl fun _ _ => trivial).outlasts
  -- nothing that is done for a command shows in the flags, so the reply is still to come
  have still := Triple.still acked (d.carryOut_offFlags raw)
    (carryOut.returning (d.carryOut_unreleased raw))
  refine (still.relax fun w h => ?_).weaken (fun w h => ⟨h, h.course⟩) ?_
  · obtain ⟨_, unread⟩ := h
    exact idle.noted tidy.results (unread.asked ▸ List.prefix_append _ _) unread.answered
  rintro ⟨command, status, d'⟩ w ⟨⟨unreleased, params, rfl, terminal, responder, sound, carried⟩, -⟩
  refine ⟨⟨sound, tidy.results⟩, .owing ⟨rfl, terminal, responder,
    unreleased.trans idle.unreleased, idle.covers.concat raw params status⟩ ?_⟩
  exact (carried.weaken (fun h => h) (Nat.le_refl _) fun _ own => own.1).refreshed rfl

/-- A command is taken up and carried out, or none is posted in time. -/
theorem Idle.takeUp_outline (idle : Idle requests replies server) (tidy : server.Tidy)
    (budget : Budget) :
    Outlined plain .sub server.Noted (server.dispatcher.takeUp budget)
      (At .sub (Waiting requests replies) pace Calm)
      fun taken => (server.noteTaken budget taken).Ready := by
  have unlimited (count : Nat) : ∀ limit ∈ plain.limit, count < limit := nofun
  unfold Dispatcher.takeUp Dispatcher.completeRelease
  rw [idle.unreleased]
  have waiting : Standing .sub server.Noted (Waiting requests replies) :=
    ⟨waiting_outlasts, fun c h => idle.noted tidy.results h.known h.answered⟩
  have wait : Outlined plain .sub server.Noted (Responder.atRest.waitCommandWithin budget)
      (At .sub (Waiting requests replies) (62 + 2) Calm) _ :=
    waitCommandWithin_outline waiting (unlimited _) budget (by decide)
  rw [← idle.responder] at wait
  refine wait.bind ?_
  rintro (e | raw)
  · refine .done ?_
    rintro w ⟨rfl, waits⟩
    exact ⟨⟨tidy.sound, graceful_concat tidy.results (.inr rfl)⟩,
      .idle ⟨idle.owed, idle.responder, idle.unreleased, idle.covers⟩ waits⟩
  have unread : Standing .sub server.Noted (Unread .posted requests replies raw) :=
    unread_standing rfl fun c ⟨_, h⟩ =>
      idle.noted tidy.results (h.asked ▸ List.prefix_append _ _) h.answered
  have ack : Outlined plain .sub server.Noted Responder.atRest.ack
      (At .sub (Unread .posted requests replies raw) 62 Calm) _ :=
    (ackSeen_outline unread (unlimited _)).strengthen fun w h => h.mono (fun _ h => h) (by decide)
  rw [← idle.responder] at ack
  refine ack.bind ?_
  rintro ⟨e | ⟨⟨⟩⟩, responder⟩
  · exact .done fun w h => absurd h.course.1 (by simp)
  refine Rules.Outline.strengthen
    (Rules.Outline.assuming fun same : responder = ⟨.acked raw⟩ => ?_)
    fun w h => ⟨by simpa using h.course.1, h.mono (fun c acked => acked.2) (Nat.le_refl _)⟩
  subst same
  exact (idle.carryOut_outline paints tidy budget raw).bind fun carried => .done fun w h => h

/-- The release of the last command is awaited first. -/
theorem Releasing.takeUp_outline
    (releasing : Releasing requests replies request reply status server) (tidy : server.Tidy)
    (budget : Budget) :
    Outlined plain .sub server.Noted (server.dispatcher.takeUp budget)
      (Given requests replies request reply)
      fun taken => (server.noteTaken budget taken).Ready := by
  have release : Outlined plain .sub server.Noted _ (Given requests replies request reply) _ :=
    release_outline tidy.results releasing.covers budget status
  rw [← releasing.responder] at release
  let released : Dispatcher R :=
    { server.dispatcher with responder := .atRest, unreleased := false }
  let late : Dispatcher R := { server.dispatcher with unreleased := true }
  have complete : Outlined plain .sub server.Noted (server.dispatcher.completeRelease budget)
      (Given requests replies request reply) fun result w =>
        (result = (.ok (), released) ∧
          At .sub (Waiting (requests ++ [request]) (replies ++ [reply])) pace Calm w) ∨
        (result = (.error .timeout, late) ∧ Given requests replies request reply w) := by
    unfold Dispatcher.completeRelease
    rw [releasing.unreleased, if_pos rfl]
    refine release.bind ?_
    rintro ⟨result, responder⟩
    refine .done ?_
    rintro w (⟨ok, waiting⟩ | ⟨timeout, given⟩)
    · obtain ⟨rfl, rfl⟩ := Prod.mk.inj ok
      exact .inl ⟨rfl, waiting⟩
    · obtain ⟨rfl, rfl⟩ := Prod.mk.inj timeout
      exact .inr ⟨rfl, given⟩
  refine complete.bind ?_
  rintro ⟨e | ⟨⟨⟩⟩, d⟩
  · refine .done ?_
    rintro w (⟨ok, -⟩ | ⟨timeout, given⟩)
    · cases (Prod.mk.inj ok).1
    · cases timeout
      exact ⟨⟨tidy.sound, graceful_concat tidy.results (.inr rfl)⟩,
        .releasing ⟨releasing.owed, releasing.responder, rfl, releasing.covers⟩ given⟩
  · refine Rules.Outline.strengthen
      (P := fun w => d = released ∧
        At .sub (Waiting (requests ++ [request]) (replies ++ [reply])) pace Calm w)
      (.assuming ?_) ?_
    case refine_2 =>
      rintro w (⟨ok, waiting⟩ | ⟨timeout, -⟩)
      · exact ⟨(Prod.mk.inj ok).2, waiting⟩
      · cases (Prod.mk.inj timeout).1
    rintro rfl
    let next : Server R := { server with dispatcher := released }
    have idle : Idle (requests ++ [request]) (replies ++ [reply]) next :=
      ⟨releasing.owed, rfl, rfl, releasing.covers⟩
    refine ((idle.takeUp_outline paints ⟨tidy.sound, tidy.results⟩ budget).relax
      fun w h => ⟨h.results, h.told⟩).weaken (fun _ h => h) ?_
    rintro ⟨e | taken, d⟩ w ready
    · exact ready
    · exact ready

end

/-! ### Answering it -/

/-- The status of a command is signalled, and its release comes in time or not. -/
theorem Owing.giveReply_outline
    (owing : Owing requests replies request budget status raw server) (tidy : server.Tidy) :
    Outlined plain .sub server.Noted (server.dispatcher.giveReply budget status)
      (At .sub (Handling .acked requests replies request) pace Calm)
      fun result => (server.noteReplied result).Ready := by
  have covers (words : Results) : Covers server.executed (requests ++ [request])
      ((replies ++ [(⟨status, words⟩ : Reply)]).map (·.status)) := by
    rw [List.map_append]
    exact owing.covers
  have handling : Standing .sub server.Noted (Handling .acked requests replies request) :=
    handling_standing rfl fun c h => ⟨tidy.results, owing.told h⟩
  have signal : Outlined plain .sub server.Noted (Responder.signal status ⟨.acked raw⟩)
      (At .sub (Handling .acked requests replies request) pace Calm) fun result w =>
        ∃ words, result = (.ok (), ⟨.signalled status⟩) ∧
          Given requests replies request ⟨status, words⟩ w := by
    refine (signal_outline rfl owing.terminal handling (fun c h => h.stage)
      fun _ _ _ => trivial).weaken (fun _ h => h) fun result w h => ?_
    obtain ⟨ok, shown, words, replies', all, handled⟩ := h.course
    obtain rfl : replies' = replies := handled.answered
    exact ⟨words, ok, ⟨⟨shown, ⟨_, all⟩, handled.asked⟩, h.room, h.own⟩, all ▸ List.prefix_rfl⟩
  have finish : Outlined plain .sub server.Noted
      (Responder.finishWithin budget status ⟨.acked raw⟩)
      (At .sub (Handling .acked requests replies request) pace Calm) fun result w => ∃ words,
        (result = (.ok (), .atRest) ∧ At .sub (Waiting (requests ++ [request])
          (replies ++ [⟨status, words⟩])) pace Calm w) ∨
        (result = (.error .timeout, ⟨.signalled status⟩) ∧
          Given requests replies request ⟨status, words⟩ w) := by
    refine signal.bind fun result => .of_exists fun words => .assuming ?_
    rintro rfl
    exact (release_outline tidy.results (covers words) budget status).weaken (fun _ h => h)
      fun _ _ h => ⟨words, h⟩
  rw [← owing.responder] at finish
  refine finish.bind ?_
  rintro ⟨e | ⟨⟨⟩⟩, responder⟩
  · -- only a timeout leaves something to be done
    cases e with
    | timeout =>
      refine .done ?_
      rintro w ⟨words, ⟨ok, -⟩ | ⟨same, given⟩⟩
      · cases ok
      · obtain rfl := (Prod.mk.inj same).2
        exact ⟨⟨tidy.sound, graceful_concat tidy.results (.inr rfl)⟩,
          .releasing ⟨rfl, rfl, rfl, covers words⟩ given⟩
    | _ =>
      refine .done ?_
      rintro w ⟨words, ⟨ok, -⟩ | ⟨same, -⟩⟩
      · cases ok
      · cases same
  · refine .done ?_
    rintro w ⟨words, ⟨ok, waiting⟩ | ⟨same, -⟩⟩
    · obtain rfl := (Prod.mk.inj ok).2
      refine ⟨⟨tidy.sound, ?_⟩, .idle ⟨rfl, rfl, owing.unreleased, covers words⟩ waiting⟩
      exact graceful_concat tidy.results (.inl ⟨status, rfl, owing.terminal⟩)
    · cases same

/-! ### All parts -/

theorem Ready.idle {w : World plain} (ready : server.Ready w) (owed : server.owed = none)
    (released : server.dispatcher.unreleased = false) :
    ∃ requests replies, Idle requests replies server ∧
      At .sub (Waiting requests replies) pace Calm w := by
  cases ready.stands with
  | idle idle course => exact ⟨_, _, idle, course⟩
  | owing owing => cases owed.symm.trans owing.owed
  | releasing releasing => cases released.symm.trans releasing.unreleased

theorem Ready.releasing {w : World plain} (ready : server.Ready w)
    (unreleased : server.dispatcher.unreleased = true) :
    ∃ requests replies request reply status,
      Releasing requests replies request reply status server ∧
        Given requests replies request reply w := by
  cases ready.stands with
  | idle idle => cases unreleased.symm.trans idle.unreleased
  | owing owing => cases unreleased.symm.trans owing.unreleased
  | releasing releasing given => exact ⟨_, _, _, _, _, releasing, given⟩

theorem Ready.owing {w : World plain} (ready : server.Ready w)
    (owed : server.owed = some (budget, status)) :
    ∃ requests replies request raw, Owing requests replies request budget status raw server ∧
      At .sub (Handling .acked requests replies request) pace Calm w := by
  cases ready.stands with
  | idle idle => cases owed.symm.trans idle.owed
  | owing owing course =>
    cases owed.symm.trans owing.owed
    exact ⟨_, _, _, _, owing, course⟩
  | releasing releasing => cases owed.symm.trans releasing.owed

/-- The server upholds its notes, whatever the Main processor does. -/
theorem upholds [Painter R] (paints : ∀ (painter : R) ops, (∀ op ∈ ops, PaintOp.Sound op) →
      Succeeds (Painter.paintAll painter ops)) :
    (handshake plain).Upholds .sub (role : Role (Server R))
      (fun server w => server.Noted w.course) Ready where
  stable := ready_stable
  within server w ready := ready.noted
  call call server allowed := by
    cases call with
    | takeUp budget =>
      have owed : server.owed = none := allowed
      suffices outline : Outlined plain .sub server.Noted (server.dispatcher.takeUp budget)
          server.Ready fun taken => (server.noteTaken budget taken).Ready by
        exact outline.bind fun taken => .done fun w h => h
      cases unreleased : server.dispatcher.unreleased with
      | false =>
        refine Rules.Outline.strengthen (.assuming fun tidy : server.Tidy =>
          .of_exists fun requests =>
          .of_exists fun replies => .assuming fun idle => ?_)
          fun w ready => ⟨ready.toTidy, ready.idle owed unreleased⟩
        exact idle.takeUp_outline paints tidy budget
      | true =>
        refine Rules.Outline.strengthen (.assuming fun tidy : server.Tidy =>
          .of_exists fun requests =>
          .of_exists fun replies => .of_exists fun request => .of_exists fun reply =>
          .of_exists fun status => .assuming fun releasing => ?_)
          fun w ready => ⟨ready.toTidy, ready.releasing unreleased⟩
        exact releasing.takeUp_outline paints tidy budget
    | giveReply =>
      cases owed : server.owed with
      | none => exact absurd owed allowed
      | some pair =>
        obtain ⟨budget, status⟩ := pair
        suffices outline : Outlined plain .sub server.Noted
            (server.dispatcher.giveReply budget status)
            server.Ready fun result => (server.noteReplied result).Ready by
          unfold role
          dsimp only
          rw [owed]
          exact outline.bind fun result => .done fun w h => h
        refine Rules.Outline.strengthen (.assuming fun tidy : server.Tidy =>
          .of_exists fun requests =>
          .of_exists fun replies => .of_exists fun request => .of_exists fun raw =>
          .assuming fun owing => ?_)
          fun w ready => ⟨ready.toTidy, ready.owing owed⟩
        exact owing.giveReply_outline tidy

end Server

/-! ## Both processors -/

/-- Whatever the initiator does, it posts nothing but commands. -/
def Sender.Commanding (sender : Sender) : Prop :=
  ∀ request ∈ sender.posted, request.Known

theorem Sender.commanding_notePost {sender : Sender} (commanding : sender.Commanding)
    (cmd : Command) (result : Except LinkError Unit × Initiator) :
    (sender.notePost cmd result).Commanding := by
  obtain ⟨e | ⟨⟨⟩⟩, initiator⟩ := result
  · exact commanding
  · intro request mem
    rcases List.mem_append.mp mem with old | new
    · exact commanding request old
    · exact ⟨cmd.opcode, List.mem_singleton.mp new ▸ rfl⟩

theorem Sender.keeps_commanding (call : Sender.role.Call) (sender : Sender)
    (commanding : sender.Commanding) :
    (Sender.role.run call sender).Returns fun leave => ∀ chip, (leave chip).Commanding := by
  cases call with
  | post cmd => exact .after fun result _ => commanding_notePost commanding cmd result
  | pollCompletion =>
    refine .after fun result _ => ?_
    obtain ⟨e | (_ | status), initiator⟩ := result <;> exact commanding
  | readResult index =>
    refine .after fun word _ => ?_
    show (sender.noteResult index word).Commanding
    unfold Sender.noteResult
    split <;> exact commanding

/-- A terminal status is shown only for a command that was carried out, with that status. -/
theorem Told.of_shown {executed : List Execution} {w : World plain} (told : Told executed w.course)
    (known : ∀ request ∈ w.course.requests, request.Known) {status : Status}
    (terminal : status.isTerminal = true) (flag : w.chip.flag .sub = status.code) :
    executed.map (·.request) = w.course.requests ∧
      executed.getLast?.map (·.status) = some status := by
  rw [w.shows.flag] at flag
  have shown : w.course.stage = .signalled ∨ w.course.stage = .released := by
    cases stage : w.course.stage with
    | signalled => exact .inl rfl
    | released => exact .inr rfl
    | rest | posted =>
      rw [Course.flag, stage] at flag
      exact absurd flag.symm (code_ne_idle terminal)
    | acked =>
      have busy : w.course.flag .sub = Status.busy.code := by rw [Course.flag, stage]
      rw [busy] at flag
      cases status with
      | done | error => exact absurd flag (by decide)
      | _ => cases terminal
  obtain ⟨status', code, -, last⟩ := flag_sub_of_shown w shown
  obtain rfl : status = status' := by
    have found := Status.ofCode?_eq_some_iff.mpr (flag.symm.trans code)
    rw [Status.ofCode?_eq_some_iff.mpr rfl] at found
    exact (Option.some.inj found).symm
  obtain ⟨asked, answered⟩ := told known
  have count := w.shows.count
  have closed : w.course.stage.isOpen = false := by
    rcases shown with e | e <;> rw [e] <;> rfl
  rw [closed] at count
  have less := asked.length_le
  have more := answered.length_le
  simp only [List.length_map, Bool.false_eq_true, if_false] at less more count
  refine ⟨asked.eq_of_length (by rw [List.length_map]; omega), ?_⟩
  rw [← List.getLast?_map, ← answered.eq_of_length (by simp only [List.length_map]; omega),
    List.getLast?_map]
  exact last

variable {R : Type}

/-- What an observer of both processors finds. -/
structure ServedOnce (system : System Sender (Server R)) : Prop where
  /-- What was carried out are the first commands that were posted, in order and once each. -/
  ordered : system.sub.state.executed.map (·.request) <+: system.main.state.posted
  /-- While a terminal status is shown, all commands are carried out, and it is that of the last. -/
  shown : ∀ status : Status, status.isTerminal = true → system.chip.flag .sub = status.code →
    system.sub.state.executed.map (·.request) = system.main.state.posted ∧
      system.sub.state.executed.getLast?.map (·.status) = some status
  /-- The statuses that came back are those of the first commands that were carried out. -/
  completed : system.main.state.completed <+: system.sub.state.executed.map (·.status)
  /-- No call fails but by a timeout. -/
  graceful : ∀ result ∈ system.sub.state.results, Graceful result
  /-- Between two calls, the dispatcher knows whether the release of a status is still to come. -/
  unreleased : ∀ server, system.sub = .free server → server.owed = none →
    (server.dispatcher.unreleased = true ↔
      ∃ status, server.dispatcher.responder = ⟨.signalled status⟩) ∧
    (server.dispatcher.unreleased = true ↔ system.chip.flag .sub ≠ Status.idle.code)
  /-- No call ever faults. -/
  runsMain : ∀ sender rest, system.main = .calling sender rest →
    ∃ next, rest.step .main system.chip = .ok next
  runsSub : ∀ server rest, system.sub = .calling server rest →
    ∃ next, rest.step .sub system.chip = .ok next

theorem Server.Ready.unreleased_iff {server : Server R} {w : World plain} (ready : server.Ready w)
    (owed : server.owed = none) :
    (server.dispatcher.unreleased = true ↔
      ∃ status, server.dispatcher.responder = ⟨.signalled status⟩) ∧
    (server.dispatcher.unreleased = true ↔ w.chip.flag .sub ≠ Status.idle.code) := by
  rw [w.shows.flag]
  cases unreleased : server.dispatcher.unreleased with
  | false =>
    obtain ⟨_, _, idle, course⟩ := ready.idle owed unreleased
    have flag : w.course.flag .sub = Status.idle.code := by
      rcases course.course.stage with e | e <;> rw [Course.flag, e]
    rw [idle.responder, flag]
    refine ⟨iff_of_false Bool.false_ne_true ?_, iff_of_false Bool.false_ne_true (not_not.mpr rfl)⟩
    rintro ⟨status, same⟩
    cases same
  | true =>
    obtain ⟨_, _, _, _, status, releasing, given⟩ := ready.releasing unreleased
    obtain ⟨status', flag, terminal, -⟩ := flag_sub_of_shown w given.course.course.stage
    rw [flag]
    exact ⟨iff_of_true rfl ⟨status, releasing.responder⟩, iff_of_true rfl (code_ne_idle terminal)⟩

/-- There is a world in which the assertions of both processors are in force. -/
def Watched (system : System Sender (Server R)) : Prop :=
  System.Upheld (handshake plain)
    (fun sender w => Sender.Between sender w ∧ sender.Commanding)
    (fun sender w => Sender.Ready sender w ∧ sender.Commanding)
    (fun server w => server.Noted w.course) Server.Ready system

variable [Painter R]

/-- The interleavings of calls within budgets with the calls of the Main processor. -/
@[reducible] def Served (chip : GateArray) (d : Dispatcher R) (system : System Sender (Server R)) :
    Prop :=
  System.Reachable Sender.role Server.role
    ⟨chip, .free .atRest, .free (.ofDispatcher d)⟩ system

/-- The assertions of both processors are in force in every interleaving. -/
theorem Served.upheld
    (paints : ∀ (painter : R) ops, (∀ op ∈ ops, PaintOp.Sound op) →
      Succeeds (Painter.paintAll painter ops))
    {chip : GateArray} (quiet : Quiet chip) (calm : Calm chip.workspace) {d : Dispatcher R}
    (rest : d.responder = .atRest) (released : d.unreleased = false) (sound : d.desktop.Sound)
    {system : System Sender (Server R)} (served : Served chip d system) : Watched system := by
  have idle : Server.Idle [] [] (.ofDispatcher d) := ⟨rfl, rest, released, fun _ => ⟨rfl, rfl⟩⟩
  have initially : Watched (R := R) ⟨chip, .free .atRest, .free (.ofDispatcher d)⟩ :=
    ⟨.ofQuiet quiet, rfl,
      ⟨⟨⟨rfl, rfl⟩, rfl, List.prefix_rfl, Nat.le_succ _, nofun⟩, nofun⟩,
      ⟨⟨sound, nofun⟩, .idle idle
        ⟨⟨.inl rfl, rfl, List.prefix_rfl, rfl⟩, Nat.le_add_left pace 0, calm⟩⟩⟩
  exact System.upheld_of_reachable (Sender.upholds.also Sender.keeps_commanding)
    (Server.upholds paints) initially served

/-- What the assertions say about what an observer finds. -/
theorem Watched.servedOnce
    (paints : ∀ (painter : R) ops, (∀ op ∈ ops, PaintOp.Sound op) →
      Succeeds (Painter.paintAll painter ops))
    {system : System Sender (Server R)} (watched : Watched system) : ServedOnce system := by
  have upholdsM := Sender.upholds.also Sender.keeps_commanding
  have upholdsS : (handshake plain).Upholds .sub (Server.role : Role (Server R)) _ _ :=
    Server.upholds paints
  obtain ⟨w, eq, main, sub⟩ := watched
  obtain ⟨⟨requests, noted⟩, commanding⟩ := main.within upholdsM
  obtain ⟨results, told⟩ := sub.within upholdsS
  have known : ∀ request ∈ w.course.requests, request.Known := requests ▸ commanding
  obtain ⟨asked, answered⟩ := told known
  refine ⟨requests ▸ asked, ?_, noted.completed.trans answered, results, ?_, ?_, ?_⟩
  · intro status terminal flag
    rw [← eq] at flag
    rw [← requests]
    exact told.of_shown known terminal flag
  · intro server free owed
    rw [free] at sub
    rw [← eq]
    exact Server.Ready.unreleased_iff sub owed
  · intro sender rest calling
    rw [calling] at main
    rw [← eq]
    exact main.runs
  · intro server rest calling
    rw [calling] at sub
    rw [← eq]
    exact sub.runs

/-- On a chip that exchanges banks automatically, service within budgets carries out every command
once and in order, however the bus cycles of both processors interleave and whatever the budgets
are. -/
theorem bounded_service_exactly_once
    (paints : ∀ (painter : R) ops, (∀ op ∈ ops, PaintOp.Sound op) →
      Succeeds (Painter.paintAll painter ops))
    {chip : GateArray} (quiet : Quiet chip) (calm : Calm chip.workspace) {d : Dispatcher R}
    (rest : d.responder = .atRest) (released : d.unreleased = false) (sound : d.desktop.Sound)
    {system : System Sender (Server R)} (served : Served chip d system) : ServedOnce system :=
  (served.upheld paints quiet calm rest released sound).servedOnce paints

/-- A command on the chip at power-up that is released late: one call comes before it, one carries
it out, one waits in vain for its release, and one finds it. -/
theorem bounded_service_exactly_once_late_release :
    ∃ system, Served (.initial true) (.initial Canvas.blank (.standIns [])) system ∧
      system.sub.state.executed = [⟨.cdPlay, ⟨3, 0, 0, 0⟩, .done⟩] ∧
      system.sub.state.results = List.replicate 4 (.error .timeout) ∧
      system.main.state.completed = [.done] ∧ ServedOnce system := by
  have quiet : Quiet (.initial true) := by
    intro side
    cases side <;> rfl
  have calm : Calm (GateArray.initial true).workspace := ⟨rfl, fun bank => by cases bank <;> rfl⟩
  let once : Budget := ⟨1, Nat.one_pos⟩
  let d : Dispatcher Canvas := .initial Canvas.blank (.standIns [])
  have h : Served (.initial true) d _ := .start
  -- a look for a command in vain
  have h : Served (.initial true) d _ :=
    .step h (.sub _ (.call (show Server.role.Call from .takeUp once) rfl))
  have h : Served (.initial true) d _ := h.sub_cycles 1 rfl
  -- the post: a look, four parameter words, the opcode
  have h : Served (.initial true) d _ :=
    .step h (.main _ (.call (show Sender.role.Call from .post (.cdPlay 3)) trivial))
  have h : Served (.initial true) d _ := h.main_cycles 6 rfl
  -- a look, the acknowledgement, the parameters
  have h : Served (.initial true) d _ :=
    .step h (.sub _ (.call (show Server.role.Call from .takeUp once) rfl))
  have h : Served (.initial true) d _ := h.sub_cycles 7 rfl
  -- the status, and a look for its release in vain, twice
  have h : Served (.initial true) d _ :=
    .step h (.sub _ (.call (show Server.role.Call from .giveReply) nofun))
  have h : Served (.initial true) d _ := h.sub_cycles 2 rfl
  have h : Served (.initial true) d _ :=
    .step h (.sub _ (.call (show Server.role.Call from .takeUp once) rfl))
  have h : Served (.initial true) d _ := h.sub_cycles 1 rfl
  -- the status is seen and released
  have h : Served (.initial true) d _ :=
    .step h (.main _ (.call (show Sender.role.Call from .pollCompletion) trivial))
  have h : Served (.initial true) d _ := h.main_cycles 3 rfl
  -- the release is seen, and there is no other command
  have h : Served (.initial true) d _ :=
    .step h (.sub _ (.call (show Server.role.Call from .takeUp once) rfl))
  have h : Served (.initial true) d _ := h.sub_cycles 3 rfl
  have h : Served (.initial true) d _ :=
    .step h (.main _ (.call (show Sender.role.Call from .pollCompletion) trivial))
  have h : Served (.initial true) d _ := h.main_cycles 1 rfl
  exact ⟨_, h, rfl, rfl, rfl, bounded_service_exactly_once
    (fun painter _ sound => painter.paintAll_yields sound) quiet calm rfl rfl
    Desktop.sound_initial h⟩

end Handshake

end TwinDesk
