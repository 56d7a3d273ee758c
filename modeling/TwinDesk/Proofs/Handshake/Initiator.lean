import TwinDesk.Proofs.Handshake.Registers

/-!
# The initiator's half of the handshake

What the calls of the Main processor do to the course of the handshake, whatever the Sub processor
does in the meantime. The phase of an initiator tells it where the course is, up to the steps that
the responder may have taken since.

* `Initiator.Fits` — what the phase says.
* `post_outline`, `pollCompletion_outline` — the two calls that take the course further.
* `call_outline` — a whole command: posted, completed, and its result words collected.
-/

namespace TwinDesk

open Handshake Program

/-- What the phase of an initiator says about the course. -/
def Initiator.Fits (initiator : Initiator) (c : Course) : Prop :=
  match initiator.phase with
  | .idle => c.stage = .rest
  | .posted _ => c.stage.raised = true
  | .releasing status =>
    (c.stage = .released ∨ c.stage = .rest) ∧ c.replies.getLast?.map (·.status) = some status

/-- The request that a command is on the link. -/
def Command.request (cmd : Command) : Request := ⟨cmd.opcode.code, cmd.params⟩

namespace Handshake

variable {contract : Contract} {B : Course → Prop} {room : Nat} {requests : List Request}

theorem fits_outlasts (initiator : Initiator) : Outlasts .main initiator.Fits := by
  intro c c' step fits
  change Course.Step .sub c c' at step
  unfold Initiator.Fits at fits ⊢
  cases step with
  | ack => split at fits <;> simp_all [Stage.raised]
  | signal => split at fits <;> simp_all [Stage.raised]
  | settle => split at fits <;> simp_all [Stage.raised]

/-- Only the Main processor makes requests. -/
theorem requests_outlast (P : List Request → Prop) : Outlasts .main fun c => P c.requests := by
  intro c c' step holds
  change Course.Step .sub c c' at step
  cases step <;> exact holds

/-- The assertion of an initiator between its calls. -/
def Initiating (initiator : Initiator) (requests : List Request) (c : Course) : Prop :=
  initiator.Fits c ∧ c.requests = requests

theorem initiating (initiator : Initiator) (within : ∀ c, c.requests = requests → B c) :
    Standing .main B (Initiating initiator requests) :=
  ⟨(fits_outlasts initiator).and (requests_outlast (· = requests)), fun c h => within c h.2⟩

/-- The course is at rest whenever the initiator is idle. -/
theorem rest_of_idle {initiator : Initiator} {c : Course} (fits : Initiating initiator requests c)
    (idle : initiator.isIdle = true) : c.stage = .rest := by
  have phase : initiator.phase = .idle := by simpa [Initiator.isIdle] using idle
  have rest := fits.1
  rwa [Initiator.Fits, phase] at rest

/-! ## Posting -/

/-- What a post has done. -/
def Posted (cmd : Command) (initiator : Initiator) (requests : List Request) :
    Except LinkError Unit × Initiator → Course → Prop
  | (.ok (), initiator'), c => initiator.isIdle = true ∧ initiator'.isIdle = false ∧
    Initiating initiator' (requests ++ [cmd.request]) c
  | (.error _, initiator'), c => initiator' = initiator ∧
    (initiator.isIdle = false ∨ cmd.opcode = .none) ∧ Initiating initiator requests c

theorem writeParams_outline (params : Params) {A : Course → Prop} (standing : Standing .main B A)
    (rest : ∀ c, A c → c.stage = .rest) :
    Outlined contract .main B (MainRegisters.writeParams params) (At .main A (room + 4) anything)
      fun _ => At .main A room (· = params) := by
  have word (index : Nat) (h : index < 4) (value : UInt16) (room : Nat) (R : Params → Prop) :
      Outlined contract .main B (MainRegisters.writeParam index value)
        (At .main A (room + 1) fun params => R (params.set index value))
        fun _ => At .main A room R :=
    writeParam_outline value h standing rest
  refine ((word 0 (by decide) params.word0 (room + 3) _).strengthen ?_).bind fun _ =>
    (word 1 (by decide) params.word1 (room + 2) _).bind fun _ =>
      (word 2 (by decide) params.word2 (room + 1) _).bind fun _ =>
        word 3 (by decide) params.word3 room (· = params)
  -- all four words are replaced, so nothing is left of what was there before
  exact fun w h => h.weaken id (Nat.le_refl _) fun _ _ => rfl

/-- After a post it is the responder's turn, so the initiator has all the room again. -/
def postedRoom (room : Nat) : Except LinkError Unit × Initiator → Nat
  | (.ok (), _) => pace
  | (.error _, _) => room

/-- With the parameters in place the flag of an initiator at rest makes the request. -/
theorem raise_outline {cmd : Command} {initiator : Initiator} (room : Nat)
    (idle : initiator.isIdle = true) (nonzero : cmd.opcode ≠ .none)
    (within : ∀ c, c.requests = requests → B c) (admits : contract.Admits requests cmd.request) :
    Outlined contract .main B (Side.main.setFlag cmd.opcode.code)
      (At .main (Initiating initiator requests) room (· = cmd.params))
      fun _ => At .main (Posted cmd initiator requests (.ok (), ⟨.posted cmd.opcode⟩)) pace
        (· = cmd.params) := by
  apply setFlag_outline (initiating initiator within)
  intro w fits params
  have rest : w.course.stage = .rest := rest_of_idle fits idle
  have code : cmd.opcode.code ≠ 0 := fun zero => nonzero (Opcode.code_eq_zero_iff.mp zero)
  have params : w.chip.params = cmd.params := params
  refine ⟨_, .post ⟨cmd.opcode.code, w.chip.params⟩ rest, w.shows.post rest code ?_, idle, rfl,
    rfl, ?_⟩
  · rw [fits.2, params]
    exact admits
  · rw [fits.2, params]
    rfl

/-- An initiator at rest posts any command. Nothing is changed by a post out of order. -/
theorem post_outline (cmd : Command) (initiator : Initiator)
    (within : ∀ c, c.requests = requests → B c)
    (admits : contract.Admits requests cmd.request) :
    Outlined contract .main B (initiator.post cmd)
      (At .main (Initiating initiator requests) (room + 5) anything)
      fun result => At .main (Posted cmd initiator requests result) (postedRoom room result)
        anything := by
  let refused (e : LinkError) : Program (Except LinkError Unit × Initiator) :=
    .done (.error e, initiator)
  -- both refusals come before anything is written
  show Outlined contract .main B
    (if (!initiator.isIdle || cmd.opcode == .none) = true then refused .protocolViolation
    else Side.main.peerFlag.bind fun flag =>
      if flag ≠ Status.idle.code then refused .peerBusy
      else (MainRegisters.writeParams cmd.params).bind fun _ =>
        (Side.main.setFlag cmd.opcode.code).bind fun _ => .done (.ok (), ⟨.posted cmd.opcode⟩))
    _ _
  split
  case isTrue early =>
    have why : initiator.isIdle = false ∨ cmd.opcode = .none := by simpa using early
    exact .done fun w h => h.mono (fun c fits => ⟨rfl, why, fits⟩) (Nat.le_add_right _ _)
  case isFalse allowed =>
    obtain ⟨idle, nonzero⟩ : initiator.isIdle = true ∧ cmd.opcode ≠ .none := by
      simpa using allowed
    have rest (c : Course) (fits : Initiating initiator requests c) : c.stage = .rest :=
      rest_of_idle fits idle
    have standing : Standing .main B (Initiating initiator requests) := initiating initiator within
    have look : Outlined contract .main B Side.main.peerFlag
        (At .main (Initiating initiator requests) (room + 5) anything)
        fun flag => At .main (fun c => flag = Status.idle.code ∧ Initiating initiator requests c)
          (room + 4) anything :=
      peerFlag_outline standing fun w fits =>
        ⟨⟨by simp [Course.flag, rest _ fits, Side.peer], fits⟩, .inl (Nat.le_refl _)⟩
    refine look.bind ?_
    intro flag
    split
    case isTrue busy => exact .done fun w h => absurd h.course.1 busy
    case isFalse =>
      have words : Outlined contract .main B (MainRegisters.writeParams cmd.params)
          (At .main (fun c => flag = Status.idle.code ∧ Initiating initiator requests c)
            (room + 4) anything)
          fun _ => At .main (Initiating initiator requests) room (· = cmd.params) :=
        (writeParams_outline cmd.params standing rest).strengthen fun w h =>
          h.mono (fun c fits => fits.2) (Nat.le_refl _)
      have signal := raise_outline room idle nonzero within admits
      exact words.bind fun _ => signal.bind fun _ =>
        .done fun w h => h.weaken id (Nat.le_refl _) fun _ _ => trivial

/-! ## Waiting for the completion -/

/-- What a poll for the completion has done. -/
def Polled (initiator : Initiator) (requests : List Request) :
    Except LinkError (Option Status) × Initiator → Course → Prop
  | (.ok (some status), initiator'), c => initiator.isIdle = false ∧ initiator'.isIdle = true ∧
    Initiating initiator' requests c ∧ c.replies.getLast?.map (·.status) = some status
  | (.ok none, initiator'), c => initiator.isIdle = false ∧ initiator'.isIdle = false ∧
    Initiating initiator' requests c
  | (.error _, initiator'), c => initiator' = initiator ∧ initiator.isIdle = true ∧
    Initiating initiator requests c

/-- After a look in vain it was not the initiator's turn, so it has all the room again. -/
def polledRoom (room : Nat) : Except LinkError (Option Status) × Initiator → Nat
  | (.ok none, _) => pace
  | _ => room

/-- Until the responder has come to rest its flag shows the status of the last reply. -/
theorem flag_sub_of_replied (w : World contract) {status : Status}
    (stage : w.course.stage = .signalled ∨ w.course.stage = .released)
    (last : w.course.replies.getLast?.map (·.status) = some status) :
    w.course.flag .sub = status.code ∧ status.isTerminal = true := by
  obtain ⟨reply, eq, rfl⟩ := Option.map_eq_some_iff.mp last
  have closed : w.course.stage.isOpen = false := by
    rcases stage with e | e <;> rw [e] <;> rfl
  obtain ⟨terminal, -⟩ := w.shows.reply closed reply eq
  refine ⟨?_, terminal⟩
  rcases stage with e | e <;> simp [Course.flag, e, eq]

theorem code_ne_idle {status : Status} (terminal : status.isTerminal = true) :
    status.code ≠ Status.idle.code := by
  cases status with
  | done => decide
  | error => decide
  | _ => cases terminal

/-- After the first command there is a last reply. -/
theorem exists_last_reply (w : World contract) (closed : w.course.stage.isOpen = false)
    (busy : w.course.stage ≠ .rest) : ∃ reply, w.course.replies.getLast? = some reply := by
  have count := w.shows.count
  rw [closed] at count
  have some_reply : w.course.replies ≠ [] := by
    intro none
    rw [none] at count
    exact w.shows.begun busy (List.eq_nil_of_length_eq_zero count)
  exact ⟨_, List.getLast?_eq_some_getLast some_reply⟩

/-- While a reply is shown, the flag of the Sub processor is neither idle nor busy. -/
theorem flag_sub_of_shown (w : World contract)
    (shown : w.course.stage = .signalled ∨ w.course.stage = .released) :
    ∃ status : Status, w.course.flag .sub = status.code ∧ status.isTerminal = true ∧
      w.course.replies.getLast?.map (·.status) = some status := by
  obtain ⟨reply, last⟩ : ∃ reply, w.course.replies.getLast? = some reply := by
    apply exists_last_reply w <;> rcases shown with e | e <;> rw [e] <;> decide
  obtain ⟨flag, terminal⟩ := flag_sub_of_replied w shown (congrArg (Option.map (·.status)) last)
  exact ⟨reply.status, flag, terminal, congrArg (Option.map (·.status)) last⟩

/-- The last look of a cycle. -/
theorem awaitRest_outline (status : Status) {initiator : Initiator}
    (busy : initiator.isIdle = false) (within : ∀ c, c.requests = requests → B c) :
    Outlined contract .main B (Initiator.awaitRest status)
      (At .main (Initiating ⟨.releasing status⟩ requests) (room + 1) anything)
      fun result => At .main (Polled initiator requests result) (polledRoom room result)
        anything := by
  have look : Outlined contract .main B Side.main.peerFlag
      (At .main (Initiating ⟨.releasing status⟩ requests) (room + 1) anything)
      fun flag => At .main
        (fun c => Initiating ⟨.releasing status⟩ requests c ∧
          (flag = Status.idle.code → c.stage = .rest))
        (if flag = Status.idle.code then room else pace) anything :=
    peerFlag_outline (initiating ⟨.releasing status⟩ within) fun w fits => by
      obtain ⟨⟨stage, last⟩, -⟩ := id fits
      rcases stage with released | rest
      · obtain ⟨flag, terminal⟩ := flag_sub_of_replied w (.inr released) last
        have ne : w.course.flag Side.main.peer ≠ Status.idle.code := by
          show w.course.flag .sub ≠ _
          rw [flag]
          exact code_ne_idle terminal
        refine ⟨⟨fits, fun idle => absurd idle ne⟩, .inr ⟨?_, ?_⟩⟩
        · apply not_due_of_mover <;> rw [released] <;> decide
        · rw [if_neg ne]
      · have idle : w.course.flag Side.main.peer = Status.idle.code := by
          simp [Course.flag, rest, Side.peer]
        refine ⟨⟨fits, fun _ => rest⟩, .inl ?_⟩
        rw [if_pos idle]
  refine look.bind ?_
  intro flag
  by_cases rest : flag = Status.idle.code
  · rw [if_pos rest, if_pos rest]
    refine .done fun w h => h.mono (fun c fits => ?_) (Nat.le_refl _)
    obtain ⟨⟨⟨stage, last⟩, same⟩, idle⟩ := fits
    exact ⟨busy, rfl, ⟨idle rest, same⟩, last⟩
  · rw [if_neg rest, if_neg rest]
    exact .done fun w h => h.mono (fun c fits => ⟨busy, rfl, fits.1⟩) (Nat.le_refl _)

/-- What the responder's flag says to an initiator that waits for a terminal status. -/
def answered (flag : UInt8) : Option Status :=
  (Status.ofCode? flag).filter (·.isTerminal)

/-- The responder's flag shows a terminal status exactly at the stage `signalled`. -/
theorem answered_flag (w : World contract) (raised : w.course.stage.raised = true) :
    (w.course.stage = .signalled ∧ ∃ status, answered (w.course.flag .sub) = some status ∧
      w.course.replies.getLast?.map (·.status) = some status) ∨
    (¬ Due contract .main w.course ∧ answered (w.course.flag .sub) = none) := by
  cases stage : w.course.stage with
  | rest =>
    rw [stage] at raised
    cases raised
  | released =>
    rw [stage] at raised
    cases raised
  | posted =>
    refine .inr ⟨?_, ?_⟩
    · apply not_due_of_mover <;> rw [stage] <;> decide
    · rw [Course.flag, stage]
      rfl
  | acked =>
    refine .inr ⟨?_, ?_⟩
    · apply not_due_of_mover <;> rw [stage] <;> decide
    · rw [Course.flag, stage]
      rfl
  | signalled =>
    obtain ⟨status, flag, terminal, last⟩ := flag_sub_of_shown w (.inl stage)
    refine .inl ⟨rfl, status, ?_, last⟩
    rw [answered, flag, Status.ofCode?_eq_some_iff.mpr rfl]
    exact if_pos terminal

/-- What a look at the responder's flag tells an initiator that waits for a terminal status. -/
def Noticed (opcode : Opcode) (requests : List Request) (flag : UInt8) (c : Course) : Prop :=
  Initiating ⟨.posted opcode⟩ requests c ∧
    ∀ status ∈ answered flag, c.stage = .signalled ∧
      c.replies.getLast?.map (·.status) = some status

/-- The first look of a poll. One in vain is free, since it was not the initiator's turn. -/
theorem look_outline (opcode : Opcode) (within : ∀ c, c.requests = requests → B c) :
    Outlined contract .main B Side.main.peerFlag
      (At .main (Initiating ⟨.posted opcode⟩ requests) (room + 1) anything)
      fun flag => At .main (Noticed opcode requests flag)
        (if (answered flag).isSome then room else pace) anything := by
  apply peerFlag_outline (initiating ⟨.posted opcode⟩ within)
  intro w fits
  have stage : w.course.stage.raised = true := fits.1
  have peer : Side.main.peer = .sub := rfl
  obtain ⟨signalled, status, eq, last⟩ | ⟨rested, eq⟩ := answered_flag w stage
  · refine ⟨⟨fits, ?_⟩, .inl ?_⟩
    · intro status' mem
      obtain rfl : status = status' := by
        rw [peer, eq] at mem
        exact Option.some.inj mem
      exact ⟨signalled, last⟩
    · rw [peer, eq]
      exact Nat.le_refl _
  · refine ⟨⟨fits, ?_⟩, .inr ⟨rested, ?_⟩⟩
    · intro status' mem
      rw [peer, eq] at mem
      cases mem
    · rw [peer, eq]
      exact Nat.le_refl _

/-- Once the answer was seen the initiator clears its flag. -/
theorem clear_outline {flag : UInt8} {status : Status} (opcode : Opcode) (room : Nat)
    (seen : answered flag = some status) (within : ∀ c, c.requests = requests → B c) :
    Outlined contract .main B (Side.main.setFlag Opcode.none.code)
      (At .main (Noticed opcode requests flag) room anything)
      fun _ => At .main (Initiating ⟨.releasing status⟩ requests) pace anything := by
  have signalled (c : Course) (fits : Noticed opcode requests flag c) := fits.2 status seen
  have waits : Standing .main B (Noticed opcode requests flag) :=
    .of_stage .signalled rfl (fun c fits => (signalled c fits).1) fun c fits => within c fits.1.2
  apply setFlag_outline waits
  intro w fits _
  obtain ⟨stage, last⟩ := signalled _ fits
  exact ⟨_, .release stage, w.shows.release stage, ⟨.inl rfl, last⟩, fits.1.2⟩

/-- A poll for the completion takes the cycle as far as the responder allows. -/
theorem pollCompletion_outline (initiator : Initiator) (within : ∀ c, c.requests = requests → B c)
    (slack : room + 1 ≤ pace) :
    Outlined contract .main B (Initiator.pollCompletion initiator)
      (At .main (Initiating initiator requests) (room + 1) anything)
      fun result => At .main (Polled initiator requests result) (polledRoom room result)
        anything := by
  obtain ⟨phase⟩ := initiator
  cases phase with
  | idle => exact .done fun w h => h.mono (fun c fits => ⟨rfl, rfl, fits⟩) (Nat.le_succ _)
  | releasing status => exact awaitRest_outline status rfl within
  | posted opcode =>
    refine (look_outline opcode within).bind ?_
    intro flag
    dsimp only
    split
    case h_2 unseen =>
      refine .done ?_
      intro w h
      rw [answered, unseen] at h
      exact h.mono (fun c fits => ⟨rfl, rfl, fits.1⟩) (Nat.le_refl _)
    case h_1 status seen =>
      have rest : Outlined contract .main B (Initiator.awaitRest status)
          (At .main (Initiating ⟨.releasing status⟩ requests) pace anything)
          fun result => At .main (Polled ⟨.posted opcode⟩ requests result)
            (polledRoom room result) anything :=
        (awaitRest_outline status rfl within).strengthen fun w h =>
          h.mono (fun _ fits => fits) slack
      refine ((clear_outline opcode room seen within).bind fun _ => rest).strengthen ?_
      intro w h
      rw [answered, seen] at h
      exact h

end Handshake

end TwinDesk
