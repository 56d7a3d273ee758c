import TwinDesk.Proofs.Handshake.Registers

/-!
# The responder's half of the handshake

What the calls of the Sub processor do to the course of the handshake, whatever the Main processor
does in the meantime.

* `Responder.Fits` — what the phase of a responder says about the course.
* `pollCommand_outline`, `ack_outline` — finding a request and taking it up.
* `readParams_outline` — the parameters that are read are those of the request taken up.
* `signal_outline`, `pollRelease_outline` — the reply and the end of the cycle.
-/

namespace TwinDesk

open Handshake Program

/-- What the phase of a responder says about the course. -/
def Responder.Fits (responder : Responder) (c : Course) : Prop :=
  match responder.phase with
  | .waiting => c.stage = .rest ∨ c.stage = .posted
  | .acked opcode => c.stage = .acked ∧ c.requests.getLast?.map (·.opcode) = some opcode
  | .signalled status => (c.stage = .signalled ∨ c.stage = .released) ∧
    c.replies.getLast?.map (·.status) = some status

namespace Handshake

variable {contract : Contract} {A B : Course → Prop} {room : Nat}
  {R : GateArray.Workspace → Prop} {replies : List Reply}

theorem responder_fits_outlasts (responder : Responder) : Outlasts .sub responder.Fits := by
  intro c c' step fits
  change Course.Step .main c c' at step
  unfold Responder.Fits at fits ⊢
  cases step with
  | post => split at fits <;> simp_all
  | release => split at fits <;> simp_all

/-- Only the Sub processor makes replies. -/
theorem replies_outlast (P : List Reply → Prop) : Outlasts .sub fun c => P c.replies := by
  intro c c' step holds
  change Course.Step .main c c' at step
  cases step <;> exact holds

/-- The assertion of a responder between its calls. -/
def Responding (responder : Responder) (replies : List Reply) (c : Course) : Prop :=
  responder.Fits c ∧ c.replies = replies

theorem responding (responder : Responder) (within : ∀ c, c.replies = replies → B c) :
    Standing .sub B (Responding responder replies) :=
  ⟨(responder_fits_outlasts responder).and (replies_outlast (· = replies)),
    fun c h => within c h.2⟩

/-! ## Taking a request up -/

/-- Whether a request with the opcode byte `opcode` waits to be acknowledged. -/
def Pending (opcode : UInt8) (c : Course) : Prop :=
  c.stage = .posted ∧ c.requests.getLast?.map (·.opcode) = some opcode

/-- A raised flag shows the opcode of the last request, which is not the idle one. -/
theorem flag_main_of_raised (w : World contract) (raised : w.course.stage.raised = true) :
    w.course.flag .main ≠ 0 ∧
      w.course.requests.getLast?.map (·.opcode) = some (w.course.flag .main) := by
  have busy : w.course.stage ≠ .rest := by
    intro rest
    rw [rest] at raised
    cases raised
  have last := List.getLast?_eq_some_getLast (w.shows.begun busy)
  obtain ⟨nonzero, -⟩ := w.shows.request raised _ last
  rw [Course.flag, if_pos raised, last]
  exact ⟨nonzero, rfl⟩

/-- A waiting responder reads an opcode exactly when one is posted. -/
theorem flag_main_of_waiting (w : World contract)
    (waiting : w.course.stage = .rest ∨ w.course.stage = .posted) :
    (w.course.stage = .rest ∧ w.course.flag .main = 0) ∨
      (w.course.flag .main ≠ 0 ∧ Pending (w.course.flag .main) w.course) := by
  rcases waiting with rest | posted
  · left
    refine ⟨rest, ?_⟩
    rw [Course.flag, rest]
    rfl
  · right
    obtain ⟨nonzero, last⟩ := flag_main_of_raised w (by rw [posted]; rfl)
    exact ⟨nonzero, posted, last⟩

/-- What a look at the initiator's flag tells a responder that waits for a request. -/
def Looked (A : Course → Prop) (flag : UInt8) (c : Course) : Prop :=
  A c ∧ (flag ≠ 0 → Pending flag c) ∧ (flag = 0 → ∃ c, A c ∧ c.stage = .rest)

theorem lookCommand_outline (standing : Standing .sub B A)
    (waiting : ∀ c, A c → c.stage = .rest ∨ c.stage = .posted)
    (unfinished : ∀ c, A c → ∀ limit ∈ contract.limit, c.replies.length < limit) :
    Outlined contract .sub B Side.sub.peerFlag (At .sub A (room + 1) R)
      fun flag => At .sub (Looked A flag) (if flag = 0 then pace else room) R := by
  apply peerFlag_outline standing
  intro w holds
  show (A _ ∧ (w.course.flag .main ≠ 0 → _) ∧ (w.course.flag .main = 0 → _)) ∧
    ((if w.course.flag .main = 0 then _ else _) ≤ room ∨
      (_ ∧ (if w.course.flag .main = 0 then _ else _) ≤ pace))
  rcases flag_main_of_waiting w (waiting _ holds) with ⟨rest, zero⟩ | ⟨nonzero, pending⟩
  · refine ⟨⟨holds, fun ne => absurd zero ne, fun _ => ⟨_, holds, rest⟩⟩, .inr ⟨?_, ?_⟩⟩
    · -- at rest the responder is due only once all commands are through
      rintro ⟨limit, eq, mover | ⟨-, all⟩⟩
      · rw [rest] at mover
        cases mover
      · have count := w.shows.count
        have more := unfinished _ holds limit eq
        rw [rest, all] at count
        change limit = w.course.replies.length + 0 at count
        omega
    · rw [if_pos zero]
  · refine ⟨⟨holds, fun _ => pending, fun zero => absurd zero nonzero⟩, .inl ?_⟩
    rw [if_neg nonzero]

/-- A look for a request. One in vain was made at rest, when it was not the responder's turn. -/
theorem pollCommand_outline {responder : Responder} (phase : responder.phase = .waiting)
    (standing : Standing .sub B A)
    (waiting : ∀ c, A c → c.stage = .rest ∨ c.stage = .posted)
    (unfinished : ∀ c, A c → ∀ limit ∈ contract.limit, c.replies.length < limit) :
    Outlined contract .sub B responder.pollCommand (At .sub A (room + 1) R)
      fun found => At .sub
        (fun c => A c ∧ (∀ opcode ∈ found, Pending opcode c) ∧
          (found = none → ∃ c, A c ∧ c.stage = .rest))
        (if found.isSome then room else pace) R := by
  show Outlined contract .sub B
    (if responder.phase ≠ .waiting then .done none
      else Side.sub.peerFlag.bind fun flag =>
        .done (if flag = Opcode.none.code then none else some flag)) _ _
  rw [if_neg (not_not.mpr phase)]
  refine (lookCommand_outline standing waiting unfinished).bind fun flag => .done ?_
  intro w h
  by_cases zero : flag = Opcode.none.code
  · rw [if_pos zero]
    refine h.mono (fun c holds => ⟨holds.1, ?_, fun _ => holds.2.2 zero⟩) ?_
    · rintro opcode ⟨⟩
    · exact le_of_eq (if_pos zero).symm
  · rw [if_neg zero]
    refine h.mono (fun c holds => ⟨holds.1, ?_, ?_⟩) ?_
    · rintro opcode ⟨⟩
      exact holds.2.1 zero
    · rintro ⟨⟩
    · exact le_of_eq (if_neg zero).symm

/-- What an acknowledgement has done: it takes a pending request up, and fails only at rest. -/
def Acknowledged (A : Course → Prop) (responder : Responder) :
    Except LinkError Unit × Responder → Course → Prop
  | (.ok (), responder'), c => ∃ opcode, responder' = ⟨.acked opcode⟩ ∧ c.stage = .acked ∧
    c.requests.getLast?.map (·.opcode) = some opcode ∧ A ⟨.posted, c.requests, c.replies⟩
  | (.error _, responder'), c => responder' = responder ∧ A c ∧ ∃ c, A c ∧ c.stage = .rest

/-- Besides `A`, a request that waits to be taken up. -/
def Requested (A : Course → Prop) (opcode : UInt8) (c : Course) : Prop :=
  A c ∧ Pending opcode c

theorem Standing.requested (standing : Standing .sub B A) (opcode : UInt8) :
    Standing .sub B (Requested A opcode) :=
  .of_stage .posted rfl (fun _ holds => holds.2.1) fun c holds => standing.within c holds.1

/-- After an acknowledgement the responder has all the room that there is for the command. -/
def ackedRoom (room : Nat) : Except LinkError Unit × Responder → Nat
  | (.ok (), _) => pace
  | (.error _, _) => room

theorem ack_outline {responder : Responder} (phase : responder.phase = .waiting)
    (standing : Standing .sub B A)
    (waiting : ∀ c, A c → c.stage = .rest ∨ c.stage = .posted)
    (unfinished : ∀ c, A c → ∀ limit ∈ contract.limit, c.replies.length < limit)
    (slack : room ≤ pace) :
    Outlined contract .sub B responder.ack (At .sub A (room + 1) R)
      fun result => At .sub (Acknowledged A responder result) (ackedRoom room result) R := by
  refine (pollCommand_outline phase standing waiting unfinished).bind ?_
  intro found
  cases found with
  | none => exact .done fun w h => h.mono (fun c holds => ⟨rfl, holds.1, holds.2.2 rfl⟩) slack
  | some opcode =>
    have acknowledge : Outlined contract .sub B (Side.sub.setFlag Status.busy.code)
        (At .sub (Requested A opcode) room R)
        fun _ => At .sub (Acknowledged A responder (.ok (), ⟨.acked opcode⟩)) pace R := by
      apply setFlag_outline (standing.requested opcode)
      intro w holds _
      obtain ⟨known, posted, last⟩ := holds
      refine ⟨_, .ack posted, w.shows.ack posted, opcode, rfl, rfl, last, ?_⟩
      rw [← posted]
      exact known
    refine (acknowledge.strengthen fun w h => ?_).bind fun _ => .done fun w h => ?_
    · exact h.mono (fun c holds => ⟨holds.1, holds.2.1 opcode rfl⟩) (Nat.le_refl _)
    · exact h.mono (fun _ holds => holds) (Nat.le_refl _)

/-- Besides `A`, something about the parameters of the last request. -/
def Reading (A : Course → Prop) (P : Params → Prop) (c : Course) : Prop :=
  A c ∧ ∀ request ∈ c.requests.getLast?, P request.params

/-- The parameters of the request that was taken up. -/
theorem readParams_outline (standing : Standing .sub B A) (acked : ∀ c, A c → c.stage = .acked) :
    Outlined contract .sub B SubRegisters.readParams (At .sub A (room + 4) R)
      fun params => At .sub (Reading A (· = params)) room R := by
  have reads (P : Params → Prop) : Standing .sub B (Reading A P) :=
    .of_stage .acked rfl (fun c holds => acked c holds.1) fun c holds => standing.within c holds.1
  have word (index : Nat) (h : index < 4) (P : Params → Prop) (room : Nat) :
      Outlined contract .sub B (SubRegisters.readParam index) (At .sub (Reading A P) (room + 1) R)
        fun word =>
          At .sub (Reading A fun params => P params ∧ params.word index = word) room R := by
    refine readParam_outline h (reads P) (fun c holds => acked c holds.1) ?_
    intro c holds request last
    refine ⟨holds.1, fun request' mem => ⟨holds.2 request' mem, ?_⟩⟩
    rw [Option.mem_def, last] at mem
    cases mem
    rfl
  show Outlined contract .sub B
    ((SubRegisters.readParam 0).bind fun word0 => (SubRegisters.readParam 1).bind fun word1 =>
      (SubRegisters.readParam 2).bind fun word2 => (SubRegisters.readParam 3).bind fun word3 =>
        .done (Params.mk word0 word1 word2 word3)) _ _
  refine ((word 0 (by decide) (fun _ => True) (room + 3)).strengthen ?_).bind fun word0 =>
    (word 1 (by decide) _ (room + 2)).bind fun word1 =>
      (word 2 (by decide) _ (room + 1)).bind fun word2 =>
        (word 3 (by decide) _ room).bind fun word3 => .done fun w h => ?_
  · exact fun w h => h.mono (fun c holds => ⟨holds, fun _ _ => trivial⟩) (Nat.le_refl _)
  · refine h.mono (fun c holds => ⟨holds.1, fun request mem => ?_⟩) (Nat.le_refl _)
    obtain ⟨⟨⟨⟨-, rfl⟩, rfl⟩, rfl⟩, rfl⟩ := holds.2 request mem
    rfl

/-! ## Replying -/

/-- What an accepted signal has done. -/
def Signalled (A : Course → Prop) (status : Status) (c : Course) : Prop :=
  (c.stage = .signalled ∨ c.stage = .released) ∧
    ∃ words replies, c.replies = replies ++ [⟨status, words⟩] ∧ A ⟨.acked, c.requests, replies⟩

/-- The terminal status of a command, with the result words as they are. -/
theorem signal_outline {status : Status} {responder : Responder} {opcode : UInt8}
    (phase : responder.phase = .acked opcode) (terminal : status.isTerminal = true)
    (standing : Standing .sub B A) (acked : ∀ c, A c → c.stage = .acked)
    (answers : ∀ w : World contract, A w.course → R w.chip.workspace →
      contract.Answers w.course.requests ⟨status, w.chip.results⟩) :
    Outlined contract .sub B (responder.signal status) (At .sub A room R)
      fun result => At .sub
        (fun c => result = (.ok (), ⟨.signalled status⟩) ∧ Signalled A status c) pace R := by
  have accepted : (!status.isTerminal || responder.ackedOpcode?.isNone) = false := by
    simp [terminal, Responder.ackedOpcode?, phase]
  let refused : Program (Except LinkError Unit × Responder) :=
    .done (.error .protocolViolation, responder)
  show Outlined contract .sub B
    (if (!status.isTerminal || responder.ackedOpcode?.isNone) = true then refused
    else (Side.sub.setFlag status.code).bind fun _ => .done (.ok (), ⟨.signalled status⟩)) _ _
  rw [if_neg (by rw [accepted]; decide)]
  have reply : Outlined contract .sub B (Side.sub.setFlag status.code) (At .sub A room R)
      fun _ => At .sub (Signalled A status) pace R := by
    apply setFlag_outline standing
    intro w holds own
    have stage := acked _ holds
    refine ⟨_, .signal ⟨status, w.chip.results⟩ stage,
      w.shows.signal stage terminal (answers w holds own), .inl rfl, _, _, rfl, ?_⟩
    rw [← stage]
    exact holds
  exact reply.bind fun _ => .done fun w h => h.mono (fun _ holds => ⟨rfl, holds⟩) (Nat.le_refl _)

/-- What a poll for the release has done. -/
def Released (A : Course → Prop) (responder : Responder) :
    Except LinkError Bool × Responder → Course → Prop
  | (.ok true, responder'), c => responder' = ⟨.waiting⟩ ∧ c.stage = .rest ∧
    A ⟨.released, c.requests, c.replies⟩
  | (.ok false, responder'), c => responder' = responder ∧ A c
  | (.error _, _), _ => False

theorem lookRelease_outline (standing : Standing .sub B A)
    (replied : ∀ c, A c → c.stage = .signalled ∨ c.stage = .released) :
    Outlined contract .sub B Side.sub.peerFlag (At .sub A 1 R)
      fun flag => At .sub (fun c => A c ∧ (flag = Opcode.none.code → c.stage = .released))
        (if flag = Opcode.none.code then 0 else pace) R := by
  apply peerFlag_outline standing
  intro w holds
  show (A _ ∧ (w.course.flag .main = 0 → _)) ∧
    ((if w.course.flag .main = 0 then _ else _) ≤ 0 ∨
      (_ ∧ (if w.course.flag .main = 0 then _ else _) ≤ pace))
  rcases replied _ holds with signalled | released
  · obtain ⟨flag, -⟩ := flag_main_of_raised w (by rw [signalled]; rfl)
    refine ⟨⟨holds, fun zero => absurd zero flag⟩, .inr ⟨?_, ?_⟩⟩
    · apply not_due_of_mover <;> rw [signalled] <;> decide
    · rw [if_neg flag]
  · have flag : w.course.flag .main = 0 := by
      rw [Course.flag, released]
      rfl
    refine ⟨⟨holds, fun _ => released⟩, .inl ?_⟩
    rw [if_pos flag]

/-- Once the release was seen the responder comes to rest. -/
theorem settle_outline (status : Status) (standing : Standing .sub B A) :
    Outlined contract .sub B (Side.sub.setFlag Status.idle.code)
      (At .sub (fun c => A c ∧ c.stage = .released) 0 R)
      fun _ => At .sub (Released A ⟨.signalled status⟩ (.ok true, ⟨.waiting⟩)) pace R := by
  have free : Standing .sub B fun c => A c ∧ c.stage = .released :=
    .of_stage .released rfl (fun c holds => holds.2) fun c holds => standing.within c holds.1
  apply setFlag_outline free
  intro w holds _
  obtain ⟨known, released⟩ := holds
  refine ⟨_, .settle released, w.shows.settle released, rfl, rfl, ?_⟩
  rw [← released]
  exact known

/-- A look for the release. Either it was in vain, and it was not the responder's turn, or the
course is at rest again. -/
theorem pollRelease_outline {status : Status} {responder : Responder}
    (phase : responder.phase = .signalled status) (standing : Standing .sub B A)
    (replied : ∀ c, A c → c.stage = .signalled ∨ c.stage = .released) :
    Outlined contract .sub B responder.pollRelease (At .sub A 1 R)
      fun result => At .sub (Released A responder result) pace R := by
  obtain ⟨_⟩ := responder
  cases phase
  refine (lookRelease_outline standing replied).bind ?_
  intro flag
  let waits : Program (Except LinkError Bool × Responder) := .done (.ok false, ⟨.signalled status⟩)
  show Outlined contract .sub B
    (if flag ≠ Opcode.none.code then waits
      else (Side.sub.setFlag Status.idle.code).bind fun _ => .done (.ok true, ⟨.waiting⟩)) _ _
  by_cases zero : flag = Opcode.none.code
  · rw [if_neg (not_not.mpr zero), if_pos zero]
    have settle : Outlined contract .sub B (Side.sub.setFlag Status.idle.code)
        (At .sub (fun c => A c ∧ (flag = Opcode.none.code → c.stage = .released)) 0 R)
        fun _ => At .sub (Released A ⟨.signalled status⟩ (.ok true, ⟨.waiting⟩)) pace R :=
      (settle_outline status standing).strengthen fun w h =>
        h.mono (fun c holds => ⟨holds.1, holds.2 zero⟩) (Nat.le_refl _)
    exact settle.bind fun _ => .done fun w h => h.mono (fun _ holds => holds) (Nat.le_refl _)
  · rw [if_pos zero, if_neg zero]
    exact .done fun w h => h.mono (fun c holds => ⟨rfl, holds.1⟩) (Nat.le_refl _)

end Handshake

end TwinDesk
