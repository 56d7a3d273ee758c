import TwinDesk.Proofs.Sub.Execution
import TwinDesk.Proofs.Sub.Service

/-!
# Carrying any request out

A request is an opcode byte with four parameter words, and the byte need not be the code of an
opcode. How the dispatcher carries it out splits into three cases: bytes without a meaning, commands
without a bank, and commands with one.

* `Dispatcher.carryOut` — carrying a request out, with a note of the command that it was.
* `Carries` — the three cases, for an invariant of the dispatcher and what is agreed upon.
* `Carries.executes` — together they cover every request.
-/

namespace TwinDesk

open Handshake Program

namespace Dispatcher

variable {R : Type} [Painter R]

/-- Carries out the acknowledged command, and tells which command that was; a byte without a meaning
is none. -/
def carryOut (d : Dispatcher R) (raw : UInt8) :
    Program (Option (Opcode × Params) × Status × Dispatcher R) := do
  match Opcode.ofCode? raw with
  | none => return (none, .error, d)
  | some opcode =>
    let params ← SubRegisters.readParams
    let result ← d.perform opcode params
    return (some (opcode, params), result)

theorem execute_eq (d : Dispatcher R) (raw : UInt8) :
    d.execute raw = (d.carryOut raw).bind fun carried => .done carried.2 := by
  unfold execute carryOut
  cases Opcode.ofCode? raw with
  | none => rfl
  | some opcode =>
    show SubRegisters.readParams.bind _ = (SubRegisters.readParams.bind _).bind _
    rw [bind_assoc]
    congr 1
    funext params
    exact ((bind_assoc _ _ _).trans (bind_done _)).symm

theorem carryOut_offFlags (d : Dispatcher R) (raw : UInt8) :
    (d.carryOut raw).Uses Access.OffFlags := by
  unfold carryOut
  split
  · trivial
  · exact SubRegisters.readParams_offFlags.bind fun params =>
      (d.perform_offFlags _ params).bind fun _ => trivial

theorem carryOut_answered (d : Dispatcher R) (raw : UInt8) :
    (d.carryOut raw).Returns fun carried =>
      carried.2.1.isTerminal = true ∧ d.SameLink carried.2.2 := by
  unfold carryOut
  split
  · exact ⟨rfl, rfl, rfl⟩
  · exact .after fun params => (d.perform_answered _ params).bind fun _ answered => answered

theorem carryOut_unreleased (d : Dispatcher R) (raw : UInt8) :
    (d.carryOut raw).Returns fun carried => carried.2.2.unreleased = d.unreleased :=
  (d.carryOut_answered raw).mono fun _ answered => answered.2.unreleased

end Dispatcher

namespace Handshake

variable {R : Type} [Painter R] {contract : Contract} {W : GateArray.Workspace → Prop}
  {I : List Request → Dispatcher R → Prop}

/-- How a request ends: it is answered as agreed, and the invariant speaks of it too. -/
def Ended (contract : Contract) (W : GateArray.Workspace → Prop)
    (I : List Request → Dispatcher R → Prop) (requests : List Request) (replies : List Reply)
    (request : Request) (responder : Responder) (result : Status × Dispatcher R)
    (w : World contract) : Prop :=
  result.1.isTerminal = true ∧ result.2.responder = responder ∧ I (requests ++ [request]) result.2 ∧
    At .sub (Handling .acked requests replies request) 0
      (fun own => W own ∧ contract.Answers (requests ++ [request]) ⟨result.1, own.results⟩) w

/-- The dispatcher carries every permitted request out and keeps the invariant. -/
structure Carries (contract : Contract) (W : GateArray.Workspace → Prop)
    (I : List Request → Dispatcher R → Prop) : Prop where
  /-- The invariant does not speak of the responder. -/
  indifferent : ∀ {requests : List Request} {d : Dispatcher R} (responder : Responder),
    I requests d → I requests { d with responder }
  /-- What is relied on does not speak of the result words. -/
  results : ∀ own results, W own → W { own with results }
  sound : ∀ {requests : List Request} {d : Dispatcher R}, I requests d → d.desktop.Sound
  unknown : ∀ {requests : List Request} {d : Dispatcher R} {request : Request},
    Opcode.ofCode? request.opcode = none → contract.Permits request → I requests d →
      I (requests ++ [request]) d ∧
        ∀ words, contract.Answers (requests ++ [request]) ⟨.error, words⟩
  plain : ∀ {requests : List Request} {d d' : Dispatcher R} {opcode : Opcode} {params : Params}
    {status : Status} {word : Option UInt16}, Dispatcher.usesBank opcode = false →
    contract.Permits ⟨opcode.code, params⟩ → I requests d →
    d.effect params opcode = .ok (status, word, d') →
      I (requests ++ [⟨opcode.code, params⟩]) d' ∧
        ∀ words : Results, (∀ value ∈ word, words.first = value) →
          contract.Answers (requests ++ [⟨opcode.code, params⟩]) ⟨status, words⟩
  bank : ∀ {requests : List Request} {replies : List Reply} {d : Dispatcher R} {opcode : Opcode}
    {params : Params}, Dispatcher.usesBank opcode = true →
    contract.Permits ⟨opcode.code, params⟩ → I requests d →
    Triple contract .sub (d.perform opcode params)
      (At .sub (Handling .acked requests replies ⟨opcode.code, params⟩) 60 W)
      (Ended contract W I requests replies ⟨opcode.code, params⟩ d.responder)

/-- A command without a bank is carried out by its effect. -/
theorem Carries.plain_outline (carries : Carries contract W I) {requests : List Request}
    {replies : List Reply} {d : Dispatcher R} {opcode : Opcode} {params : Params}
    (plain : Dispatcher.usesBank opcode = false) (permits : contract.Permits ⟨opcode.code, params⟩)
    (holds : I requests d) :
    Triple contract .sub (d.perform opcode params)
      (At .sub (Handling .acked requests replies ⟨opcode.code, params⟩) 60 W)
      (Ended contract W I requests replies ⟨opcode.code, params⟩ d.responder) := by
  obtain ⟨⟨status, word, d'⟩, eq, terminal, sound, responder⟩ :=
    d.effect_yields params (carries.sound holds) opcode
  obtain ⟨next, answers⟩ := carries.plain plain permits holds eq
  have acked (c : Course) (h : Handling .acked requests replies ⟨opcode.code, params⟩ c) :
      c.stage = .acked := h.stage
  rw [d.perform_eq params plain, eq]
  refine (publish_outline acked carries.results word).bind fun _ => .done ?_
  intro w h
  refine ⟨terminal, responder, next, h.weaken (fun holds => holds) (Nat.zero_le 59) ?_⟩
  exact fun own known => ⟨known.1, answers _ known.2⟩

/-- Whatever request comes, the dispatcher carries it out and knows which command it was. -/
theorem Carries.carryOut_outline (carries : Carries contract W I) {requests : List Request}
    {replies : List Reply} {raw : UInt8} {d : Dispatcher R} (phase : d.responder = ⟨.acked raw⟩)
    (holds : I requests d) :
    Triple contract .sub (d.carryOut raw) (At .sub (Unread .acked requests replies raw) pace W)
      fun carried w => ∃ params, carried.1 = (Opcode.ofCode? raw).map (·, params) ∧
        Ended contract W I requests replies ⟨raw, params⟩ ⟨.acked raw⟩ carried.2 w := by
  -- the parameters lie in their registers already, and are read only after the opcode is known
  have split : ∀ w : World contract, At .sub (Unread .acked requests replies raw) pace W w →
      ∃ params, contract.Permits ⟨raw, params⟩ ∧
        At .sub (Handling .acked requests replies ⟨raw, params⟩) pace W w := by
    intro w h
    obtain ⟨params, handling⟩ := h.course
    refine ⟨params, w.shows.permitted _ ?_, handling, h.room, h.own⟩
    rw [handling.asked]
    exact List.mem_concat_self
  refine Rules.Outline.strengthen (.of_exists fun params => .assuming fun permits => ?_) split
  have acked (c : Course) (h : Handling .acked requests replies ⟨raw, params⟩ c) :
      c.stage = .acked := h.stage
  unfold Dispatcher.carryOut
  cases known : Opcode.ofCode? raw with
  | none =>
    obtain ⟨next, answers⟩ := carries.unknown known permits holds
    exact .done fun w h => ⟨params, rfl, rfl, phase, next, h.weaken (fun holds => holds)
      (Nat.zero_le _) fun own known => ⟨known, answers _⟩⟩
  | some opcode =>
    obtain rfl := Opcode.ofCode?_eq_some_iff.mp known
    have read : Triple contract .sub SubRegisters.readParams
        (At .sub (Handling .acked requests replies ⟨opcode.code, params⟩) (60 + 4) W) _ :=
      readParams_outline (handling_standing rfl fun _ _ => trivial) acked
    refine read.bind ?_
    intro params'
    have same : ∀ w : World contract,
        At .sub (Reading (Handling .acked requests replies ⟨opcode.code, params⟩) (· = params'))
          60 W w →
        params = params' ∧
          At .sub (Handling .acked requests replies ⟨opcode.code, params⟩) 60 W w := by
      intro w h
      obtain ⟨handling, last⟩ := h.course
      refine ⟨last ⟨opcode.code, params⟩ ?_, handling, h.room, h.own⟩
      rw [handling.asked]
      exact List.getLast?_concat
    refine Rules.Outline.strengthen (.assuming fun same => ?_) same
    subst same
    have perform : Triple contract .sub (d.perform opcode params)
        (At .sub (Handling .acked requests replies ⟨opcode.code, params⟩) 60 W)
        (Ended contract W I requests replies ⟨opcode.code, params⟩ d.responder) := by
      cases bank : Dispatcher.usesBank opcode with
      | true => exact carries.bank bank permits holds
      | false => exact carries.plain_outline bank permits holds
    rw [phase] at perform
    exact perform.bind fun result => .done fun w ended => ⟨params, rfl, ended⟩

/-- The dispatcher carries out whatever request comes. -/
theorem Carries.executes (carries : Carries contract W I) : Executes contract W I where
  indifferent := carries.indifferent
  execute requests replies raw d phase holds := by
    rw [d.execute_eq]
    exact (carries.carryOut_outline phase holds).bind fun carried =>
      .done fun w ⟨params, _, ended⟩ => ⟨params, ended⟩

end Handshake

end TwinDesk
