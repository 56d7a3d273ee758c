import TwinDesk.Proofs.Handshake.Initiator
import TwinDesk.Proofs.Link.Chip

/-!
# What an observer of the link sees

Whoever watches the registers of the chip sees every command that is answered: the flag of the Sub
processor turns from busy into a terminal status, while the Main processor still shows the opcode
and the parameters.

* `GateArray.exchange?` — the command that is answered between two states of the chip.
* `System.Observed` — runs, with everything that is seen of them.
* `exchange_of_moves` — what is seen is what has become of the handshake.
-/

namespace TwinDesk

open Handshake Relation

/-! ## Exchanges -/

/-- A command, and the status that it is answered with. -/
structure Exchange where
  request : Request
  status : Status
  deriving DecidableEq, Repr

/-- The command that is answered between two states of the chip, if there is one. -/
def GateArray.exchange? (before after : GateArray) : Option Exchange :=
  if before.flag .sub = Status.busy.code then
    (answered (after.flag .sub)).map (.mk ⟨before.flag .main, before.params⟩)
  else none

theorem GateArray.exchange?_of_same {before after : GateArray}
    (same : after.flag .sub = before.flag .sub) : before.exchange? after = none := by
  unfold exchange?
  split
  case isTrue busy =>
    rw [same, busy]
    rfl
  case isFalse => rfl

/-! ## Runs with an observer -/

namespace System

variable {M S : Type} {main : Role M} {sub : Role S} {start system : System M S}
  {log : List Exchange}

/-- The systems that some run leads to, with the exchanges that an observer has seen, oldest
first. -/
inductive Observed (main : Role M) (sub : Role S) (start : System M S) :
    System M S → List Exchange → Prop where
  | start : Observed main sub start start []
  | turn {system system' : System M S} {log : List Exchange}
    (observed : Observed main sub start system log) (turn : Turn main sub system system') :
    Observed main sub start system' (log ++ (system.chip.exchange? system'.chip).toList)

/-- Watching a run does not change it. -/
theorem Observed.run (observed : Observed main sub start system log) :
    ReflTransGen (Turn main sub) start system := by
  induction observed with
  | start => exact .refl
  | turn _ turn ih => exact ih.tail turn

theorem exists_observed (run : ReflTransGen (Turn main sub) start system) :
    ∃ log, Observed main sub start system log := by
  induction run with
  | refl => exact ⟨[], .start⟩
  | tail _ turn ih =>
    obtain ⟨log, observed⟩ := ih
    exact ⟨_, observed.turn turn⟩

/-- The assertions of both processors are upheld, and with them whatever every move keeps of the
exchanges so far. -/
theorem upheld_of_observed {rules : Rules} {betweenM readyM : M → rules.World → Prop}
    {betweenS readyS : S → rules.World → Prop} {Notes : List Exchange → rules.World → Prop}
    (upholdsM : rules.Upholds .main main betweenM readyM)
    (upholdsS : rules.Upholds .sub sub betweenS readyS)
    (hardware : ∀ w, (rules.chip w).swapPending = true →
      ∃ w', rules.chip w' = (rules.chip w).stepHardware.2 ∧ ∀ side, rules.Moves side w w')
    (notes : ∀ log side w w', rules.Moves side w w' → Notes log w →
      Notes (log ++ ((rules.chip w).exchange? (rules.chip w')).toList) w')
    (initially : ∃ w, Notes [] w ∧ rules.chip w = start.chip ∧
      rules.InForce .main betweenM readyM start.main w ∧
      rules.InForce .sub betweenS readyS start.sub w)
    (observed : Observed main sub start system log) :
    ∃ w, Notes log w ∧ rules.chip w = system.chip ∧
      rules.InForce .main betweenM readyM system.main w ∧
      rules.InForce .sub betweenS readyS system.sub w := by
  induction observed with
  | start => exact initially
  | @turn _ _ log _ turn ih =>
    obtain ⟨w, noted, chip, inForceM, inForceS⟩ := ih
    obtain ⟨w', moved, chip', inForce⟩ :=
      moved_of_turn upholdsM upholdsS hardware chip inForceM inForceS turn
    rw [← chip, ← chip']
    refine ⟨w', ?_, rfl, inForce⟩
    rcases moved with same | ⟨side, move⟩
    · -- a call that begins is no bus cycle, so nothing is seen of it
      rw [same, GateArray.exchange?_of_same rfl, Option.toList_none, List.append_nil]
      exact noted
    · exact notes log side w w' move noted

end System

/-! ## Exchanges of a handshake -/

namespace Handshake

variable {contract : Contract} {side : Side} {w w' : World contract}

/-- The Sub processor is busy from the moment it takes a command up until it answers it. -/
theorem flag_sub_eq_busy_iff (w : World contract) :
    w.chip.flag .sub = Status.busy.code ↔ w.course.stage = .acked := by
  rw [w.shows.flag]
  constructor
  · intro busy
    by_cases shown : w.course.stage = .signalled ∨ w.course.stage = .released
    · obtain ⟨status, flag, terminal, -⟩ := flag_sub_of_shown w shown
      rw [flag] at busy
      cases status with
      | done => cases busy
      | error => cases busy
      | _ => cases terminal
    · cases stage : w.course.stage with
      | acked => rfl
      | signalled => exact absurd (.inl stage) shown
      | released => exact absurd (.inr stage) shown
      | _ =>
        rw [Course.flag, stage] at busy
        cases busy
  · intro acked
    rw [Course.flag, acked]

/-- What is seen when the last request is answered. -/
theorem exchange_of_signal {reply : Reply} (acked : w.course.stage = .acked)
    (signalled : w'.course = ⟨.signalled, w.course.requests, w.course.replies ++ [reply]⟩) :
    ∃ request, w.chip.exchange? w'.chip = some ⟨request, reply.status⟩ ∧
      w'.course.answered = w.course.answered ++ [request] ∧
      contract.Answers w'.course.requests reply := by
  have begun := w.shows.begun (by rw [acked]; decide)
  obtain ⟨earlier, request, all⟩ : ∃ earlier request, w.course.requests = earlier ++ [request] :=
    ⟨_, _, (List.dropLast_concat_getLast begun).symm⟩
  have last : w.course.requests.getLast? = some request := by
    rw [all]
    exact List.getLast?_concat
  have shows := w'.shows
  rw [signalled] at shows ⊢
  obtain ⟨terminal, -, answers⟩ := shows.reply rfl reply List.getLast?_concat
  refine ⟨request, ?_, ?_, answers⟩
  · have flag : w.chip.flag .main = request.opcode := by
      rw [w.shows.flag, Course.flag, acked, last]
      rfl
    have params : w.chip.params = request.params :=
      (w.shows.request (by rw [acked]; rfl) _ last).2
    have status : answered (w'.chip.flag .sub) = some reply.status := by
      rw [shows.flag, Course.flag, List.getLast?_concat]
      show (Status.ofCode? reply.status.code).filter _ = _
      rw [Status.ofCode?_eq_some_iff.mpr rfl]
      exact if_pos terminal
    rw [GateArray.exchange?, if_pos ((flag_sub_eq_busy_iff w).mpr acked), status, flag, params]
    rfl
  · have count := w.shows.count
    rw [acked, all, List.length_append, List.length_singleton] at count
    have even : earlier.length = w.course.replies.length := Nat.add_right_cancel count
    have whole : (earlier ++ [request]).take (earlier.length + 1) = earlier ++ [request] :=
      List.take_of_length_le (by simp)
    simp [Course.answered, all, ← even, whole]

/-- What is seen of a move: nothing, and then no request is answered; or the last request is
answered, as the contract allows for. -/
theorem exchange_of_moves (move : (handshake contract).Moves side w w') :
    (w.chip.exchange? w'.chip = none ∧ w'.course.answered = w.course.answered) ∨
    ∃ request reply, w.chip.exchange? w'.chip = some ⟨request, reply.status⟩ ∧
      w'.course.answered = w.course.answered ++ [request] ∧
      contract.Answers w'.course.requests reply := by
  have unseen (other : w.course.stage ≠ .acked) : w.chip.exchange? w'.chip = none :=
    if_neg fun busy => other ((flag_sub_eq_busy_iff w).mp busy)
  obtain ⟨-, lingers | advances⟩ := move
  · refine .inl ⟨GateArray.exchange?_of_same ?_, by rw [lingers.course]⟩
    rw [w.shows.flag, w'.shows.flag, lingers.course]
  · have step := advances.step
    generalize after : w'.course = c' at step
    cases step with
    | post request rest =>
      have count := w.shows.count
      rw [rest] at count
      refine .inl ⟨unseen (by rw [rest]; decide), ?_⟩
      exact List.take_append_of_le_length (Nat.le_of_eq count.symm)
    | ack posted => exact .inl ⟨unseen (by rw [posted]; decide), rfl⟩
    | signal reply acked =>
      obtain ⟨request, seen⟩ := exchange_of_signal acked after
      rw [after] at seen
      exact .inr ⟨request, reply, seen⟩
    | release signalled => exact .inl ⟨unseen (by rw [signalled]; decide), rfl⟩
    | settle released => exact .inl ⟨unseen (by rw [released]; decide), rfl⟩

end Handshake

end TwinDesk
