import TwinDesk.Proofs.Handshake.Exchange
import TwinDesk.Proofs.Handshake.ExactlyOnce
import TwinDesk.Proofs.Link.Cycles

/-!
# Standing still

Every step of the course shows in the flag of the processor that takes it. So a program that writes
neither of the flags leaves the course where it is, and what is known of the course at its start is
known between any two of its bus cycles.

* `Advances.flag_ne` — a step changes the flag of its mover.
* `Triple.still` — the course stands still under a program off the flags.
-/

namespace TwinDesk

open Program

namespace Handshake

variable {contract : Contract} {side : Side} {w w' : World contract}

/-- A step of the course changes the flag of the processor that takes it. -/
theorem Advances.flag_ne (advances : Advances side w w') :
    w'.chip.flag side ≠ w.chip.flag side := by
  rw [w'.shows.flag, w.shows.flag]
  have step := advances.step
  generalize before : w.course = c at step
  generalize after : w'.course = c' at step
  cases step with
  | post request rest =>
    obtain ⟨raised, -⟩ := flag_main_of_raised w' (by rw [after]; rfl)
    rw [after] at raised
    intro same
    rw [same, Course.flag, rest] at raised
    exact raised rfl
  | release signalled =>
    obtain ⟨raised, -⟩ := flag_main_of_raised w (by rw [before, signalled]; rfl)
    rw [before] at raised
    exact fun same => raised same.symm
  | ack posted =>
    have idle : c.flag .sub = Status.idle.code := by rw [Course.flag, posted]
    rw [idle]
    show Status.busy.code ≠ Status.idle.code
    decide
  | signal reply acked =>
    obtain ⟨status, flag, terminal, -⟩ := flag_sub_of_shown w' (.inl (by rw [after]))
    have busy : c.flag .sub = Status.busy.code := by rw [Course.flag, acked]
    rw [after] at flag
    rw [flag, busy]
    cases status with
    | done | error => decide
    | _ => cases terminal
  | settle released =>
    obtain ⟨status, flag, terminal, -⟩ := flag_sub_of_shown w (.inr (by rw [before, released]))
    rw [before] at flag
    rw [flag]
    exact (code_ne_idle terminal).symm

/-- A move that leaves the flags alone leaves the course alone. -/
theorem course_of_flags (move : (handshake contract).Moves side w w')
    (flags : ∀ owner, w'.chip.flag owner = w.chip.flag owner) : w'.course = w.course := by
  obtain ⟨-, lingers | advances⟩ := move
  · exact lingers.course
  · exact absurd (flags side) advances.flag_ne

/-- What is known of the course before a program off the flags is known all along. -/
theorem Triple.still {α : Type} {A : Course → Prop} (outlasts : Outlasts side A) {p : Program α}
    {P : World contract → Prop} {Q : α → World contract → Prop} (uses : p.Uses Access.OffFlags)
    (outline : Triple contract side p P Q) :
    Outlined contract side A p (fun w => P w ∧ A w.course)
      fun value w => Q value w ∧ A w.course := by
  have both {R : World contract → Prop}
      (rests : (handshake contract).Rests side (fun _ => True) R) :
      (handshake contract).Rests side (fun w => A w.course) fun w => R w ∧ A w.course := by
    have standing : Standing side A A := ⟨outlasts, fun _ h => h⟩
    exact ⟨rests.stable.and fun _ _ move known => standing.kept move known, fun w h => h.2⟩
  induction p generalizing P with
  | done value => exact fun w h => ⟨outline w h.1, h.2⟩
  | fault e => exact fun w h => outline w h.1
  | access a next ih =>
    obtain ⟨before, after, enter, rests, performs, rest⟩ := outline
    refine ⟨fun w => before w ∧ A w.course, fun answer w => after answer w ∧ A w.course,
      fun w h => ⟨enter w h.1, h.2⟩, both rests, ?_,
      fun answer => ih answer (uses.2 answer) (rest answer)⟩
    intro w h
    obtain ⟨answer, w', eq, move, post⟩ := performs w h.1
    have same := course_of_flags move (w.chip.flag_of_offFlags uses.1 eq)
    exact ⟨answer, w', eq, move, post, same ▸ h.2⟩
  | spin body start next ihBody ih =>
    obtain ⟨head, inside, result, enter, rests, passes, around, rest⟩ := outline
    refine ⟨fun state w => head state w ∧ A w.course, fun state w => inside state w ∧ A w.course,
      fun value w => result value w ∧ A w.course, fun w h => ⟨enter w h.1, h.2⟩,
      fun state => both (rests state), ?_, fun state => ?_,
      fun value => ih value (uses.2 value) (rest value)⟩
    · intro state w h
      obtain ⟨w', chip, move, post⟩ := passes state w h.1
      have same := course_of_flags move fun owner => congrArg (GateArray.flag · owner) chip
      exact ⟨w', chip, move, post, same ▸ h.2⟩
    · refine (ihBody state (uses.1 state) (around state)).weaken (fun _ h => h) ?_
      rintro (state | value) w h
      · exact h
      · exact h

end Handshake

end TwinDesk
