import TwinDesk.Proofs.Checked
import TwinDesk.Proofs.Link.Outline

/-!
# Two programs on one chip

The two processors run a program each. A schedule says whose turn it is; under a fair one both
have their turn again and again.

* `Duo.step_upheld` — a turn succeeds and keeps the outlines of both programs.
* `Duo.ends_of_fair` — where the rules bound how long the processors may dawdle, both programs end
  under every fair schedule, and their outlines say how.
-/

namespace TwinDesk

/-- A program on either side of a chip. -/
structure Duo (α β : Type) : Type 1 where
  chip : GateArray
  main : Program α
  sub : Program β

namespace Duo

variable {α β : Type}

/-- One turn of a side: a step of its program. -/
def step (duo : Duo α β) : Side → Except Fault (Duo α β)
  | .main => (duo.main.step .main duo.chip).map fun (main, chip) => { duo with main, chip }
  | .sub => (duo.sub.step .sub duo.chip).map fun (sub, chip) => { duo with sub, chip }

/-- The first `n` turns of a schedule. -/
def run (schedule : Nat → Side) (duo : Duo α β) : Nat → Except Fault (Duo α β)
  | 0 => .ok duo
  | n + 1 => (duo.step (schedule 0)).bind fun duo => duo.run (fun k => schedule (k + 1)) n

/-- Each side has its turn again and again. -/
def Fair (schedule : Nat → Side) : Prop :=
  ∀ side n, ∃ k, schedule (n + k) = side

/-- From some turn on both programs have ended, without any fault before, with the values `a` and
`b` and the chip as `chip`. -/
def EndsWith (schedule : Nat → Side) (duo : Duo α β) (chip : GateArray) (a : α) (b : β) : Prop :=
  ∃ enough, ∀ n, enough ≤ n → duo.run schedule n = .ok ⟨chip, .done a, .done b⟩

/-- The Main processor has every even turn, the Sub processor every odd one. -/
def inTurn (n : Nat) : Side :=
  if n % 2 = 0 then .main else .sub

theorem fair_inTurn : Fair inTurn := by
  intro side n
  cases side with
  | main => exact ⟨n % 2, if_pos (by omega)⟩
  | sub => exact ⟨(n + 1) % 2, if_neg (by omega)⟩

theorem Fair.tail {schedule : Nat → Side} (fair : Fair schedule) :
    Fair fun n => schedule (n + 1) := by
  intro side n
  obtain ⟨k, eq⟩ := fair side (n + 1)
  rw [Nat.add_right_comm] at eq
  exact ⟨k, eq⟩

theorem run_done (schedule : Nat → Side) (chip : GateArray) (a : α) (b : β) (n : Nat) :
    run schedule ⟨chip, .done a, .done b⟩ n = .ok ⟨chip, .done a, .done b⟩ := by
  induction n generalizing schedule with
  | zero => rfl
  | succ n ih =>
    show ((step _ (schedule 0)).bind _) = _
    cases schedule 0 <;> exact ih _

theorem EndsWith.of_step {schedule : Nat → Side} {duo duo' : Duo α β} {chip : GateArray} {a : α}
    {b : β} (eq : duo.step (schedule 0) = .ok duo')
    (ends : EndsWith (fun n => schedule (n + 1)) duo' chip a b) :
    EndsWith schedule duo chip a b := by
  obtain ⟨enough, h⟩ := ends
  refine ⟨enough + 1, fun n le => ?_⟩
  obtain ⟨n, rfl⟩ := Nat.exists_eq_add_of_le' (Nat.le_trans (Nat.le_add_left 1 enough) le)
  show (duo.step (schedule 0)).bind _ = _
  rw [eq]
  exact h n (by omega)

/-! ## Outlines of both programs -/

variable {rules : Rules} {QM : α → rules.World → Prop} {QS : β → rules.World → Prop}

/-- Both programs have an outline ahead of them. -/
structure Upheld (rules : Rules) (QM : α → rules.World → Prop) (QS : β → rules.World → Prop)
    (duo : Duo α β) (w : rules.World) : Prop where
  chip : rules.chip w = duo.chip
  main : Rules.Ahead .main (fun _ => True) duo.main QM w
  sub : Rules.Ahead .sub (fun _ => True) duo.sub QS w

/-- A move of the other side leaves a program ahead, whether it has ended or not. -/
theorem ahead_moved {γ : Type} {side : Side} {p : Program γ} {Q : γ → rules.World → Prop}
    {w w' : rules.World} (stable : ∀ value, rules.Stable side (Q value))
    (ahead : Rules.Ahead side (fun _ => True) p Q w) (move : rules.Moves side.peer w w') :
    Rules.Ahead side (fun _ => True) p Q w' := by
  cases ended : p.value? with
  | none => exact ahead.moved ended move
  | some value =>
    obtain rfl := Program.eq_done_of_value? ended
    exact .of_outline (.done fun _ h => h) (stable value move ahead.finished)

/-- The program of a side has not ended. -/
def Running (duo : Duo α β) : Side → Prop
  | .main => duo.main.value? = none
  | .sub => duo.sub.value? = none

/-- A turn of a program that has not ended is a move and keeps both outlines. -/
theorem step_upheld (stableM : ∀ value, rules.Stable .main (QM value))
    (stableS : ∀ value, rules.Stable .sub (QS value)) {duo : Duo α β} {w : rules.World}
    (upheld : Upheld rules QM QS duo w) {side : Side} (running : duo.Running side) :
    ∃ duo' w', duo.step side = .ok duo' ∧ rules.Moves side w w' ∧ Upheld rules QM QS duo' w' := by
  obtain ⟨chip, main, sub⟩ := upheld
  cases side with
  | main =>
    obtain ⟨p', w', eq, move, ahead⟩ := main.step running
    refine ⟨⟨rules.chip w', p', duo.sub⟩, w', ?_, move, rfl, ahead, ahead_moved stableS sub move⟩
    rw [step, ← chip, eq]
    rfl
  | sub =>
    obtain ⟨p', w', eq, move, ahead⟩ := sub.step running
    refine ⟨⟨rules.chip w', duo.main, p'⟩, w', ?_, move, rfl, ahead_moved stableM main move, ahead⟩
    rw [step, ← chip, eq]
    rfl

/-- A program that has ended does nothing in its turn. -/
theorem step_ended {duo : Duo α β} {side : Side} (ended : ¬ duo.Running side) :
    duo.step side = .ok duo := by
  obtain ⟨chip, main, sub⟩ := duo
  cases side with
  | main =>
    cases value : main.value? with
    | none => exact absurd value ended
    | some a =>
      obtain rfl := Program.eq_done_of_value? value
      rfl
  | sub =>
    cases value : sub.value? with
    | none => exact absurd value ended
    | some b =>
      obtain rfl := Program.eq_done_of_value? value
      rfl

/-- A turn of one side leaves the program of the other side alone. -/
theorem running_of_step {duo duo' : Duo α β} {side other : Side} (ne : side ≠ other)
    (eq : duo.step side = .ok duo') (running : duo.Running other) : duo'.Running other := by
  cases side with
  | main =>
    obtain ⟨next, -, rfl⟩ := Checked.map_eq_ok_iff.mp eq
    cases other with
    | main => exact absurd rfl ne
    | sub => exact running
  | sub =>
    obtain ⟨next, -, rfl⟩ := Checked.map_eq_ok_iff.mp eq
    cases other with
    | main => exact running
    | sub => exact absurd rfl ne

/-! ## Ending under fair schedules -/

/-- Rules that bound how long the processors may dawdle: `left` counts what is left to do. A move
of a side that is due makes it less, and any other move either does so as well or leaves it and
those who are due as they are. -/
structure Pressing (rules : Rules) where
  left : rules.World → Nat
  Due : Side → rules.World → Prop
  moves : ∀ ⦃side w w'⦄, rules.Moves side w w' → left w' < left w ∨
    (¬ Due side w ∧ left w' = left w ∧ ∀ side, Due side w → Due side w')
  somebody : ∀ w, ∃ side, Due side w

/-- The programs end as their outlines promise. -/
def EndsWell (rules : Rules) (QM : α → rules.World → Prop) (QS : β → rules.World → Prop)
    (schedule : Nat → Side) (duo : Duo α β) : Prop :=
  ∃ a b w, EndsWith schedule duo (rules.chip w) a b ∧ QM a w ∧ QS b w

theorem EndsWell.of_step {schedule : Nat → Side} {duo duo' : Duo α β}
    (eq : duo.step (schedule 0) = .ok duo')
    (ends : EndsWell rules QM QS (fun n => schedule (n + 1)) duo') :
    EndsWell rules QM QS schedule duo := by
  obtain ⟨a, b, w, ends, rest⟩ := ends
  exact ⟨a, b, w, .of_step eq ends, rest⟩

section

variable (pressing : Pressing rules) (stableM : ∀ value, rules.Stable .main (QM value))
  (stableS : ∀ value, rules.Stable .sub (QS value))
include stableM stableS

/-- Sooner or later a side that is due has its turn; until then either less is left to do, or
nothing changes. -/
theorem ends_of_due {side : Side} {left : Nat}
    (less : ∀ {schedule : Nat → Side} {duo : Duo α β} {w : rules.World},
      Upheld rules QM QS duo w → Fair schedule → pressing.left w < left →
      EndsWell rules QM QS schedule duo)
    (wait : Nat) {schedule : Nat → Side} {duo : Duo α β} {w : rules.World}
    (upheld : Upheld rules QM QS duo w) (fair : Fair schedule) (running : duo.Running side)
    (due : pressing.Due side w) (turn : schedule wait = side) (same : pressing.left w = left) :
    EndsWell rules QM QS schedule duo := by
  -- on the turns until the side that is due has its own; it stays due as long as nothing gets less
  induction wait generalizing schedule duo w with
  | zero =>
    obtain ⟨duo', w', eq, move, upheld'⟩ := step_upheld stableM stableS upheld running
    rw [← turn] at eq
    rcases pressing.moves move with fewer | ⟨rested, -⟩
    · exact .of_step eq (less upheld' fair.tail (same ▸ fewer))
    · exact absurd due rested
  | succ wait ih =>
    by_cases first : duo.Running (schedule 0)
    · obtain ⟨duo', w', eq, move, upheld'⟩ := step_upheld stableM stableS upheld first
      rcases pressing.moves move with fewer | ⟨rested, still, dues⟩
      · exact .of_step eq (less upheld' fair.tail (same ▸ fewer))
      · have ne : schedule 0 ≠ side := by
          rintro rfl
          exact rested due
        exact .of_step eq (ih upheld' fair.tail (running_of_step ne eq running) (dues side due)
          turn (still.trans same))
    · exact .of_step (step_ended first) (ih upheld fair.tail running due turn same)

/-- Under a fair schedule both programs end as their outlines promise, if a side that has ended
leaves the other one due. -/
theorem ends_of_fair (dueSub : ∀ a w, QM a w → pressing.Due .sub w)
    (dueMain : ∀ b w, QS b w → pressing.Due .main w) {schedule : Nat → Side}
    (fair : Fair schedule) {duo : Duo α β} {w : rules.World}
    (upheld : Upheld rules QM QS duo w) : EndsWell rules QM QS schedule duo := by
  -- on what is left to do; the schedule is a different one after every turn
  induction same : pressing.left w using Nat.strongRecOn generalizing schedule duo w with
  | _ left ih =>
    have less {schedule : Nat → Side} {duo : Duo α β} {w : rules.World}
        (upheld : Upheld rules QM QS duo w) (fair : Fair schedule)
        (fewer : pressing.left w < left) : EndsWell rules QM QS schedule duo :=
      ih _ fewer fair upheld rfl
    have go (side : Side) (running : duo.Running side) (due : pressing.Due side w) :
        EndsWell rules QM QS schedule duo := by
      obtain ⟨wait, turn⟩ := fair side 0
      exact ends_of_due pressing stableM stableS less _ upheld fair running due turn same
    cases endedM : duo.main.value? with
    | none =>
      cases endedS : duo.sub.value? with
      | none =>
        obtain ⟨side, due⟩ := pressing.somebody w
        cases side
        · exact go .main endedM due
        · exact go .sub endedS due
      | some b =>
        have ahead := upheld.sub
        rw [Program.eq_done_of_value? endedS] at ahead
        exact go .main endedM (dueMain b w ahead.finished)
    | some a =>
      have aheadM := upheld.main
      rw [Program.eq_done_of_value? endedM] at aheadM
      cases endedS : duo.sub.value? with
      | none => exact go .sub endedS (dueSub a w aheadM.finished)
      | some b =>
        have aheadS := upheld.sub
        rw [Program.eq_done_of_value? endedS] at aheadS
        obtain ⟨chip, main, sub⟩ := duo
        obtain rfl := Program.eq_done_of_value? endedM
        obtain rfl := Program.eq_done_of_value? endedS
        obtain rfl : rules.chip w = chip := upheld.chip
        exact ⟨a, b, w, ⟨0, fun n _ => run_done schedule _ a b n⟩, aheadM.finished,
          aheadS.finished⟩

end

end Duo

end TwinDesk
