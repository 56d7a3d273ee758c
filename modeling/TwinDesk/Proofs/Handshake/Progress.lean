import TwinDesk.Proofs.Handshake.World
import TwinDesk.Proofs.Link.Interleaving

/-!
# Progress of a handshake

Where the number of commands is settled, a handshake cannot go on forever: the course takes five
steps for every command, and a processor that is due takes the next step within `pace` bus cycles.

* `Course.Step.reached` — every step of the cycle counts.
* `pressing` — the rules of the link bound what is left to do.
-/

namespace TwinDesk.Handshake

variable {contract : Contract}

/-- How many steps of the cycle the course has behind it, counted from two before the first. -/
def Course.reached (c : Course) : Nat :=
  5 * c.replies.length +
    match c.stage with
    | .signalled => 0
    | .released => 1
    | .rest => 2
    | .posted => 3
    | .acked => 4

theorem Course.Step.reached {side : Side} {c c' : Course} (step : Course.Step side c c') :
    c'.reached = c.reached + 1 := by
  cases step with
  | signal reply stage => simp [Course.reached, stage, Nat.mul_add]
  | post _ stage => simp [Course.reached, stage]
  | ack stage => simp [Course.reached, stage]
  | release stage => simp [Course.reached, stage]
  | settle stage => simp [Course.reached, stage]

theorem reached_le (w : World contract) {limit : Nat} (settled : contract.limit = some limit) :
    w.course.reached ≤ 5 * limit + 2 := by
  have count := w.shows.count
  have bound := w.shows.limit limit settled
  unfold Course.reached
  cases stage : w.course.stage <;> simp only [stage, Stage.isOpen] at count ⊢ <;> grind

/-- The processor whose turn it is, is due. -/
theorem due_mover {limit : Nat} (settled : contract.limit = some limit) (c : Course) :
    Due contract c.stage.mover c :=
  ⟨limit, settled, .inl rfl⟩

/-- Once all commands are through, both processors are due. -/
theorem due_of_through {limit : Nat} (settled : contract.limit = some limit) {c : Course}
    (rest : c.stage = .rest) (all : c.requests.length = limit) (side : Side) :
    Due contract side c :=
  ⟨limit, settled, .inr ⟨rest, all⟩⟩

/-- What is left to do: the steps of the cycle first, and then the cycles that each side may still
let pass at the present one. -/
def left (limit : Nat) (w : World contract) : Nat :=
  (5 * limit + 2 - w.course.reached) * (2 * pace + 1) + (pace - w.waited .main) +
    (pace - w.waited .sub)

theorem left_of_advances {limit : Nat} (settled : contract.limit = some limit) {side : Side}
    {w w' : World contract} (advances : Advances side w w') : left limit w' < left limit w := by
  have step := advances.step.reached
  have bound := reached_le w' settled
  obtain ⟨more, eq⟩ := Nat.exists_eq_add_of_le bound
  -- a step of the cycle outweighs both counts, which start again
  unfold left
  rw [advances.waited .main, advances.waited .sub]
  have before : 5 * limit + 2 - w.course.reached = more + 1 := by omega
  have after : 5 * limit + 2 - w'.course.reached = more := by omega
  rw [before, after, Nat.add_mul]
  omega

open Classical in
theorem left_of_lingers {limit : Nat} {side : Side} {w w' : World contract}
    (lingers : Lingers side w w') :
    left limit w' < left limit w ∨
      (¬ Due contract side w.course ∧ left limit w' = left limit w) := by
  have own := w'.paced side
  have peer := lingers.peer
  by_cases due : Due contract side w.course
  · left
    have waited := lingers.own due
    unfold Handshake.left
    rw [lingers.course]
    cases side with
    | main =>
      change w'.waited .sub = w.waited .sub at peer
      omega
    | sub =>
      change w'.waited .main = w.waited .main at peer
      omega
  · right
    have same : w'.waited side = w.waited side := by
      rw [w.unhurried side due, w'.unhurried side (lingers.course ▸ due)]
    refine ⟨due, ?_⟩
    unfold Handshake.left
    rw [lingers.course]
    cases side with
    | main =>
      change w'.waited .sub = w.waited .sub at peer
      rw [same, peer]
    | sub =>
      change w'.waited .main = w.waited .main at peer
      rw [same, peer]

/-- The rules of the link bound what is left to do. -/
def pressing {limit : Nat} (settled : contract.limit = some limit) :
    Duo.Pressing (handshake contract) where
  left := left limit
  Due side w := Due contract side w.course
  moves side w w' move := by
    obtain ⟨-, lingers | advances⟩ := move
    · rcases left_of_lingers lingers with fewer | ⟨rested, same⟩
      · exact .inl fewer
      · exact .inr ⟨rested, same, fun side due => lingers.course ▸ due⟩
    · exact .inl (left_of_advances settled advances)
  somebody w := ⟨_, due_mover settled w.course⟩

end TwinDesk.Handshake
