import TwinDesk.Proofs.Desktop.Sound
import TwinDesk.Proofs.Handshake.Exchange
import TwinDesk.Proofs.Handshake.Progress
import TwinDesk.Proofs.Link.Interleaving
import TwinDesk.Proofs.Sub.Serve

/-!
# Both processors at work

The dispatcher serves as many commands as the Main processor gives it. Under every fair schedule
both processors get through, and the dispatcher ends in a state that fits the requests.

* `Dispatcher.Booted` — the state in which the dispatcher leaves the boot sequence.
* `ends_of_service` — whatever program sends the commands, both sides end.
-/

namespace TwinDesk

open Handshake Program

namespace Handshake

variable {contract : Contract} {W : GateArray.Workspace → Prop} {R : Type}
  {I : List Request → Dispatcher R → Prop}

theorem Between.stable {room : Nat} {requests : List Request} {replies : List Reply}
    {d : Dispatcher R} :
    (handshake contract).Stable .sub (Between W I room requests replies d) :=
  fun _ _ move h => ⟨h.responder, h.holds, At.stable waiting_outlasts move h.course⟩

/-- Once all commands are served, the course is at rest. -/
theorem Between.through {room : Nat} {requests : List Request} {replies : List Reply}
    {d : Dispatcher R} {w : World contract} (h : Between W I room requests replies d w)
    (settled : contract.limit = some replies.length) :
    w.course.stage = .rest ∧ w.course.requests = requests := by
  have within := w.shows.limit _ settled
  have known := h.course.course.known
  have same : w.course.requests = requests := by
    refine (known.eq_of_length_le ?_).symm
    rw [h.course.course.count]
    exact within
  refine ⟨?_, same⟩
  rcases h.course.course.stage with rest | posted
  · exact rest
  · have count := w.shows.count
    rw [posted, h.course.course.answered, same, h.course.course.count] at count
    simp [Stage.isOpen] at count

/-- Both processors are ready for the next command. -/
structure Poised (W : GateArray.Workspace → Prop) (chip : GateArray) (d : Dispatcher R) : Prop where
  quiet : Quiet chip
  own : W chip.workspace
  responder : d.responder = .atRest

/-- Whatever program gives the dispatcher its commands, under every fair schedule both end. -/
theorem ends_of_service [Painter R] {α : Type} {count : Nat} {main : Program α}
    {Q : α → Course → Prop} {d : Dispatcher R} {chip : GateArray}
    (settled : contract.limit = some count)
    (outline : Triple contract .main main (At .main (Initiating .atRest []) 6 anything)
      fun value => At .main (Q value) 0 anything)
    (through : ∀ value c, Q value c → c.stage = .rest ∧ c.requests.length = count)
    (executes : Executes contract W I) (rest : d.responder = .atRest) (holds : I [] d)
    (quiet : Quiet chip) (own : W chip.workspace) {schedule : Nat → Side}
    (fair : Duo.Fair schedule) :
    ∃ value answers d' chip' c,
      Duo.EndsWith schedule ⟨chip, main, d.serveTimes count⟩ chip' value (answers, d') ∧
        Q value c ∧ I c.requests d' ∧ Poised W chip' d' ∧ Answered answers ∧
        answers.length = count := by
  let w : World contract := .ofQuiet quiet
  have limit : contract.limit = some (([] : List Reply).length + count) := by simpa using settled
  have waiting : Between W I 3 [] [] d w :=
    ⟨rest, holds, ⟨.inl rfl, rfl, List.prefix_rfl, rfl⟩, Nat.le_add_left 3 61, own⟩
  have begins : At .main (Initiating .atRest []) 6 anything w :=
    ⟨⟨rfl, rfl⟩, Nat.le_add_left 6 58, trivial⟩
  have upheld : Duo.Upheld (handshake contract) _ _ ⟨chip, main, d.serveTimes count⟩ w :=
    ⟨rfl, .of_outline outline begins,
      .of_outline (serveTimes_outline executes count d limit) waiting⟩
  -- while one side has ended, whatever is left to do is for the other
  obtain ⟨value, ⟨answers, d'⟩, w', ends, post, all, length, requests, replies, full, between⟩ :=
    Duo.ends_of_fair (pressing settled)
      (fun value => At.stable (outlasts_of_mover fun c h => by rw [(through value c h).1]; rfl))
      (fun result w w' move ⟨all, length, requests, replies, full, between⟩ =>
        ⟨all, length, requests, replies, full, between.stable move⟩)
      (fun value w h => due_of_through settled (through value _ h.course).1
        (through value _ h.course).2 .sub)
      (fun result w ⟨_, _, requests, replies, full, between⟩ => by
        have rest := (between.through full).1
        have due := due_mover settled w.course
        rw [rest] at due
        exact due)
      fair upheld
  obtain ⟨rest, same⟩ := between.through full
  exact ⟨value, answers, d', w'.chip, w'.course, ends, post.course, same ▸ between.holds,
    ⟨w'.quiet_of_rest rest, between.course.own, between.responder⟩, all, length⟩

end Handshake

/-! ## After boot -/

theorem Duo.EndsWith.unique {α β : Type} {schedule : Nat → Side} {duo : Duo α β}
    {chip chip' : GateArray} {a a' : α} {b b' : β} (ends : EndsWith schedule duo chip a b)
    (ends' : EndsWith schedule duo chip' a' b') : chip = chip' ∧ a = a' ∧ b = b' := by
  obtain ⟨n, h⟩ := ends
  obtain ⟨n', h'⟩ := ends'
  have same := (h (max n n') (Nat.le_max_left _ _)).symm.trans (h' _ (Nat.le_max_right _ _))
  simpa using same

theorem Duo.EndsWith.of_access {α β : Type} {schedule : Nat → Side} {chip chip' chip'' : GateArray}
    {main : Program α} {a : Access} {answer : a.Answer} {next : a.Answer → Program β} {value : α}
    {value' : β} (turn : schedule 0 = .sub) (eq : chip.perform .sub a = .ok (answer, chip'))
    (ends : EndsWith (fun n => schedule (n + 1)) ⟨chip', main, next answer⟩ chip'' value value') :
    EndsWith schedule ⟨chip, main, .access a next⟩ chip'' value value' := by
  refine .of_step ?_ ends
  rw [turn, Duo.step, Program.step, eq]
  rfl

namespace Dispatcher

variable {R : Type}

/-- The dispatcher has booted on a chip with clear flags, while the Main processor waited. -/
structure Booted (start : GateArray) (painter : R) (launcher : Launcher) (chip : GateArray)
    (d : Dispatcher R) : Prop where
  quiet : Quiet start
  boots : Duo.EndsWith (fun _ => .sub) ⟨start, .done (), (initial painter launcher).boot⟩
    chip () (.ok (), d)

/-- The chip after the Sub processor has told how far it is, and shown a status. -/
def announce (chip : GateArray) (stage : Lifecycle) (status : Status) : GateArray :=
  (chip.setWord .sub (0x20 + 2 * 0) stage.word).store .sub Side.sub.flag.toNat status.code

/-- The chip after boot. -/
def bootedChip (start : GateArray) : GateArray :=
  announce (announce start .booting .busy) .ready .idle

theorem flag_main_announce (chip : GateArray) (stage : Lifecycle) (status : Status) :
    (announce chip stage status).flag .main = chip.flag .main :=
  (GateArray.flag_setFlag_peer _ .sub _).trans
    (GateArray.flag_setWord _ .sub .main (by decide) _)

/-- The Sub processor tells how far it is through a result word. -/
theorem workspace_announce (chip : GateArray) (stage : Lifecycle) (status : Status) :
    ∃ results, (announce chip stage status).workspace = { chip.workspace with results } :=
  ⟨_, (GateArray.workspace_setFlag _ .sub _).trans
    (GateArray.workspace_setResult chip .sub (by decide) _)⟩

/-- The boot sequence ends with a fresh desktop. -/
theorem boot_ends {desktop : Desktop} (fresh : Desktop.fresh = .ok (.ok (), desktop))
    (start : GateArray) (painter : R) (launcher : Launcher) :
    Duo.EndsWith (fun _ => .sub) ⟨start, .done (), (initial painter launcher).boot⟩
      (bootedChip start) () (.ok (), { initial painter launcher with desktop }) := by
  unfold boot
  rw [fresh]
  refine .of_access rfl (start.perform_writeResult (show 0 < 8 by decide) _) ?_
  refine .of_access rfl (GateArray.perform_setFlag _ .sub _) ?_
  refine .of_access rfl (GateArray.perform_writeResult _ (show 0 < 8 by decide) _) ?_
  refine .of_access rfl (GateArray.perform_setFlag _ .sub _) ?_
  exact ⟨0, fun n _ => Duo.run_done _ _ _ _ n⟩

theorem quiet_bootedChip {start : GateArray} (quiet : Quiet start) : Quiet (bootedChip start) := by
  intro side
  cases side with
  | main =>
    unfold bootedChip
    rw [flag_main_announce, flag_main_announce]
    exact quiet .main
  | sub => exact GateArray.flag_setFlag_self _ .sub _

/-- Boot touches no more of the Sub processor's registers than the result words. -/
theorem workspace_bootedChip (start : GateArray) :
    ∃ results, (bootedChip start).workspace = { start.workspace with results } := by
  obtain ⟨_, eq⟩ := workspace_announce (announce start .booting .busy) .ready .idle
  obtain ⟨_, eq'⟩ := workspace_announce start .booting .busy
  exact ⟨_, by rw [bootedChip, eq, eq']⟩

/-- A dispatcher that has booted has a fresh desktop and waits for its first command. -/
theorem Booted.known {start chip : GateArray} {painter : R} {launcher : Launcher}
    {d : Dispatcher R} (booted : Booted start painter launcher chip d) :
    chip = bootedChip start ∧ ∃ desktop, Desktop.fresh = .ok (.ok (), desktop) ∧ desktop.Sound ∧
      d = { initial painter launcher with desktop } := by
  obtain ⟨⟨result, desktop⟩, fresh, rfl, sound⟩ := Desktop.fresh_yields
  obtain ⟨rfl, -, same⟩ := booted.boots.unique (boot_ends fresh start painter launcher)
  exact ⟨rfl, desktop, fresh, sound, (Prod.mk.inj same).2⟩

/-- On a chip with clear flags the dispatcher does boot. -/
theorem exists_booted {start : GateArray} (quiet : Quiet start) (painter : R)
    (launcher : Launcher) : ∃ chip d, Booted start painter launcher chip d := by
  obtain ⟨⟨result, desktop⟩, fresh, rfl, -⟩ := Desktop.fresh_yields
  exact ⟨_, _, quiet, boot_ends fresh start painter launcher⟩

end Dispatcher

end TwinDesk
