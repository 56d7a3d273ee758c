import TwinDesk.Main.Boot
import TwinDesk.Proofs.Hardware.Words
import TwinDesk.Proofs.Link.Cycles
import TwinDesk.Proofs.Link.Outline
import TwinDesk.Sub.Dispatcher

/-!
# A boot as an observer of both processors sees it

The Sub processor makes four writes while it boots, and each takes the boot one *stage* further.
The stage decides what the Sub processor's flag and status word 0 read. The Main processor reads
both, in two bus cycles, and in between the Sub processor may come as far as it likes.

A *world* is a stage with a chip that shows it. Until the Sub processor is up, the Main processor
shows no opcode and writes no parameter.

* `Stage.status`, `Stage.told` — what the registers read at every stage.
* `rules` — the Sub processor only ever goes on, and the Main processor leaves the stage alone.
* `main_cycle`, `tell_outline`, `show_outline` — the bus cycles of the two processors.
-/

namespace TwinDesk.Boot

open Program

/-! ## Stages -/

/-- How far the Sub processor has come. -/
inductive Stage where
  /-- Nothing is written yet. -/
  | held
  /-- `BOOTING` is written. -/
  | announced
  /-- `BUSY` is shown. -/
  | busy
  /-- How the boot went is written. -/
  | decided
  /-- `IDLE` is shown again. -/
  | up
  deriving DecidableEq, Repr

/-- The stage of life to which a boot leads. -/
def lifecycleOf (outcome : Except DesktopError Unit) : Lifecycle :=
  if outcome.isOk then .ready else .crashed

namespace Stage

/-- The number of writes made. -/
def rank : Stage → Nat
  | held => 0
  | announced => 1
  | busy => 2
  | decided => 3
  | up => 4

/-- The status that the flag shows. -/
def status : Stage → Status
  | busy | decided => .busy
  | held | announced | up => .idle

/-- What status word 0 tells, where the boot goes as `outcome` says. -/
def told (outcome : Except DesktopError Unit) : Stage → Lifecycle
  | held => .reset
  | announced | busy => .booting
  | decided | up => lifecycleOf outcome

/-- Whether the outcome is written. -/
def isDecided : Stage → Bool
  | decided | up => true
  | held | announced | busy => false

/-- What stays true while the Sub processor goes on. -/
def Lasting (A : Stage → Prop) : Prop :=
  ∀ {stage stage' : Stage}, stage.rank ≤ stage'.rank → A stage → A stage'

theorem isDecided_iff {stage : Stage} : stage.isDecided = true ↔ 3 ≤ stage.rank := by
  cases stage <;> decide

theorem lasting_isDecided : Lasting (·.isDecided = true) := by
  intro stage stage' more decided
  rw [isDecided_iff] at decided ⊢
  exact decided.trans more

/-- The Sub processor has nothing more to write. -/
theorem lasting_up : Lasting (· = up) := by
  intro stage stage' more same
  subst same
  cases stage' with
  | up => rfl
  | _ => exact absurd more (by decide)

/-- Once the outcome is written, an `IDLE` is the last one. -/
theorem up_of_idle {stage : Stage} (decided : stage.isDecided = true)
    (idle : stage.status.code = Status.idle.code) : stage = up := by
  cases stage with
  | up => rfl
  | decided => cases idle
  | _ => cases decided

/-- Before the outcome is written, the status word tells of no other stage of life. -/
theorem told_eq (outcome : Except DesktopError Unit) (stage : Stage) :
    stage.isDecided = true ∧ stage.told outcome = lifecycleOf outcome ∨
      stage.told outcome = .reset ∨ stage.told outcome = .booting := by
  cases stage with
  | held => exact .inr (.inl rfl)
  | announced | busy => exact .inr (.inr rfl)
  | decided | up => exact .inl ⟨rfl, rfl⟩

end Stage

/-! ## Worlds -/

/-- Parameter words that nobody has written. -/
def blank : Params := ⟨0, 0, 0, 0⟩

/-- A chip that shows how far the boot is. -/
structure World (outcome : Except DesktopError Unit) where
  chip : GateArray
  stage : Stage
  flag : chip.flag .sub = stage.status.code
  word : chip.results.first = (stage.told outcome).word
  silent : stage ≠ .up → chip.flag .main = 0 ∧ chip.params = blank

/-- The rules of a boot. -/
@[reducible] def rules (outcome : Except DesktopError Unit) : Rules where
  World := World outcome
  chip := World.chip
  Moves
    | .main, w, w' => w'.stage = w.stage
    | .sub, w, w' => w.stage.rank ≤ w'.stage.rank

variable {outcome : Except DesktopError Unit} {A B : Stage → Prop}

/-- An assertion about the stage. -/
def On (A : Stage → Prop) (w : World outcome) : Prop :=
  A w.stage

theorem stable_main (lasting : Stage.Lasting A) : (rules outcome).Stable .main (On A) :=
  fun _ _ move holds => lasting move holds

theorem stable_sub (A : Stage → Prop) : (rules outcome).Stable .sub (On A) := by
  intro w w' move holds
  have same : w'.stage = w.stage := move
  show A w'.stage
  rw [same]
  exact holds

/-! ## The Main processor -/

/-- What the Main processor leaves alone at a stage of the boot. -/
structure Untouched (stage : Stage) (chip chip' : GateArray) : Prop where
  flag : chip'.flag .sub = chip.flag .sub
  results : chip'.results = chip.results
  silent : stage ≠ .up → chip'.flag .main = chip.flag .main ∧ chip'.params = chip.params

theorem Untouched.rfl {stage : Stage} {chip : GateArray} : Untouched stage chip chip :=
  ⟨Eq.refl _, Eq.refl _, fun _ => ⟨Eq.refl _, Eq.refl _⟩⟩

/-- Registers below the flags have nothing to do with the boot. -/
theorem Untouched.of_bytes (stage : Stage) {chip chip' : GateArray}
    (same : ∀ offset, 14 ≤ offset → chip'.byteAt offset = chip.byteAt offset) :
    Untouched stage chip chip' := by
  have words (offset : Nat) (above : 14 ≤ offset) :
      chip'.wordAt offset = chip.wordAt offset := by
    rw [GateArray.wordAt, GateArray.wordAt, same _ above, same _ (Nat.le_succ_of_le above)]
  refine ⟨same _ (by decide), ?_, fun _ => ⟨same _ (by decide), ?_⟩⟩
  · exact congrArg Vector.ofFn (funext fun index => words _ (by omega))
  · rw [GateArray.params, GateArray.params, words _ (by decide), words _ (by decide),
      words _ (by decide), words _ (by decide)]

/-- The world after a bus cycle of the Main processor. -/
def World.afterMain (w : World outcome) {chip' : GateArray}
    (untouched : Untouched w.stage w.chip chip') : World outcome where
  chip := chip'
  stage := w.stage
  flag := untouched.flag.trans w.flag
  word := by
    rw [untouched.results]
    exact w.word
  silent down := by
    obtain ⟨flag, params⟩ := untouched.silent down
    rw [flag, params]
    exact w.silent down

/-- A bus cycle of the Main processor. -/
theorem main_cycle {a : Access} {A' : a.Answer → Stage → Prop} (lasting : Stage.Lasting A)
    (within : ∀ stage, A stage → B stage)
    (performs : ∀ w : World outcome, A w.stage → ∃ answer chip',
      w.chip.perform .main a = .ok (answer, chip') ∧ Untouched w.stage w.chip chip' ∧
        A' answer w.stage) :
    (rules outcome).Outline .main (On B) (cycle a) (On A) fun answer => On (A' answer) := by
  refine .cycle ⟨stable_main lasting, fun w holds => within w.stage holds⟩ fun w holds => ?_
  obtain ⟨answer, chip', eq, untouched, next⟩ := performs w holds
  exact ⟨answer, w.afterMain untouched, eq, rfl, next⟩

theorem writeReset_outline (value : UInt16) (lasting : Stage.Lasting A)
    (within : ∀ stage, A stage → B stage) :
    (rules outcome).Outline .main (On B) (MainRegisters.writeReset value) (On A)
      fun _ => On A := by
  refine main_cycle (a := .writeWord Register.reset value) lasting within fun w holds => ?_
  refine ⟨(), w.chip.setWord .main 0 value, rfl, .of_bytes _ fun offset above => ?_, holds⟩
  rw [GateArray.setWord, GateArray.byteAt_store_of_ne _ _ _ (by omega) (by decide),
    GateArray.byteAt_store_of_ne _ _ _ (by omega) (by decide)]

theorem awaitBus_outline (lasting : Stage.Lasting A) (within : ∀ stage, A stage → B stage) :
    (rules outcome).Outline .main (On B) awaitBus (On A) fun _ => On A := by
  have rests : (rules outcome).Rests .main (On B) (On A) :=
    ⟨stable_main lasting, fun w holds => within w.stage holds⟩
  refine .await rests (fun w holds => ⟨w, rfl, rfl, holds⟩) ?_
  refine Rules.Outline.bind (R := fun _ => On A) ?_ fun reset => ?_
  · exact main_cycle (a := .readWord Register.reset) lasting within
      fun w holds => ⟨_, w.chip, rfl, .rfl, holds⟩
  · split <;> exact .done fun w holds => holds

theorem setModeBits_outline (lasting : Stage.Lasting A) (within : ∀ stage, A stage → B stage) :
    (rules outcome).Outline .main (On B) (Side.main.setModeBits Register.modeTwoBanks) (On A)
      fun _ => On A := by
  refine Rules.Outline.bind (R := fun _ => On A) ?_ fun mode => ?_
  · exact main_cycle (a := .readWord Register.memMode) lasting within
      fun w holds => ⟨_, w.chip, rfl, .rfl, holds⟩
  · refine main_cycle (a := .writeWord Register.memMode _) lasting within fun w holds => ?_
    refine ⟨(), w.chip.withMemory (w.chip.mode.write _ .main _) w.chip.banks, rfl, ?_, holds⟩
    exact .of_bytes _ fun offset above => w.chip.byteAt_withMemory _ _ (by omega)

/-- Letting the Sub processor run tells nothing of it. -/
theorem startSub_outline (lasting : Stage.Lasting A) (within : ∀ stage, A stage → B stage) :
    (rules outcome).Outline .main (On B) startSub (On A) fun _ => On A := by
  refine (writeReset_outline 0 lasting within).bind fun _ => ?_
  refine (writeReset_outline Register.resetBusRequest lasting within).bind fun _ => ?_
  refine (awaitBus_outline lasting within).bind fun _ => ?_
  refine Rules.Outline.bind (R := fun _ => On A) ?_ fun _ => ?_
  · exact main_cycle (a := .loadProgram) lasting within
      fun w holds => ⟨(), w.chip, rfl, .rfl, holds⟩
  refine (setModeBits_outline lasting within).bind fun _ => ?_
  exact writeReset_outline Register.resetRelease lasting within

/-- Besides `A`, a word that was read from the status register. -/
def Sampled (outcome : Except DesktopError Unit) (A : Stage → Prop) (word : UInt16)
    (stage : Stage) : Prop :=
  A stage ∧ (stage.isDecided = true ∧ word = (lifecycleOf outcome).word ∨
    word = Lifecycle.reset.word ∨ word = Lifecycle.booting.word)

/-- Besides `A`, a word that tells how the boot went. -/
def Settled (outcome : Except DesktopError Unit) (A : Stage → Prop) (word : UInt16)
    (stage : Stage) : Prop :=
  A stage ∧ stage.isDecided = true ∧ word = (lifecycleOf outcome).word

/-- A look at the flag and one at the status word. What counts as a verdict is one, even where the
Sub processor has gone on in between. -/
theorem settledState_outline (lasting : Stage.Lasting A) (within : ∀ stage, A stage → B stage) :
    (rules outcome).Outline .main (On B) settledState (On A) fun
      | some word => On (Settled outcome A word)
      | none => On A := by
  refine Rules.Outline.bind (R := fun _ => On A) ?_ fun flag => ?_
  · exact main_cycle (a := .readByte Side.sub.flag) lasting within
      fun w holds => ⟨_, w.chip, w.chip.perform_readFlag .main .sub, .rfl, holds⟩
  split
  · exact .done fun w holds => holds
  refine Rules.Outline.bind (R := fun word => On (Sampled outcome A word)) ?_ fun word => ?_
  · refine main_cycle (a := .readWord (Register.status0 + UInt16.ofNat 0 * 2)) lasting within
      fun w holds => ?_
    refine ⟨_, w.chip, w.chip.perform_readResult .main (show 0 < 8 by decide), .rfl, holds, ?_⟩
    have word : w.chip.results[0] = (w.stage.told outcome).word := w.word
    rw [word]
    rcases w.stage.told_eq outcome with ⟨decided, told⟩ | told | told <;> rw [told]
    · exact .inl ⟨decided, rfl⟩
    · exact .inr (.inl rfl)
    · exact .inr (.inr rfl)
  · split
    · exact .done fun w holds => holds.1
    · exact .done fun w holds => holds.1
    · rename_i notReset notBooting
      refine .done fun w holds => ?_
      obtain ⟨holds, ⟨decided, same⟩ | same | same⟩ := holds
      · exact ⟨holds, decided, same⟩
      · exact absurd (Lifecycle.ofWord?_eq_some_iff.mpr same.symm) notReset
      · exact absurd (Lifecycle.ofWord?_eq_some_iff.mpr same.symm) notBooting

theorem writeParam_outline {index : Nat} (value : UInt16) (h : index < 4)
    (lasting : Stage.Lasting A) (within : ∀ stage, A stage → B stage)
    (up : ∀ stage, A stage → stage = .up) :
    (rules outcome).Outline .main (On B) (MainRegisters.writeParam index value) (On A)
      fun _ => On A := by
  have program : MainRegisters.writeParam index value =
      cycle (.writeWord (Register.command0 + UInt16.ofNat index * 2) value) := by
    unfold MainRegisters.writeParam Register.commandWord
    rw [if_neg (by omega), if_pos (by omega)]
    rfl
  rw [program]
  refine main_cycle lasting within fun w holds => ?_
  refine ⟨(), _, w.chip.perform_writeParam h value, ⟨?_, ?_, ?_⟩, holds⟩
  · exact w.chip.flag_setWord .main .sub (by omega) value
  · exact congrArg GateArray.Workspace.results (w.chip.workspace_setParam .main h value)
  · exact fun down => absurd (up _ holds) down

/-- Besides `A`, the Sub processor is up. -/
def Up (A : Stage → Prop) (stage : Stage) : Prop :=
  A stage ∧ stage = .up

theorem Up.lasting (lasting : Stage.Lasting A) : Stage.Lasting (Up A) :=
  fun more holds => ⟨lasting more holds.1, Stage.lasting_up more holds.2⟩

/-- A command is put on the wire only once the Sub processor is up. -/
theorem post_outline (cmd : Command) (initiator : Initiator) (lasting : Stage.Lasting A)
    (within : ∀ stage, A stage → B stage) (decided : ∀ stage, A stage → stage.isDecided = true) :
    (rules outcome).Outline .main (On B) (initiator.post cmd) (On A) fun _ => On A := by
  have lasting' : Stage.Lasting (Up A) := Up.lasting lasting
  have within' : ∀ stage, Up A stage → B stage := fun stage holds => within stage holds.1
  have up : ∀ stage, Up A stage → stage = .up := fun _ holds => holds.2
  rw [Initiator.post]
  split
  · exact .done fun w holds => holds
  refine Rules.Outline.bind (R := fun flag => On fun stage =>
    A stage ∧ (flag = Status.idle.code → stage = .up)) ?_ fun flag => ?_
  · refine main_cycle (a := .readByte Side.sub.flag) lasting within fun w holds => ?_
    refine ⟨_, w.chip, w.chip.perform_readFlag .main .sub, .rfl, holds, fun idle => ?_⟩
    rw [w.flag] at idle
    exact Stage.up_of_idle (decided _ holds) idle
  split
  · exact .done fun w holds => holds.1
  rename_i idle
  refine Rules.Outline.strengthen (P := On (Up A)) ?_ fun w holds =>
    ⟨holds.1, holds.2 (not_not.mp idle)⟩
  refine Rules.Outline.bind (R := fun _ => On (Up A)) ?_ fun _ => ?_
  · refine (writeParam_outline _ (by decide) lasting' within' up).bind fun _ => ?_
    refine (writeParam_outline _ (by decide) lasting' within' up).bind fun _ => ?_
    refine (writeParam_outline _ (by decide) lasting' within' up).bind fun _ => ?_
    exact writeParam_outline _ (by decide) lasting' within' up
  refine Rules.Outline.bind (R := fun _ => On (Up A)) ?_ fun _ => .done fun w holds => holds.1
  refine main_cycle (a := .writeByte Side.main.flag _) lasting' within' fun w holds => ?_
  refine ⟨(), _, w.chip.perform_setFlag .main _, ⟨?_, ?_, ?_⟩, holds⟩
  · exact w.chip.flag_setFlag_peer .main _
  · exact congrArg GateArray.Workspace.results (w.chip.workspace_setFlag .main _)
  · exact fun down => absurd holds.2 down

/-! ## The Sub processor -/

/-- The Sub processor is at a stage of its boot. -/
def Reached (stage : Stage) (w : World outcome) : Prop :=
  w.stage = stage

/-- The Sub processor has more to write. -/
def Down (w : World outcome) : Prop :=
  w.stage ≠ .up

theorem rests_reached {stage : Stage} (down : stage ≠ .up) :
    (rules outcome).Rests .sub Down (Reached stage) := by
  refine ⟨stable_sub (· = stage), fun w same => ?_⟩
  have same : w.stage = stage := same
  rw [Down, same]
  exact down

/-- Status word 0 is the first of the result words. -/
theorem first_setWord (chip : GateArray) (value : UInt16) :
    (chip.setWord .sub (0x20 + 2 * 0) value).results.first = value := by
  have results : (chip.setWord .sub (0x20 + 2 * 0) value).results = chip.results.set 0 value :=
    congrArg GateArray.Workspace.results
      (chip.workspace_setResult .sub (show 0 < 8 by decide) value)
  rw [results]
  exact Vector.getElem_set_self _

/-- While the Sub processor is not up, its words leave the registers of the other one blank. -/
theorem World.silent_setWord (w : World outcome) (down : w.stage ≠ .up) (value : UInt16) :
    (w.chip.setWord .sub (0x20 + 2 * 0) value).flag .main = 0 ∧
      (w.chip.setWord .sub (0x20 + 2 * 0) value).params = blank := by
  rw [w.chip.flag_setWord .sub .main (by decide) value, w.chip.params_setResult .sub 0 value]
  exact w.silent down

theorem World.flag_setWord (w : World outcome) (value : UInt16) :
    (w.chip.setWord .sub (0x20 + 2 * 0) value).flag .sub = w.stage.status.code := by
  rw [w.chip.flag_setWord .sub .sub (by decide) value, w.flag]

/-- The world after status word 0 is written. -/
def World.afterTell (w : World outcome) (stage' : Stage) (down : w.stage ≠ .up)
    (status : stage'.status = w.stage.status) : World outcome where
  chip := w.chip.setWord .sub (0x20 + 2 * 0) (stage'.told outcome).word
  stage := stage'
  flag := (w.flag_setWord _).trans (congrArg Status.code status.symm)
  word := first_setWord w.chip _
  silent _ := w.silent_setWord down _

/-- The world after the flag is written. -/
def World.afterShow (w : World outcome) (stage' : Stage) (down : w.stage ≠ .up)
    (told : stage'.told outcome = w.stage.told outcome) : World outcome where
  chip := w.chip.store .sub Side.sub.flag.toNat stage'.status.code
  stage := stage'
  flag := w.chip.flag_setFlag_self .sub stage'.status.code
  word := by
    have results : GateArray.results (w.chip.store .sub Side.sub.flag.toNat _) = w.chip.results :=
      congrArg GateArray.Workspace.results (w.chip.workspace_setFlag .sub stage'.status.code)
    rw [results, w.word, told]
  silent _ := by
    rw [w.chip.params_setFlag .sub stage'.status.code]
    have main := w.chip.flag_setFlag_peer .sub stage'.status.code
    exact ⟨main.trans (w.silent down).1, (w.silent down).2⟩

/-- Writes status word 0. -/
theorem tell_outline {value : UInt16} (stage stage' : Stage) (down : stage ≠ .up)
    (next : stage.rank ≤ stage'.rank) (status : stage'.status = stage.status)
    (told : (stage'.told outcome).word = value) :
    (rules outcome).Outline .sub Down (SubRegisters.writeResult 0 value) (Reached stage)
      fun _ => Reached stage' := by
  refine .cycle (a := .writeWord (Register.status0 + UInt16.ofNat 0 * 2) value)
    (rests_reached down) fun w same => ?_
  obtain rfl : w.stage = stage := same
  subst told
  have wrote := w.chip.perform_writeResult (show 0 < 8 by decide) (stage'.told outcome).word
  exact ⟨(), w.afterTell stage' down status, wrote, next, rfl⟩

/-- Writes the flag. -/
theorem show_outline {status : Status} (stage stage' : Stage) (down : stage ≠ .up)
    (next : stage.rank ≤ stage'.rank) (told : stage'.told outcome = stage.told outcome)
    (shown : stage'.status = status) :
    (rules outcome).Outline .sub Down (Responder.setStatus status) (Reached stage)
      fun _ => Reached stage' := by
  refine .cycle (a := .writeByte Side.sub.flag status.code) (rests_reached down) fun w same => ?_
  obtain rfl : w.stage = stage := same
  subst shown
  have wrote := w.chip.perform_setFlag .sub stage'.status.code
  exact ⟨(), w.afterShow stage' down told, wrote, next, rfl⟩

/-- Waits until the Main processor releases the reset. -/
def awaitRelease : Program Unit :=
  await do
    let reset ← readWord Register.reset
    return if reset &&& Register.resetRelease = 0 then none else some ()

theorem awaitRelease_outline {stage : Stage} (down : stage ≠ .up) :
    (rules outcome).Outline .sub Down awaitRelease (Reached stage) fun _ => Reached stage := by
  refine .await (rests_reached down) (fun w same => ⟨w, rfl, Nat.le_refl _, same⟩) ?_
  refine Rules.Outline.bind (R := fun _ => Reached stage) ?_ fun reset => ?_
  · exact .cycle (a := .readWord Register.reset) (rests_reached down)
      fun w same => ⟨_, w, rfl, Nat.le_refl _, same⟩
  · split <;> exact .done fun w same => same

end TwinDesk.Boot

namespace TwinDesk.Dispatcher

open Program

variable {R : Type}

/-- The boot sequence, with the desktop set up by `setUp`. -/
def bootWith (setUp : Checked (Except DesktopError Unit × Desktop)) (d : Dispatcher R) :
    Program (Except DesktopError Unit × Dispatcher R) := do
  SubRegisters.writeResult 0 Lifecycle.booting.word
  Responder.setStatus .busy
  let (result, desktop) ← ofChecked setUp
  let stage : Lifecycle := if result.isOk then .ready else .crashed
  SubRegisters.writeResult 0 stage.word
  Responder.setStatus .idle
  return (result, { d with desktop })

theorem boot_eq (d : Dispatcher R) : d.boot = d.bootWith Desktop.fresh := rfl

/-- The four writes of a boot. -/
theorem bootWith_outline (outcome : Except DesktopError Unit) (desktop : Desktop)
    (d : Dispatcher R) :
    (Boot.rules outcome).Outline .sub Boot.Down (d.bootWith (.ok (outcome, desktop)))
      (Boot.Reached .held) fun result w =>
        result = (outcome, { d with desktop }) ∧ Boot.Reached .up w := by
  refine (Boot.tell_outline .held .announced nofun (by decide) rfl rfl).bind fun _ => ?_
  refine (Boot.show_outline .announced .busy nofun (by decide) rfl rfl).bind fun _ => ?_
  refine (Boot.tell_outline .busy .decided nofun (by decide) rfl rfl).bind fun _ => ?_
  refine (Boot.show_outline .decided .up nofun (by decide) rfl rfl).bind fun _ => ?_
  exact .done fun w up => ⟨rfl, up⟩

end TwinDesk.Dispatcher
