import Mathlib.Logic.Relation
import TwinDesk.Machine.Bus
import TwinDesk.Paint.Recording
import TwinDesk.Proofs.Desktop.Openings
import TwinDesk.Proofs.Display.Safe
import TwinDesk.Proofs.Link.Chip
import TwinDesk.Proofs.Link.Runs
import TwinDesk.Proofs.Sub.Execution

/-!
# How long a bounded call takes

The Sub processor is watched from outside: before each of its bus cycles anything may happen to the
chip. A bounded call makes no more cycles than its budget says, with one exception. A command that
works on a bank waits for the chip to exchange the banks, and that wait has no budget: every look
that finds the exchange pending is a look in vain, and the wait goes on.

* `Trial`, `Trial.Spends` — a run among other things, and how many cycles a program spends; the
  lemmas in its namespace follow the programs.
* `Trial.vain_of_prompt` — where exchanges are automatic, no look is in vain.
* `Trial.serveWithin_spends` — a bounded call spends what its budget allows, besides looks in vain,
  and ends unless it looks in vain for ever or meets the Main processor in the bank.
* `Dispatcher.stalled_swap_never_returns` — where the chip does not exchange banks, a call that
  serves a request for the bank never ends.
-/

namespace TwinDesk

open Program Relation

/-! ## Counting cycles -/

/-- The chip, and the bus cycles of the Sub processor so far. -/
structure Tally where
  chip : GateArray
  cycles : Nat
  /-- How many of the cycles found an exchange of the Sub processor pending. -/
  vain : Nat

/-- Whether a bus cycle looks at the memory mode register. -/
def Access.isLook : Access → Bool
  | .readWord offset => offset == Register.memMode
  | _ => false

/-- What happens to the chip before each bus cycle of the Sub processor, by the number of the cycle,
and how often a loop may go round. -/
structure Trial where
  around : Nat → GateArray → GateArray
  limit : Nat

namespace Trial

variable {α β : Type} (t : Trial)

/-- One bus cycle of the Sub processor. -/
def perform (a : Access) (w : Tally) : Except Halt a.Answer × Tally :=
  let chip := t.around w.cycles w.chip
  let vain := w.vain + (a.isLook && chip.mode.returning).toNat
  match chip.perform .sub a with
  | .ok (answer, chip) => (.ok answer, ⟨chip, w.cycles + 1, vain⟩)
  | .error e => (.error (.fault e), ⟨chip, w.cycles + 1, vain⟩)

/-- Runs a program of the Sub processor. -/
def run (p : Program α) (w : Tally) : Except Halt α × Tally :=
  p.run t.perform t.limit w

/-- A run from the tally `w` to the tally `w'` has spent `n` cycles at most, besides looks in vain.
It has a value with `φ`. Only a run that may work on a bank, which is to say if `V`, can look in
vain; and it may instead have met the Main processor in the bank, or have looked in vain as often as
a loop may go round. -/
structure Within (n : Nat) (V : Prop) (φ : α → Prop) (w : Tally) (outcome : Except Halt α)
    (w' : Tally) : Prop where
  cycles : w'.cycles + w.vain ≤ w.cycles + n + w'.vain
  vain : w.vain ≤ w'.vain
  patient : ¬ V → w'.vain = w.vain
  ends : (∃ value, outcome = .ok value ∧ φ value) ∨
    V ∧ ((∃ bank, outcome = .error (.fault (.bankContention bank))) ∨
      outcome = .error .stuck ∧ w.vain + t.limit ≤ w'.vain)

/-- A program of the Sub processor spends `n` cycles at most, besides looks in vain. -/
def Spends (n : Nat) (V : Prop) (p : Program α) (φ : α → Prop) : Prop :=
  ∀ w, ∃ outcome w', t.run p w = (outcome, w') ∧ t.Within n V φ w outcome w'

namespace Spends

variable {t} {n m : Nat} {V : Prop} {p : Program α} {φ : α → Prop} {f : α → Program β}
  {ψ : β → Prop}

theorem done {value : α} (holds : φ value) : t.Spends n V (.done value) φ :=
  fun w => ⟨_, w, rfl, by omega, Nat.le_refl _, fun _ => rfl, .inl ⟨value, rfl, holds⟩⟩

theorem mono {φ' : α → Prop} (spends : t.Spends n V p φ) (le : n ≤ m)
    (weaker : ∀ value, φ value → φ' value) : t.Spends m V p φ' := by
  intro w
  obtain ⟨outcome, w', ran, cycles, vain, patient, ends⟩ := spends w
  refine ⟨outcome, w', ran, by omega, vain, patient, ends.imp_left ?_⟩
  rintro ⟨value, eq, holds⟩
  exact ⟨value, eq, weaker value holds⟩

theorem bind (first : t.Spends n V p φ) (rest : ∀ value, φ value → t.Spends m V (f value) ψ) :
    t.Spends (n + m) V (p.bind f) ψ := by
  intro w
  obtain ⟨outcome, w', ran, cycles, vain, patient, ends⟩ := first w
  have sequence := run_bind t.perform t.limit p f w
  rw [show p.run t.perform t.limit w = (outcome, w') from ran] at sequence
  rcases ends with ⟨value, rfl, holds⟩ | ⟨may, ⟨bank, rfl⟩ | ⟨rfl, enough⟩⟩
  · obtain ⟨outcome', w'', ran', cycles', vain', patient', ends'⟩ := rest value holds w'
    refine ⟨outcome', w'', sequence.trans ran', by omega, by omega, ?_, ?_⟩
    · exact fun free => (patient' free).trans (patient free)
    · refine ends'.imp_right fun ⟨may, stops⟩ => ⟨may, stops.imp_right ?_⟩
      rintro ⟨stuck, enough⟩
      exact ⟨stuck, by omega⟩
  · exact ⟨_, w', sequence, by omega, vain, fun free => absurd may free,
      .inr ⟨may, .inl ⟨bank, rfl⟩⟩⟩
  · exact ⟨_, w', sequence, by omega, vain, fun free => absurd may free,
      .inr ⟨may, .inr ⟨rfl, enough⟩⟩⟩

/-- What follows spends nothing. -/
theorem map (first : t.Spends n V p φ) {g : α → β} (holds : ∀ value, φ value → ψ (g value)) :
    t.Spends n V (p.bind fun value => .done (g value)) ψ :=
  Spends.bind (m := 0) first fun value known => done (holds value known)

theorem ofChecked {c : Checked α} (yields : Yields c φ) : t.Spends 0 V (.ofChecked c) φ := by
  obtain ⟨value, rfl, holds⟩ := yields
  exact done holds

/-! ### Bus cycles -/

/-- A bus cycle that does not look at the memory mode register. -/
theorem cycle {a : Access} (other : a.isLook = false)
    (performs : ∀ chip : GateArray, ∃ answer chip', chip.perform .sub a = .ok (answer, chip')) :
    t.Spends 1 V (Program.cycle a) fun _ => True := by
  intro w
  obtain ⟨answer, chip', eq⟩ := performs (t.around w.cycles w.chip)
  refine ⟨.ok answer, ⟨chip', w.cycles + 1, w.vain⟩, ?_, Nat.le_refl _, Nat.le_refl _,
    fun _ => rfl, .inl ⟨answer, rfl, trivial⟩⟩
  simp only [Trial.run, Program.cycle, Program.run, perform, eq, other]
  rfl

/-- A look at the memory mode register. -/
theorem look (may : V) : t.Spends 1 V (readWord Register.memMode) fun _ => True := by
  intro w
  let chip := t.around w.cycles w.chip
  refine ⟨.ok chip.mode.word, ⟨chip, w.cycles + 1, w.vain + chip.mode.returning.toNat⟩, ?_,
    by dsimp only; omega, Nat.le_add_right _ _, fun free => absurd may free,
    .inl ⟨_, rfl, trivial⟩⟩
  rfl

/-- The Sub processor enters a bank, unless somebody is inside. -/
theorem enterBank (may : V) (bank : Bank) :
    t.Spends 1 V (Program.cycle (.enterBank bank)) fun _ => True := by
  intro w
  cases inside : ((t.around w.cycles w.chip).bank bank).occupied with
  | true =>
    refine ⟨_, ⟨t.around w.cycles w.chip, w.cycles + 1, w.vain⟩, ?_, Nat.le_refl _, Nat.le_refl _,
      fun _ => rfl, .inr ⟨may, .inl ⟨bank, rfl⟩⟩⟩
    simp only [Trial.run, Program.cycle, Program.run, perform,
      GateArray.perform_enterBank_occupied .sub inside]
    rfl
  | false =>
    refine ⟨.ok ((t.around w.cycles w.chip).bank bank).bytes,
      ⟨(t.around w.cycles w.chip).entered bank, w.cycles + 1, w.vain⟩, ?_, Nat.le_refl _,
      Nat.le_refl _, fun _ => rfl, .inl ⟨_, rfl, trivial⟩⟩
    simp only [Trial.run, Program.cycle, Program.run, perform,
      GateArray.perform_enterBank .sub inside]
    rfl

/-! ### Waits -/

/-- A wait within a budget spends what its polls do. -/
theorem upTo {σ : Type} {poll : Poll σ β} (each : ∀ state, t.Spends n V (poll state) fun _ => True)
    (polls : Nat) (state : σ) :
    t.Spends (polls * n) V (poll.upTo polls state) fun _ => True := by
  induction polls generalizing state with
  | zero => exact done trivial
  | succ polls ih =>
    refine ((each state).bind (m := polls * n) ?_).mono (by rw [Nat.succ_mul]; omega) fun _ h => h
    rintro ⟨e | (_ | value), next⟩ -
    · exact done trivial
    · exact ih next
    · exact done trivial

theorem await {look : Program (Option β)} (each : t.Spends n V look fun _ => True)
    (budget : Budget) : t.Spends (budget.polls * n) V (budget.await look) fun _ => True :=
  (upTo (fun _ => each.map fun _ _ => trivial) budget.polls ()).map fun _ _ => trivial

/-- A poll for the exchange is one look in vain, or two looks that find the bank. -/
theorem run_poll (released : Bank) (w : Tally) :
    let chip := t.around w.cycles w.chip
    let next := t.around (w.cycles + 1) chip
    t.run (PendingSwap.poll ⟨.sub, released⟩) w =
      if chip.mode.returning then (.ok none, ⟨chip, w.cycles + 1, w.vain + 1⟩)
      else (.ok (some (Side.sub.bank next.mode.select)),
        ⟨next, w.cycles + 2, w.vain + next.mode.returning.toNat⟩) := by
  intro chip next
  have asked : (chip.mode.word &&& Side.sub.swapBit != 0) = chip.mode.returning :=
    chip.mode.word_swapBit .sub
  have shown := next.mode.word_select
  show Program.run t.perform t.limit
    (if chip.mode.word &&& Side.sub.swapBit != 0 then .done none else
      .access (.readWord Register.memMode) fun word =>
        .done (some (Side.sub.bank (word &&& Register.modeSelect != 0))))
    ⟨chip, w.cycles + 1, w.vain + chip.mode.returning.toNat⟩ = _
  rw [asked]
  cases chip.mode.returning with
  | true => rfl
  | false =>
    rw [← shown]
    rfl

/-- One round of the wait for the exchange. -/
def pollRound (released : Bank) (_ : Unit) : Program (Unit ⊕ Bank) := do
  match ← PendingSwap.poll ⟨.sub, released⟩ with
  | some bank => return .inr bank
  | none => return .inl ()

theorem wait_eq (released : Bank) :
    PendingSwap.wait ⟨.sub, released⟩ = loop (pollRound released) () := by
  unfold PendingSwap.wait Program.await
  congr 1
  funext state
  show Program.bind _ _ = Program.bind _ _
  congr 1
  funext found
  cases found <;> rfl

/-- A round is a look in vain, or it ends the wait. -/
theorem run_pollRound (released : Bank) (w : Tally) :
    (∃ chip, (pollRound released ()).run t.perform t.limit w =
      (.ok (.inl ()), ⟨chip, w.cycles + 1, w.vain + 1⟩)) ∨
    ∃ bank w', (pollRound released ()).run t.perform t.limit w = (.ok (.inr bank), w') ∧
      w'.cycles + w.vain ≤ w.cycles + 2 + w'.vain ∧ w.vain ≤ w'.vain := by
  have polled := run_poll (t := t) released w
  have round := run_bind t.perform t.limit (PendingSwap.poll ⟨.sub, released⟩) (fun
    | some bank => .done (.inr bank)
    | none => .done (.inl () : Unit ⊕ Bank)) w
  rw [show Program.run t.perform t.limit (PendingSwap.poll ⟨.sub, released⟩) w = _ from polled]
    at round
  cases returning : (t.around w.cycles w.chip).mode.returning with
  | true =>
    rw [if_pos returning] at round
    exact .inl ⟨_, round⟩
  | false =>
    rw [if_neg (by simp [returning])] at round
    exact .inr ⟨_, _, round, by dsimp only; omega, Nat.le_add_right _ _⟩

/-- The rounds are looks in vain, but for the last one if it ends the wait. -/
theorem run_pollRounds (released : Bank) (count : Nat) (w : Tally) :
    ∃ outcome w', repeatUntil
        (fun state w => (pollRound released state).run t.perform t.limit w) count () w =
          (outcome, w') ∧
      w'.cycles + w.vain ≤ w.cycles + 2 + w'.vain ∧ w.vain ≤ w'.vain ∧
      ((∃ bank, outcome = .ok bank) ∨ outcome = .error .stuck ∧ w.vain + count ≤ w'.vain) := by
  induction count generalizing w with
  | zero => exact ⟨_, w, rfl, by omega, Nat.le_refl _, .inr ⟨rfl, Nat.le_refl _⟩⟩
  | succ count ih =>
    rw [repeatUntil]
    rcases run_pollRound (t := t) released w with ⟨chip, again⟩ | ⟨bank, w', ends, cycles, vain⟩
    · rw [again]
      obtain ⟨outcome, w', ran, cycles, vain, ends⟩ := ih ⟨chip, w.cycles + 1, w.vain + 1⟩
      dsimp only at cycles vain ends
      refine ⟨outcome, w', ran, by omega, by omega, ends.imp_right ?_⟩
      rintro ⟨stuck, enough⟩
      exact ⟨stuck, by omega⟩
    · rw [ends]
      exact ⟨_, w', rfl, cycles, vain, .inl ⟨bank, rfl⟩⟩

/-- The wait for the exchange has no budget. It goes on with every look in vain. -/
theorem waitExchange (may : V) (released : Bank) :
    t.Spends 2 V (PendingSwap.wait ⟨.sub, released⟩) fun _ => True := by
  intro w
  obtain ⟨outcome, w', ran, cycles, vain, ends⟩ := run_pollRounds released t.limit w
  have waited : t.run (PendingSwap.wait ⟨.sub, released⟩) w = (outcome, w') := by
    rw [wait_eq, Trial.run, loop, Program.run]
    rw [ran]
    cases outcome <;> rfl
  refine ⟨outcome, w', waited, cycles, vain, fun free => absurd may free, ?_⟩
  rcases ends with ⟨bank, rfl⟩ | stuck
  · exact .inl ⟨bank, rfl, trivial⟩
  · exact .inr ⟨may, .inr stuck⟩

/-! ### The registers of the Sub processor -/

theorem readFlag (side : Side) : t.Spends 1 V (readByte side.flag) fun _ => True :=
  cycle rfl fun chip => ⟨_, _, chip.perform_readFlag .sub side⟩

theorem setFlag (value : UInt8) : t.Spends 1 V (Side.sub.setFlag value) fun _ => True :=
  cycle rfl fun chip => ⟨_, _, chip.perform_setFlag .sub value⟩

theorem readParam {index : Nat} (h : index < 4) :
    t.Spends 1 V (SubRegisters.readParam index) fun _ => True := by
  rw [SubRegisters.readParam, if_neg (by omega), Register.commandWord, if_pos (by omega)]
  refine cycle ?_ fun chip => ⟨_, _, chip.perform_readParam .sub h⟩
  interval_cases index <;> rfl

theorem readParams : t.Spends 4 V SubRegisters.readParams fun _ => True :=
  (readParam (by decide)).bind fun _ _ => (readParam (by decide)).bind fun _ _ =>
    (readParam (by decide)).bind fun _ _ => (readParam (by decide)).map fun _ _ => trivial

theorem writeResult {index : Nat} (h : index < 8) (value : UInt16) :
    t.Spends 1 V (SubRegisters.writeResult index value) fun _ => True := by
  rw [SubRegisters.writeResult, Register.statusWord, if_pos (by omega)]
  exact cycle rfl fun chip => ⟨_, _, chip.perform_writeResult h value⟩

/-! ### The bank of the Sub processor -/

theorem acquire (may : V) : t.Spends 2 V (Grant.acquire .sub) fun
    | .ok grant => grant.side = .sub
    | .error _ => True := by
  refine ((look may).map (ψ := fun _ => True) fun _ _ => trivial).bind (m := 1) ?_
  rintro (_ | _) -
  · exact ((look may).map (ψ := fun _ => True) fun _ _ => trivial).map fun _ _ => rfl
  · exact done trivial

theorem beginSwap (may : V) (bank : Bank) :
    t.Spends 2 V (Grant.beginSwap ⟨.sub, bank⟩) (· = ⟨.sub, bank⟩) := by
  have own : ¬ Side.sub.swapBit &&& ~~~Side.sub.modeWritable ≠ 0 := by decide
  have write (value : UInt16) : t.Spends 1 V (writeWord Register.memMode value) fun _ => True :=
    cycle rfl fun chip => ⟨_, _, chip.perform_writeMode .sub value⟩
  have request : t.Spends 2 V (Side.sub.setModeBits Side.sub.swapBit) fun _ => True := by
    rw [Side.setModeBits, if_neg own]
    exact (look may).bind fun mode _ => write _
  show t.Spends 2 V ((Side.sub.setModeBits Side.sub.swapBit).bind fun _ =>
    .done (PendingSwap.mk .sub bank)) _
  exact request.map fun _ _ => rfl

theorem withBytes {Q : α → Prop} (may : V) (grant : Grant)
    {work : BankBytes → Checked (α × BankBytes)}
    (works : ∀ bytes, Yields (work bytes) fun result => Q result.1) :
    t.Spends 2 V (grant.withBytes work) Q := by
  have leave (bytes : BankBytes) :
      t.Spends 1 V (Program.cycle (.leaveBank grant.bank bytes)) fun _ => True :=
    cycle rfl fun chip => ⟨(), chip.leaveBank grant.bank bytes, rfl⟩
  refine Spends.bind (n := 1) (m := 1) (enterBank may grant.bank) fun bytes _ => ?_
  obtain ⟨⟨value, bytes'⟩, eq, known⟩ := works bytes
  show t.Spends 1 V ((Program.ofChecked (work bytes)).bind _) Q
  rw [eq]
  exact (leave bytes').map fun _ _ => known

theorem swap (may : V) {grant : Grant} (side : grant.side = .sub) :
    t.Spends 4 V (discard grant.swap) fun _ => True := by
  obtain ⟨_, bank⟩ := grant
  obtain rfl : _ = Side.sub := side
  have swapped : t.Spends 4 V (Grant.swap ⟨.sub, bank⟩) fun _ => True := by
    refine Spends.bind (n := 2) (m := 2) (beginSwap may bank) ?_
    rintro _ rfl
    exact waitExchange may bank
  show t.Spends 4 V ((Grant.swap ⟨.sub, bank⟩).bind fun _ => .done ()) _
  exact swapped.map fun _ _ => trivial

/-! ### The responder -/

theorem pollCommand (responder : Responder) :
    t.Spends 1 V responder.pollCommand fun _ => True := by
  unfold Responder.pollCommand
  split
  · exact done trivial
  · exact (readFlag .main).map fun _ _ => trivial

theorem waitCommandWithin (budget : Budget) (responder : Responder) :
    t.Spends budget.polls V (responder.waitCommandWithin budget) fun _ => True :=
  (await (pollCommand responder) budget).mono (by omega) fun _ h => h

theorem ack (responder : Responder) : t.Spends 2 V responder.ack fun _ => True := by
  refine Spends.bind (n := 1) (m := 1) (pollCommand responder) ?_
  rintro (_ | opcode) -
  · exact done trivial
  · exact (setFlag _).map fun _ _ => trivial

theorem pollReleased (responder : Responder) :
    t.Spends 2 V (Responder.pollReleased responder) fun _ => True := by
  have looks : t.Spends 2 V responder.pollRelease fun _ => True := by
    unfold Responder.pollRelease
    split
    · exact done trivial
    · exact done trivial
    · refine Spends.bind (n := 1) (m := 1) (readFlag .main) fun flag _ => ?_
      split
      · exact done trivial
      · exact (setFlag _).map fun _ _ => trivial
  refine Spends.bind (m := 0) looks ?_
  rintro ⟨e | (_ | _), _⟩ -
  · exact done trivial
  · exact done trivial
  · exact done trivial

theorem finishWithin (budget : Budget) (status : Status) (responder : Responder) :
    t.Spends (1 + budget.polls * 2) V (Responder.finishWithin budget status responder)
      fun _ => True := by
  have signals : t.Spends 1 V (responder.signal status) fun _ => True := by
    unfold Responder.signal
    split
    · exact done trivial
    · exact (setFlag _).map fun _ _ => trivial
  refine Spends.bind signals ?_
  rintro ⟨e | _, responder⟩ -
  · exact done trivial
  · exact upTo pollReleased budget.polls responder

end Spends

end Trial

/-! ## The parts of a bounded call -/

namespace Dispatcher

variable {R : Type}

/-- Waits for the next command, after the release of the last one. -/
def awaitNext (budget : Budget) (d : Dispatcher R) :
    Program (Except LinkError UInt8 × Dispatcher R) := do
  match ← d.completeRelease budget with
  | (.error e, d) => return (.error e, d)
  | (.ok (), d) =>
    let found ← d.responder.waitCommandWithin budget
    return (found, d)

/-- Serves the command that was found. -/
def serveNext [Painter R] (budget : Budget) :
    Except LinkError UInt8 × Dispatcher R → Program (Except LinkError Status × Dispatcher R)
  | (.error e, d) => return (.error e, d)
  | (.ok raw, d) => do
    match ← d.answer raw (Responder.finishWithin budget) with
    | (.error .timeout, d) => return (.error .timeout, { d with unreleased := true })
    | result => return result

theorem serveWithin_eq_awaitNext [Painter R] (budget : Budget) (d : Dispatcher R) :
    d.serveWithin budget = (d.awaitNext budget).bind (serveNext budget) := by
  show (d.completeRelease budget).bind _ = ((d.completeRelease budget).bind _).bind _
  rw [bind_assoc]
  congr 1
  funext ⟨released, d⟩
  cases released with
  | error e => rfl
  | ok _ =>
    show (d.responder.waitCommandWithin budget).bind _ =
      ((d.responder.waitCommandWithin budget).bind _).bind _
    rw [bind_assoc]
    congr 1
    funext found
    cases found <;> rfl

/-- The byte is the code of a command that works on a bank. -/
def CallsForBank (raw : UInt8) : Prop :=
  ∃ opcode, Opcode.ofCode? raw = some opcode ∧ usesBank opcode = true

end Dispatcher

namespace Trial

open Dispatcher

variable {R : Type} {t : Trial} {V : Prop} {d : Dispatcher R}

namespace Spends

theorem completeRelease (budget : Budget) (d : Dispatcher R) :
    t.Spends (budget.polls * 2) V (d.completeRelease budget) fun result =>
      result.2.desktop = d.desktop ∧ result.2.painter = d.painter := by
  unfold Dispatcher.completeRelease
  split
  · exact (upTo pollReleased budget.polls d.responder).map fun _ _ => ⟨rfl, rfl⟩
  · exact done ⟨rfl, rfl⟩

/-- Nothing is looked for in vain before a command is found. -/
theorem awaitNext (budget : Budget) (d : Dispatcher R) :
    t.Spends (budget.polls * 3) V (d.awaitNext budget) fun result =>
      result.2.desktop = d.desktop ∧ result.2.painter = d.painter := by
  refine (Spends.bind (m := budget.polls) (completeRelease budget d) ?_).mono (by omega)
    fun _ h => h
  rintro ⟨e | _, d'⟩ same
  · exact done same
  · exact (waitCommandWithin budget d'.responder).map fun _ _ => same

theorem returnBank (may : V) : t.Spends 6 V returnBank fun _ => True := by
  refine Spends.bind (n := 2) (m := 4) (acquire may) ?_
  rintro (e | grant) side
  · exact done trivial
  · exact (swap may side).map fun _ _ => trivial

section

variable [Painter R] (sound : d.desktop.Sound)
  (paints : ∀ ops, (∀ op ∈ ops, PaintOp.Sound op) → Succeeds (Painter.paintAll d.painter ops))

include sound paints in
theorem renderFrame (may : V) : t.Spends 11 V d.renderFrame fun _ => True := by
  have painted (bytes : BankBytes) : Yields (d.paintInto bytes) fun _ => True := by
    refine (Compositor.paint_yields StandIn.keepsGood sound).bind ?_
    intro result known
    exact (paints _ known.1).bind fun painter _ => .pure trivial
  refine Spends.bind (n := 1) (m := 10) (writeResult (by decide) _) fun _ _ => ?_
  refine Spends.bind (n := 1) (m := 9) (writeResult (by decide) _) fun _ _ => ?_
  refine Spends.bind (n := 2) (m := 7) (acquire may) ?_
  rintro (e | grant) side
  · exact ((writeResult (by decide) _).map fun _ _ => trivial).mono (by decide) fun _ h => h
  · refine Spends.bind (n := 2) (m := 5)
      (withBytes (Q := fun _ => True) may grant fun bytes => painted bytes) fun d' _ => ?_
    refine Spends.bind (n := 4) (m := 1) (swap may side) fun _ _ => ?_
    exact (writeResult (by decide) _).map fun _ _ => trivial

include sound paints in
theorem perform (opcode : Opcode) (may : usesBank opcode = true → V) (params : Params) :
    t.Spends 11 V (d.perform opcode params) fun _ => True := by
  cases bank : usesBank opcode with
  | true =>
    rcases eq_of_usesBank bank with rfl | rfl
    · exact (renderFrame sound paints (may rfl)).map fun _ _ => trivial
    · exact ((returnBank (may rfl)).map fun _ _ => trivial).mono (by decide) fun _ h => h
  | false =>
    have publish (word : Option UInt16) : t.Spends 1 V (publish word) fun _ => True := by
      cases word with
      | none => exact done trivial
      | some word => exact writeResult (by decide) word
    rw [d.perform_eq params bank]
    refine (Spends.bind (n := 0) (m := 1) (ofChecked (d.effect_yields params sound opcode))
      fun result _ => ?_).mono (by decide) fun _ h => h
    exact (publish _).map fun _ _ => trivial

include sound paints in
theorem execute (raw : UInt8) (may : CallsForBank raw → V) :
    t.Spends 15 V (d.execute raw) fun _ => True := by
  unfold Dispatcher.execute
  split
  · exact done trivial
  · rename_i opcode known
    exact Spends.bind (n := 4) (m := 11) readParams fun params _ =>
      perform sound paints opcode (fun bank => may ⟨opcode, known, bank⟩) params

include sound paints in
theorem answer (budget : Budget) (raw : UInt8) (may : CallsForBank raw → V) :
    t.Spends (18 + budget.polls * 2) V (d.answer raw (Responder.finishWithin budget))
      fun _ => True := by
  refine (Spends.bind (m := 16 + budget.polls * 2) (ack d.responder) ?_).mono (by omega)
    fun _ h => h
  rintro ⟨e | _, responder⟩ -
  · exact done trivial
  · let d' : Dispatcher R := { d with responder }
    have carriedOut := execute (t := t) (d := d') sound paints raw may
    refine (Spends.bind (m := 1 + budget.polls * 2) carriedOut ?_).mono (by omega) fun _ h => h
    rintro ⟨status, d''⟩ -
    exact (finishWithin budget status d''.responder).map fun _ _ => trivial

end

theorem serveNext [Painter R] (budget : Budget) (next : Except LinkError UInt8 × Dispatcher R)
    (sound : next.2.desktop.Sound)
    (paints : ∀ ops, (∀ op ∈ ops, PaintOp.Sound op) →
      Succeeds (Painter.paintAll next.2.painter ops))
    (may : ∀ raw, next.1 = .ok raw → CallsForBank raw → V) :
    t.Spends (18 + budget.polls * 2) V (serveNext budget next) fun _ => True := by
  obtain ⟨e | raw, d⟩ := next
  · exact done trivial
  · refine Spends.bind (m := 0) (answer sound paints budget raw (may raw rfl)) ?_
    rintro ⟨(_ | _), _⟩ -
    · split <;> exact done trivial
    · exact done trivial

end Spends

/-! ## A chip that exchanges banks at once -/

/-- Exchanges are automatic, and none of the Sub processor is pending. -/
structure Prompt (chip : GateArray) : Prop where
  automatic : chip.automatic = true
  settled : chip.mode.returning = false

theorem Prompt.store {chip : GateArray} (prompt : Prompt chip) (side : Side) (offset : Nat)
    (value : UInt8) : Prompt (chip.store side offset value) := by
  unfold GateArray.store
  split
  · exact prompt
  split
  · refine ⟨prompt.automatic, ?_⟩
    rw [prompt.automatic]
    cases side with
    | main =>
      have same := chip.mode.requested_write_of_ne true (show Side.sub ≠ .main by decide)
      exact (same _).trans prompt.settled
    | sub => exact GateArray.returning_write prompt.settled _
  split
  · exact ⟨prompt.automatic, prompt.settled⟩
  · exact prompt

theorem Prompt.perform {chip chip' : GateArray} (prompt : Prompt chip) {side : Side} {a : Access}
    {answer : a.Answer} (eq : chip.perform side a = .ok (answer, chip')) : Prompt chip' :=
  GateArray.kept_by_perform (fun _ offset value prompt => prompt.store side offset value)
    (fun _ _ prompt => ⟨prompt.automatic, prompt.settled⟩) prompt eq

/-- A bus cycle of the Main processor, or a moment at which the chip may exchange the banks. -/
inductive Meanwhile (chip : GateArray) : GateArray → Prop
  | cycle {a : Access} {answer : a.Answer} {chip' : GateArray}
    (eq : chip.perform .main a = .ok (answer, chip')) : Meanwhile chip chip'
  | exchange : Meanwhile chip chip.stepHardware.2

theorem Prompt.meanwhile {chip chip' : GateArray} (prompt : Prompt chip)
    (moves : ReflTransGen Meanwhile chip chip') : Prompt chip' := by
  induction moves with
  | refl => exact prompt
  | tail _ move prompt =>
    cases move with
    | cycle eq => exact prompt.perform eq
    | exchange =>
      unfold GateArray.stepHardware
      split
      · exact ⟨prompt.automatic, rfl⟩
      · exact prompt

/-- Nothing happens around the Sub processor but bus cycles of the Main processor, and exchanges. -/
def Lawful (t : Trial) : Prop :=
  ∀ cycles chip, ReflTransGen Meanwhile chip (t.around cycles chip)

/-- Where exchanges are automatic, no look is in vain. -/
theorem vain_of_prompt {α : Type} (lawful : t.Lawful) (p : Program α) {w : Tally}
    (prompt : Prompt w.chip) : (t.run p w).2.vain = w.vain := by
  refine (Program.run_keeps (I := fun w' : Tally => Prompt w'.chip ∧ w'.vain = w.vain) ?_ p
    ⟨prompt, rfl⟩).2
  rintro a w' ⟨prompt, same⟩
  have here := prompt.meanwhile (lawful w'.cycles w'.chip)
  have none : (a.isLook && (t.around w'.cycles w'.chip).mode.returning).toNat = 0 := by
    rw [here.settled, Bool.and_false]
    rfl
  unfold Trial.perform
  dsimp only
  rw [none]
  split
  case h_1 eq => exact ⟨here.perform eq, same⟩
  case h_2 => exact ⟨here, same⟩

/-! ## A bounded call -/

/-- A bounded call makes `5 * budget.polls + 18` bus cycles at most, besides its looks in vain at an
exchange that is pending. It ends, or meets the Main processor in the bank, or looks in vain for as
long as a loop may go round. None of its looks is in vain, and it ends, unless the command that it
finds works on a bank; and none is in vain where exchanges are automatic. -/
theorem serveWithin_spends [Painter R] (t : Trial) (budget : Budget) {d : Dispatcher R}
    (sound : d.desktop.Sound)
    (paints : ∀ ops, (∀ op ∈ ops, PaintOp.Sound op) → Succeeds (Painter.paintAll d.painter ops))
    (chip : GateArray) :
    ∃ next between outcome last,
      t.run (d.awaitNext budget) ⟨chip, 0, 0⟩ = (.ok next, between) ∧
      t.run (d.serveWithin budget) ⟨chip, 0, 0⟩ = (outcome, last) ∧
      last.cycles ≤ 5 * budget.polls + 18 + last.vain ∧
      ((∃ result, outcome = .ok result) ∨
        (∃ bank, outcome = .error (.fault (.bankContention bank))) ∨
        outcome = .error .stuck ∧ t.limit ≤ last.vain) ∧
      ((∀ raw, next.1 = .ok raw → ¬ CallsForBank raw) →
        last.vain = 0 ∧ ∃ result, outcome = .ok result) ∧
      (Prompt chip → t.Lawful → last.vain = 0) := by
  obtain ⟨_, between, awaited, cycles, -, patient, ends⟩ :=
    Spends.awaitNext (t := t) (V := False) budget d ⟨chip, 0, 0⟩
  obtain ⟨next, rfl, desktop, painter⟩ | ⟨⟨⟩, -⟩ := ends
  have before : between.vain = 0 := patient not_false
  obtain ⟨outcome, last, served, cycles', -, patient', ends'⟩ :=
    Spends.serveNext (t := t) (V := ∃ raw, next.1 = .ok raw ∧ CallsForBank raw) budget next
      (desktop ▸ sound) (painter ▸ paints) (fun raw found calls => ⟨raw, found, calls⟩) between
  have ran : t.run (d.serveWithin budget) ⟨chip, 0, 0⟩ = (outcome, last) := by
    rw [serveWithin_eq_awaitNext]
    exact (Program.run_bind_of_ok _ awaited).trans served
  dsimp only at cycles
  refine ⟨next, between, outcome, last, awaited, ran, by omega, ?_, ?_, ?_⟩
  · rcases ends' with ⟨result, ended, -⟩ | ⟨-, contention | ⟨stuck, enough⟩⟩
    · exact .inl ⟨result, ended⟩
    · exact .inr (.inl contention)
    · exact .inr (.inr ⟨stuck, by omega⟩)
  · intro plain
    have free : ¬ ∃ raw, next.1 = .ok raw ∧ CallsForBank raw := fun ⟨raw, found, calls⟩ =>
      plain raw found calls
    refine ⟨(patient' free).trans before, ?_⟩
    rcases ends' with ⟨result, ended, -⟩ | ⟨may, -⟩
    · exact ⟨result, ended⟩
    · exact absurd may free
  · intro prompt lawful
    have none := vain_of_prompt lawful (d.serveWithin budget) (w := ⟨chip, 0, 0⟩) prompt
    rw [ran] at none
    exact none

/-- On a chip that exchanges banks at once, a posted command to return the bank is served within one
poll, by a call that the Main processor does not disturb. -/
theorem serveWithin_spends_undisturbed : ∃ (posted : Bus) (last : Tally),
    (Bus.initial true).run .main (Initiator.post .wramSwap .atRest) =
      (.ok (.ok (), ⟨.posted .wramSwap⟩), posted) ∧
    (Trial.run ⟨fun _ chip => chip, 1⟩
      ((Dispatcher.initial Canvas.blank (.standIns [])).serveWithin (.ofPolls 1))
      ⟨posted.chip, 0, 0⟩).2 = last ∧ last.vain = 0 ∧ last.cycles ≤ 23 := by
  have posts : ∃ posted : Bus, (Bus.initial true).run .main (Initiator.post .wramSwap .atRest) =
      (.ok (.ok (), ⟨.posted .wramSwap⟩), posted) ∧ Prompt posted.chip := ⟨_, rfl, rfl, rfl⟩
  obtain ⟨posted, post, prompt⟩ := posts
  obtain ⟨next, between, outcome, last, -, ran, cycles, -, -, none⟩ :=
    serveWithin_spends ⟨fun _ chip => chip, 1⟩ (.ofPolls 1)
      (d := .initial Canvas.blank (.standIns [])) Desktop.sound_initial
      (fun _ sound => Canvas.paintAll_yields _ sound) posted.chip
  have none := none prompt fun _ _ => .refl
  refine ⟨posted, last, post, congrArg Prod.snd ran, none, ?_⟩
  rw [none] at cycles
  exact cycles

end Trial

/-! ## A chip that does not exchange the banks -/

/-- An exchange that nobody is going to complete stays pending. -/
theorem Bus.poll_of_requested {bus : Bus} {side : Side} (unwatched : bus.watch = none)
    (requested : bus.chip.mode.requested side = true) (bank : Bank) (limit : Nat) :
    (PendingSwap.poll ⟨side, bank⟩).run (Bus.perform side) limit bus = (.ok none, bus) := by
  obtain ⟨chip, watch, writes, loads⟩ := bus
  obtain rfl : watch = none := unwatched
  show Program.run _ _ (if chip.mode.word &&& side.swapBit != 0 then .done none else _) _ = _
  rw [chip.mode.word_swapBit, if_pos requested]
  rfl

namespace Dispatcher

/-- A call that finds a request for the bank goes round for ever if the exchange stays pending. -/
theorem serveWithin_stuck {W R : Type} [Painter R]
    {exec : (a : Access) → W → Except Halt a.Answer × W} {limit : Nat}
    {start found acked read held stalled : W} {budget : Budget} {d d' : Dispatcher R}
    {responder : Responder} {params : Params} {grant : Grant} {pending : PendingSwap}
    (finds : (d.awaitNext budget).run exec limit start =
      (.ok (.ok Opcode.wramSwap.code, d'), found))
    (acks : d'.responder.ack.run exec limit found = (.ok (.ok (), responder), acked))
    (reads : SubRegisters.readParams.run exec limit acked = (.ok params, read))
    (acquires : (Grant.acquire .sub).run exec limit read = (.ok (.ok grant), held))
    (begins : grant.beginSwap.run exec limit held = (.ok pending, stalled))
    (pends : pending.poll.run exec limit stalled = (.ok none, stalled)) :
    (d.serveWithin budget).run exec limit start = (.error .stuck, stalled) := by
  have waits : grant.swap.run exec limit held = (.error .stuck, stalled) :=
    (run_bind_of_ok _ begins).trans (run_await_of_none pends)
  have returns : returnBank.run exec limit read = (.error .stuck, stalled) :=
    (run_bind_of_ok _ acquires).trans (run_bind_of_error _ (run_bind_of_error _ waits))
  have executes : ({ d' with responder }.execute Opcode.wramSwap.code).run exec limit acked =
      (.error .stuck, stalled) :=
    (run_bind_of_ok _ reads).trans (run_bind_of_error _ returns)
  have answers : (d'.answer Opcode.wramSwap.code (Responder.finishWithin budget)).run exec limit
      found = (.error .stuck, stalled) :=
    (run_bind_of_ok _ acks).trans (run_bind_of_error _ executes)
  rw [serveWithin_eq_awaitNext]
  exact (run_bind_of_ok _ finds).trans (run_bind_of_error _ answers)

/-- The Main processor posts a request for the bank, on a chip that does not exchange banks. The
bounded call that serves it goes round for ever, whatever its budget. -/
theorem stalled_swap_never_returns : ∃ posted : Bus,
    (Bus.initial false).run .main (Initiator.post .wramSwap .atRest) =
      (.ok (.ok (), ⟨.posted .wramSwap⟩), posted) ∧
    ∀ budget limit,
      (((initial Recording.empty (.standIns [])).serveWithin budget).run (Bus.perform .sub) limit
        posted).1 = .error .stuck := by
  refine ⟨_, rfl, ?_⟩
  rintro ⟨_ | more, positive⟩ limit
  · cases positive
  · exact congrArg Prod.fst (serveWithin_stuck rfl rfl rfl rfl rfl
      (Bus.poll_of_requested rfl rfl _ _))

end Dispatcher

end TwinDesk
