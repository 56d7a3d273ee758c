import Mathlib.Logic.Relation
import TwinDesk.Link.BankExchange
import TwinDesk.Proofs.Checked
import TwinDesk.Proofs.Hardware.Banks
import TwinDesk.Proofs.Link.Calls
import TwinDesk.Proofs.Link.Cycles

/-!
# The chip takes part

An exchange of the banks that is asked for waits for the chip, which may complete it at any moment,
between any two bus cycles of the processors.

Calls enter a bank and leave it in the next bus cycle. Since the chip stops whoever enters a bank
that is occupied, two processors are never inside of the same bank.

* `System.Turn` — a step of one of the processors, or of the chip.
* `System.upheld_of_turns` — assertions that the chip does not spoil are upheld.
* `Processor.inside?`, `System.never_inside_both` — the bank that a processor is inside of.
-/

namespace TwinDesk

open Program Relation

namespace System

variable {M S : Type}

/-- One step of one of the processors, or of the chip, which completes the waiting exchanges. -/
inductive Turn (main : Role M) (sub : Role S) : System M S → System M S → Prop where
  | processor {system system' : System M S} (step : Step main sub system system') :
    Turn main sub system system'
  | chip {system : System M S} (pending : system.chip.swapPending = true) :
    Turn main sub system { system with chip := system.chip.stepHardware.2 }

section

variable {rules : Rules} {main : Role M} {sub : Role S}
  {betweenM readyM : M → rules.World → Prop} {betweenS readyS : S → rules.World → Prop}
  (upholdsM : rules.Upholds .main main betweenM readyM)
  (upholdsS : rules.Upholds .sub sub betweenS readyS)
  (hardware : ∀ w, (rules.chip w).swapPending = true →
    ∃ w', rules.chip w' = (rules.chip w).stepHardware.2 ∧ ∀ side, rules.Moves side w w')
include upholdsM upholdsS hardware

/-- A turn keeps the assertions of both processors in force, if an exchange that the chip completes
is a move that either of them allows for. -/
theorem moved_of_turn {system system' : System M S} {w : rules.World}
    (chip : rules.chip w = system.chip)
    (inForceM : rules.InForce .main betweenM readyM system.main w)
    (inForceS : rules.InForce .sub betweenS readyS system.sub w)
    (turn : Turn main sub system system') :
    ∃ w', (w' = w ∨ ∃ side, rules.Moves side w w') ∧ rules.chip w' = system'.chip ∧
      rules.InForce .main betweenM readyM system'.main w' ∧
      rules.InForce .sub betweenS readyS system'.sub w' := by
  cases turn with
  | processor step => exact moved_of_step upholdsM upholdsS chip inForceM inForceS step
  | chip pending =>
    rw [← chip] at pending ⊢
    obtain ⟨w', eq, move⟩ := hardware w pending
    exact ⟨w', .inr ⟨.main, move .main⟩, eq, inForceM.moved upholdsM (move .sub),
      inForceS.moved upholdsS (move .main)⟩

/-- The assertions of both processors are upheld. -/
theorem upheld_of_turns {start system : System M S}
    (initially : Upheld rules betweenM readyM betweenS readyS start)
    (run : ReflTransGen (Turn main sub) start system) :
    Upheld rules betweenM readyM betweenS readyS system := by
  induction run with
  | refl => exact initially
  | tail _ turn upheld =>
    obtain ⟨w, chip, inForceM, inForceS⟩ := upheld
    obtain ⟨w', -, inForce⟩ :=
      moved_of_turn upholdsM upholdsS hardware chip inForceM inForceS turn
    exact ⟨w', inForce⟩

end

end System

/-! ## Inside of a bank -/

theorem GateArray.banks_store (chip : GateArray) (side : Side) (offset : Nat) (value : UInt8) :
    (chip.store side offset value).banks = chip.banks := by
  unfold store
  split
  · rfl
  split
  · rfl
  split <;> rfl

/-- Where a bus cycle takes a processor that is inside of a bank, or of none. A bank that is entered
is left in the next cycle. -/
def Access.leads : Option Bank → Access → Option (Option Bank)
  | none, .enterBank bank => some (some bank)
  | none, .leaveBank _ _ => none
  | none, _ => some none
  | some bank, .leaveBank left _ => if left = bank then some none else none
  | some _, _ => none

theorem Access.leads_leaveBank (bank left : Bank) (bytes : BankBytes) :
    (leaveBank left bytes).leads (some bank) = if left = bank then some none else none := by
  rfl

/-- All other cycles leave the banks alone. -/
theorem GateArray.banks_of_perform {a : Access} {side : Side} {chip chip' : GateArray}
    {answer : a.Answer} (outside : a.leads none = some none)
    (eq : chip.perform side a = .ok (answer, chip')) : chip'.banks = chip.banks := by
  cases a with
  | enterBank => cases outside
  | leaveBank => cases outside
  | readByte offset | readWord offset =>
    obtain ⟨_, -, eq⟩ := Checked.map_eq_ok_iff.mp eq
    cases eq
    rfl
  | writeByte offset value =>
    obtain ⟨_, write, eq⟩ := Checked.map_eq_ok_iff.mp eq
    cases eq
    rw [eq_store_of_writeByte write]
    exact chip.banks_store _ _ _
  | writeWord offset value =>
    obtain ⟨_, write, eq⟩ := Checked.map_eq_ok_iff.mp eq
    cases eq
    rw [eq_store_of_writeWord write]
    exact (banks_store _ _ _ _).trans (chip.banks_store _ _ _)
  | loadProgram =>
    cases eq
    rfl

/-- What stores of a side keep, and does not speak of the banks, its bus cycles keep. -/
theorem GateArray.kept_by_perform {P : GateArray → Prop} {side : Side}
    (stores : ∀ chip offset value, P chip → P (chip.store side offset value))
    (banks : ∀ chip banks, P chip → P { chip with banks }) {a : Access} {chip chip' : GateArray}
    {answer : a.Answer} (holds : P chip) (eq : chip.perform side a = .ok (answer, chip')) :
    P chip' := by
  cases a with
  | readByte offset | readWord offset =>
    obtain ⟨_, -, eq⟩ := Checked.map_eq_ok_iff.mp eq
    cases eq
    exact holds
  | writeByte offset value =>
    obtain ⟨_, write, eq⟩ := Checked.map_eq_ok_iff.mp eq
    cases eq
    rw [eq_store_of_writeByte write]
    exact stores _ _ _ holds
  | writeWord offset value =>
    obtain ⟨_, write, eq⟩ := Checked.map_eq_ok_iff.mp eq
    cases eq
    rw [eq_store_of_writeWord write]
    exact stores _ _ _ (stores _ _ _ holds)
  | enterBank bank =>
    cases occupied : (chip.bank bank).occupied with
    | true =>
      rw [perform_enterBank_occupied side occupied] at eq
      cases eq
    | false =>
      rw [perform_enterBank side occupied] at eq
      cases eq
      exact banks _ _ holds
  | leaveBank bank bytes =>
    cases eq
    exact banks _ _ holds
  | loadProgram =>
    cases eq
    exact holds

/-- What a step of a processor may do to the banks: the bank that it is inside of afterwards was
vacant and is occupied now, and the others stay as occupied as they were. -/
structure Occupies (inside inside' : Option Bank) (chip chip' : GateArray) : Prop where
  entered : ∀ bank, inside' = some bank →
    (chip.bank bank).occupied = false ∧ (chip'.bank bank).occupied = true
  stays : ∀ bank, (chip.bank bank).occupied = true → inside ≠ some bank →
    (chip'.bank bank).occupied = true

theorem Occupies.of_same {inside : Option Bank} {chip chip' : GateArray}
    (banks : chip'.banks = chip.banks) : Occupies inside none chip chip' := by
  refine ⟨nofun, fun bank occupied _ => ?_⟩
  unfold GateArray.bank at occupied ⊢
  rw [banks]
  exact occupied

/-- What a bus cycle does to the banks, going by the bank that its processor is inside of. -/
theorem Access.leads_occupies {a : Access} {side : Side} {chip chip' : GateArray}
    {answer : a.Answer} {inside inside' : Option Bank} (leads : a.leads inside = some inside')
    (eq : chip.perform side a = .ok (answer, chip')) : Occupies inside inside' chip chip' := by
  cases inside with
  | none =>
    cases a with
    | enterBank entered =>
      cases leads
      cases occupied : (chip.bank entered).occupied with
      | true =>
        -- the chip stops whoever enters an occupied bank
        rw [GateArray.perform_enterBank_occupied side occupied] at eq
        cases eq
      | false =>
        rw [GateArray.perform_enterBank side occupied] at eq
        cases eq
        refine ⟨?_, fun bank busy _ => ?_⟩
        · rintro _ ⟨⟩
          refine ⟨occupied, ?_⟩
          rw [GateArray.bank_entered, if_pos rfl]
        · rw [GateArray.bank_entered]
          split
          · rfl
          · exact busy
    | leaveBank => cases leads
    | _ =>
      cases leads
      exact .of_same (GateArray.banks_of_perform rfl eq)
  | some bank =>
    cases a with
    | leaveBank left bytes =>
      rw [leads_leaveBank] at leads
      split at leads
      · rename_i here
        cases leads
        cases eq
        refine ⟨nofun, fun other busy ne => ?_⟩
        rw [GateArray.bank_leaveBank, if_neg ?_]
        · exact busy
        · intro same
          exact ne (congrArg some (here.symm.trans same.symm))
      · cases leads
    | _ => cases leads

namespace Program

variable {α β : Type}

/-- A program of a processor that is inside of a bank, or of none: it enters and leaves banks by
turns. -/
def Bracketed : Option Bank → {α : Type} → Program α → Prop
  | inside, _, .done _ => inside = none
  | _, _, .fault _ => True
  | inside, _, .access a next =>
    ∃ inside', a.leads inside = some inside' ∧ ∀ answer, (next answer).Bracketed inside'
  | inside, _, .spin body _ next =>
    inside = none ∧ (∀ state, (body state).Bracketed none) ∧ ∀ value, (next value).Bracketed none

theorem Bracketed.bind {inside : Option Bank} {p : Program α} {f : α → Program β}
    (bracketed : p.Bracketed inside) (rest : ∀ value, (f value).Bracketed none) :
    (p.bind f).Bracketed inside := by
  induction p generalizing inside with
  | done value =>
    obtain rfl : inside = none := bracketed
    exact rest value
  | fault => trivial
  | access a next ih =>
    obtain ⟨inside', leads, bracketed⟩ := bracketed
    exact ⟨inside', leads, fun answer => ih answer (bracketed answer) rest⟩
  | spin body start next _ ih =>
    exact ⟨bracketed.1, bracketed.2.1, fun value => ih value (bracketed.2.2 value) rest⟩

theorem Bracketed.of_uses {ok : Access → Prop} (outside : ∀ a, ok a → a.leads none = some none)
    {p : Program α} (uses : p.Uses ok) : p.Bracketed none := by
  induction p with
  | done => rfl
  | fault => trivial
  | access a next ih =>
    exact ⟨none, outside a uses.1, fun answer => ih answer (uses.2 answer)⟩
  | spin body start next ihBody ih =>
    exact ⟨rfl, fun state => ihBody state (uses.1 state), fun value => ih value (uses.2 value)⟩

/-- Cycles that leave the banks alone keep a processor outside. -/
theorem Bracketed.of_plain {p : Program α} (uses : p.Uses Access.Plain) : p.Bracketed none := by
  refine of_uses (fun a plain => ?_) uses
  cases a with
  | enterBank | leaveBank => exact plain.elim
  | _ => rfl

theorem Bracketed.of_onFlags {p : Program α} (uses : p.Uses Access.OnFlag) : p.Bracketed none :=
  of_plain (uses.mono fun _ onFlag => onFlag.plain)

theorem Bracketed.cycle {a : Access} (outside : a.leads none = some none) :
    (Program.cycle a).Bracketed none :=
  ⟨none, outside, fun _ => rfl⟩

theorem Bracketed.ofChecked (checked : Checked α) : (Program.ofChecked checked).Bracketed none := by
  cases checked with
  | ok value => rfl
  | error e => trivial

theorem Bracketed.await {look : Program (Option β)} (bracketed : look.Bracketed none) :
    (Program.await look).Bracketed none :=
  ⟨rfl, fun _ => bracketed.bind fun
    | some _ => rfl
    | none => rfl, fun _ => rfl⟩

end Program

namespace Side

variable (side : Side)

theorem swapRequested_bracketed : side.swapRequested.Bracketed none :=
  (Bracketed.cycle rfl).bind fun _ => rfl

theorem currentBank_bracketed : side.currentBank.Bracketed none :=
  (Bracketed.cycle rfl).bind fun _ => rfl

theorem setModeBits_bracketed (bits : UInt16) : (side.setModeBits bits).Bracketed none := by
  have set : ((readWord Register.memMode).bind fun mode =>
      writeWord Register.memMode (mode ||| (bits &&& side.modeWritable))).Bracketed none :=
    (Bracketed.cycle rfl).bind fun _ => .cycle rfl
  unfold setModeBits
  split
  · trivial
  · exact set

end Side

namespace Grant

theorem acquire_bracketed (side : Side) : (acquire side).Bracketed none := by
  refine side.swapRequested_bracketed.bind ?_
  rintro (_ | _)
  · exact side.currentBank_bracketed.bind fun _ => rfl
  · rfl

variable (grant : Grant)

/-- Work on a bank enters it and leaves it. -/
theorem withBytes_bracketed {α : Type} (work : BankBytes → Checked (α × BankBytes)) :
    (grant.withBytes work).Bracketed none := by
  refine ⟨some grant.bank, rfl, fun bytes => ?_⟩
  show ((ofChecked (work bytes)).bind _).Bracketed _
  cases work bytes with
  | error e => trivial
  | ok result =>
    refine ⟨none, ?_, fun _ => rfl⟩
    rw [Access.leads_leaveBank, if_pos rfl]

theorem swap_bracketed : grant.swap.Bracketed none := by
  have begun : grant.beginSwap.Bracketed none :=
    (grant.side.setModeBits_bracketed _).bind fun _ => rfl
  refine begun.bind fun pending => .await (pending.side.swapRequested_bracketed.bind ?_)
  rintro (_ | _)
  · exact pending.side.currentBank_bracketed.bind fun _ => rfl
  · rfl

theorem discard_swap_bracketed : (discard grant.swap).Bracketed none :=
  grant.swap_bracketed.bind fun _ => rfl

end Grant

namespace Processor

variable {S : Type}

/-- The bank that a processor is inside of: it has entered the bank, and leaves it next. -/
def inside? : Processor S → Option Bank
  | calling _ (.access (.leaveBank bank _) _) => some bank
  | _ => none

/-- A processor is inside of a bank, or of none, and goes on accordingly. -/
def Within (inside : Option Bank) : Processor S → Prop
  | free _ => inside = none
  | calling _ rest => rest.Bracketed inside

variable {inside : Option Bank} {processor processor' : Processor S}

theorem Within.of_inside? {bank : Bank} (within : processor.Within inside)
    (eq : processor.inside? = some bank) : inside = some bank := by
  unfold inside? at eq
  split at eq
  · cases eq
    obtain ⟨inside', leads, -⟩ := within
    cases inside with
    | none => cases leads
    | some bank' =>
      rw [Access.leads_leaveBank] at leads
      split at leads
      · rename_i same
        rw [same]
      · cases leads
  · cases eq

theorem within_resume {rest : Program (GateArray → S)} (chip : GateArray) (state : S)
    (bracketed : rest.Bracketed inside) : (resume chip state rest).Within inside := by
  unfold resume
  split
  · rename_i leave eq
    rw [Program.eq_done_of_value? eq] at bracketed
    exact bracketed
  · exact bracketed

theorem Within.step {role : Role S} {side : Side} {chip chip' : GateArray}
    (brackets : ∀ call state, (role.run call state).Bracketed none)
    (within : processor.Within inside) (step : processor.Step role side chip processor' chip') :
    ∃ inside', processor'.Within inside' ∧ Occupies inside inside' chip chip' := by
  cases step with
  | call call allowed => exact ⟨none, within_resume _ _ (brackets call _), .of_same rfl⟩
  | @cycle state rest rest' chip chip' eq =>
    have bracketed : rest.Bracketed inside := within
    cases rest with
    | done leave =>
      cases eq
      exact ⟨none, within_resume _ _ rfl, .of_same rfl⟩
    | fault => cases eq
    | access a next =>
      obtain ⟨inside', leads, bracketed⟩ := bracketed
      obtain ⟨⟨answer, chip''⟩, performed, eq⟩ := Checked.map_eq_ok_iff.mp eq
      cases eq
      exact ⟨inside', within_resume _ _ (bracketed answer), Access.leads_occupies leads performed⟩
    | spin body start next =>
      cases eq
      obtain ⟨rfl, body, next⟩ := bracketed
      refine ⟨none, within_resume _ _ ((body _).bind ?_), .of_same rfl⟩
      rintro (state | value)
      · exact ⟨rfl, body, next⟩
      · exact next value

end Processor

namespace System

variable {M S : Type} {main : Role M} {sub : Role S}

/-- Each processor is inside of one bank at most, which is occupied, and not of the same one. -/
def Sorted (system : System M S) : Prop :=
  ∃ insideM insideS, system.main.Within insideM ∧ system.sub.Within insideS ∧
    (∀ bank, insideM = some bank → (system.chip.bank bank).occupied = true) ∧
    (∀ bank, insideS = some bank → (system.chip.bank bank).occupied = true) ∧
    ∀ bank, insideM = some bank → insideS ≠ some bank

theorem Sorted.turn {system system' : System M S}
    (bracketsM : ∀ call state, (main.run call state).Bracketed none)
    (bracketsS : ∀ call state, (sub.run call state).Bracketed none)
    (sorted : system.Sorted) (turn : Turn main sub system system') : system'.Sorted := by
  obtain ⟨insideM, insideS, withinM, withinS, busyM, busyS, apart⟩ := sorted
  -- a bank that is entered was vacant, so the other processor is not inside of it
  have new {chip chip' : GateArray} {inside inside' other : Option Bank}
      (occupies : Occupies inside inside' chip chip')
      (busy : ∀ bank, other = some bank → (chip.bank bank).occupied = true) (bank : Bank)
      (entered : inside' = some bank) : other ≠ some bank := by
    intro same
    have vacant := (occupies.entered bank entered).1
    rw [busy bank same] at vacant
    cases vacant
  cases turn with
  | processor step =>
    cases step with
    | main s step =>
      obtain ⟨insideM', withinM', occupies⟩ := withinM.step bracketsM step
      exact ⟨insideM', insideS, withinM', withinS, fun bank eq => (occupies.entered bank eq).2,
        fun bank eq => occupies.stays bank (busyS bank eq) fun same => apart bank same eq,
        new occupies busyS⟩
    | sub m step =>
      obtain ⟨insideS', withinS', occupies⟩ := withinS.step bracketsS step
      exact ⟨insideM, insideS', withinM, withinS',
        fun bank eq => occupies.stays bank (busyM bank eq) (apart bank eq),
        fun bank eq => (occupies.entered bank eq).2,
        fun bank eqM eqS => new occupies busyM bank eqS eqM⟩
  | chip pending =>
    rw [GateArray.stepHardware_of_pending pending]
    exact ⟨insideM, insideS, withinM, withinS, busyM, busyS, apart⟩

/-- Processors whose calls enter and leave banks by turns are never inside of the same bank. -/
theorem never_inside_both {start system : System M S}
    (bracketsM : ∀ call state, (main.run call state).Bracketed none)
    (bracketsS : ∀ call state, (sub.run call state).Bracketed none)
    (sorted : start.Sorted) (run : ReflTransGen (Turn main sub) start system) (bank : Bank) :
    system.main.inside? = some bank → system.sub.inside? ≠ some bank := by
  have sorted : system.Sorted := by
    induction run with
    | refl => exact sorted
    | tail _ turn sorted => exact sorted.turn bracketsM bracketsS turn
  obtain ⟨insideM, insideS, withinM, withinS, -, -, apart⟩ := sorted
  intro eqM eqS
  exact apart bank (withinM.of_inside? eqM) (withinS.of_inside? eqS)

end System

end TwinDesk
