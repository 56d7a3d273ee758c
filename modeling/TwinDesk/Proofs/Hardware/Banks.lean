import TwinDesk.Link.Program

/-!
# The memory mode register and the banks

How the processors see and set the bits of the memory mode register, and what entering and leaving
do to the banks.

* `MemMode.word_swapBit`, `MemMode.word_select` — what a processor reads from the register.
* `MemMode.write_swapBit`, `MemMode.write_returnBit` — a request on a chip that exchanges banks at
  once, and on any chip.
* `GateArray.bank_entered`, `GateArray.bank_leaveBank` — one bank changes, the other one does not.
-/

namespace TwinDesk

theorem Side.eq_or_eq_peer (any side : Side) : any = side ∨ any = side.peer := by
  cases any <;> cases side <;> decide

/-! ## The memory mode register -/

namespace MemMode

/-- The memory mode register as a processor reads it. -/
def word (mode : MemMode) : UInt16 :=
  GateArray.join 0 mode.lowByte

/-- The word shows the request of either side. -/
theorem word_swapBit (mode : MemMode) (side : Side) :
    (mode.word &&& side.swapBit != 0) = mode.requested side := by
  obtain ⟨returning, requesting, twoBanks, select⟩ := mode
  cases side <;> cases returning <;> cases requesting <;> cases twoBanks <;> cases select <;> decide

theorem word_select (mode : MemMode) :
    (mode.word &&& Register.modeSelect != 0) = mode.select := by
  obtain ⟨returning, requesting, twoBanks, select⟩ := mode
  cases returning <;> cases requesting <;> cases twoBanks <;> cases select <;> decide

/-- A new request of a processor completes at once on a chip that exchanges banks automatically. -/
theorem write_swapBit {mode : MemMode} {side : Side} (settled : mode.requested side = false) :
    mode.write true side
      (mode.word ||| (side.swapBit &&& side.modeWritable)).toUInt8.toUInt16 = mode.flip := by
  obtain ⟨returning, requesting, twoBanks, select⟩ := mode
  cases side with
  | main =>
    obtain rfl : requesting = false := settled
    cases returning <;> cases twoBanks <;> cases select <;> decide
  | sub =>
    obtain rfl : returning = false := settled
    cases requesting <;> cases twoBanks <;> cases select <;> decide

/-- On any chip, a new request of the Sub processor either waits or is complete at once. -/
theorem write_returnBit (automatic : Bool) {mode : MemMode} (settled : mode.returning = false) :
    let mode' := mode.write automatic .sub
      (mode.word ||| (Side.sub.swapBit &&& Side.sub.modeWritable)).toUInt8.toUInt16
    mode'.requesting = mode.requesting ∧
      ((mode'.returning = true ∧ mode'.select = mode.select) ∨
        (mode'.returning = false ∧ mode'.select = !mode.select)) := by
  obtain ⟨returning, requesting, twoBanks, select⟩ := mode
  obtain rfl : returning = false := settled
  cases automatic <;> cases requesting <;> cases twoBanks <;> cases select <;> decide

/-- What a processor writes to ask for an exchange sets its request bit. -/
theorem word_asks (mode : MemMode) (side : Side) :
    ((mode.word ||| (side.swapBit &&& side.modeWritable)).toUInt8.toUInt16 &&& side.swapBit != 0) =
      true := by
  obtain ⟨returning, requesting, twoBanks, select⟩ := mode
  cases side <;> cases returning <;> cases requesting <;> cases twoBanks <;> cases select <;> decide

theorem requested_assign (mode : MemMode) {side : Side} {value : UInt16}
    (asks : (value &&& side.swapBit != 0) = true) :
    (mode.assign side value).requested side = true := by
  cases side <;> exact asks

theorem select_assign (mode : MemMode) (side : Side) (value : UInt16) :
    (mode.assign side value).select = mode.select := by
  cases side <;> rfl

/-- A write that sets the request bit waits for an exchange, or has made one. -/
theorem requested_or_flipped (mode : MemMode) (automatic : Bool) {side : Side} {value : UInt16}
    (asks : (value &&& side.swapBit != 0) = true) :
    (mode.write automatic side value).requested side = true ∨
      (mode.write automatic side value).select = !mode.select := by
  unfold write
  dsimp only
  split
  · refine .inr ?_
    cases side <;> rfl
  · exact .inl (mode.requested_assign asks)

end MemMode

namespace GateArray

variable (chip : GateArray)

theorem perform_readMode (side : Side) :
    chip.perform side (.readWord Register.memMode) = .ok (chip.mode.word, chip) := by
  rfl

theorem perform_writeMode (side : Side) (value : UInt16) :
    chip.perform side (.writeWord Register.memMode value) =
      .ok ((), { chip with
        mode := chip.mode.write chip.automatic side value.toUInt8.toUInt16 }) := by
  rfl

theorem stepHardware_of_pending {chip : GateArray} (pending : chip.swapPending = true) :
    chip.stepHardware.2 = { chip with mode := chip.mode.complete } := by
  unfold swapPending at pending
  unfold stepHardware
  rw [if_pos pending]

/-! ## Banks -/

theorem get_set_bank (banks : Vector BankCell 2) (bank other : Bank) (cell : BankCell) :
    (banks.set bank.index cell bank.index_lt).get ⟨other.index, other.index_lt⟩ =
      if other = bank then cell else banks.get ⟨other.index, other.index_lt⟩ := by
  have at_index (cells : Vector BankCell 2) (i : Fin 2) : cells.get i = cells[i] := rfl
  rw [at_index, at_index]
  cases bank <;> cases other <;> simp [Bank.index]

/-- The chip with a processor inside of a bank. -/
def entered (bank : Bank) : GateArray :=
  { chip with
    banks := chip.banks.set bank.index { chip.bank bank with occupied := true } bank.index_lt }

theorem bank_entered (bank other : Bank) :
    (chip.entered bank).bank other =
      if other = bank then { chip.bank bank with occupied := true } else chip.bank other :=
  get_set_bank chip.banks bank other _

theorem bank_leaveBank (bank other : Bank) (bytes : BankBytes) :
    (chip.leaveBank bank bytes).bank other =
      if other = bank then ⟨bytes, false⟩ else chip.bank other :=
  get_set_bank chip.banks bank other _

theorem perform_enterBank {chip : GateArray} (side : Side) {bank : Bank}
    (vacant : (chip.bank bank).occupied = false) :
    chip.perform side (.enterBank bank) = .ok ((chip.bank bank).bytes, chip.entered bank) := by
  simp only [perform, enterBank, vacant]
  rfl

theorem perform_enterBank_occupied {chip : GateArray} (side : Side) {bank : Bank}
    (occupied : (chip.bank bank).occupied = true) :
    chip.perform side (.enterBank bank) = .error (.bankContention bank) := by
  simp only [perform, enterBank, occupied]
  rfl

theorem vacant_initial (automatic : Bool) (bank : Bank) :
    ((initial automatic).bank bank).occupied = false := by
  unfold initial GateArray.bank
  cases bank <;> rfl

end GateArray

end TwinDesk
