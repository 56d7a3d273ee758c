import TwinDesk.Hardware.Register

/-!
# The gate array

The chip between the two processors: the register window and both banks of word memory. It keeps
each processor to its own register bytes and its own memory mode bits, exchanges the banks when
asked, and stops a processor that breaks the rules with a fault.

Every function here is one bus cycle: it happens at once, between the cycles of the other
processor.

* `MemMode.requested_write_of_ne`, `MemMode.flip_flip` — a write leaves the other processor's
  request alone, and two exchanges restore the assignment.
* `GateArray.readByte_writeByte_same` — an owner reads back what it wrote.
-/

namespace TwinDesk

/-- The bytes of a bank. -/
abbrev BankBytes : Type := Vector UInt8 Layout.bankSize

/-- The byte of a bank at an index. -/
def BankBytes.read (bytes : BankBytes) (index : Nat) : Checked UInt8 :=
  if h : index < Layout.bankSize then .ok bytes[index] else .error .index

/-- The bytes of a bank with another one at an index. -/
def BankBytes.write (bytes : BankBytes) (index : Nat) (value : UInt8) : Checked BankBytes :=
  if h : index < Layout.bankSize then .ok (bytes.set index value) else .error .index

/-! ### The memory mode register -/

/-- The memory mode register, bit by bit. -/
structure MemMode where
  /-- The Sub processor has given its bank away and waits for the exchange. -/
  returning : Bool
  /-- The Main processor has given its bank away and waits for the exchange. -/
  requesting : Bool
  twoBanks : Bool
  /-- Which bank each processor sees; only the chip changes it. -/
  select : Bool
  deriving DecidableEq, Repr, Inhabited

namespace MemMode

/-- The register when the machine starts. -/
def initial : MemMode := ⟨false, false, false, false⟩

/-- The low byte of the register; its high byte is always zero. -/
def lowByte (mode : MemMode) : UInt8 :=
  (if mode.returning then 1 else 0) + (if mode.requesting then 2 else 0) +
    (if mode.twoBanks then 4 else 0) + (if mode.select then 8 else 0)

/-- Whether a processor's exchange request is waiting. -/
def requested (mode : MemMode) : Side → Bool
  | .main => mode.requesting
  | .sub => mode.returning

/-- Whether any exchange request is waiting. -/
def pending (mode : MemMode) : Bool :=
  mode.returning || mode.requesting

/-- The register without one processor's request. -/
def withdraw (mode : MemMode) : Side → MemMode
  | .main => { mode with requesting := false }
  | .sub => { mode with returning := false }

/-- The exchange of the two banks. -/
def flip (mode : MemMode) : MemMode :=
  { mode with select := !mode.select }

/-- The bits that a processor's write of `value` changes. -/
def assign (mode : MemMode) (side : Side) (value : UInt16) : MemMode :=
  match side with
  | .main =>
    { mode with
      requesting := value &&& Register.modeRequest != 0
      twoBanks := value &&& Register.modeTwoBanks != 0 }
  | .sub => { mode with returning := value &&& Register.modeReturn != 0 }

/-- A processor writes the register. Where exchanges are automatic, a new request completes within
the same cycle. -/
def write (mode : MemMode) (automatic : Bool) (side : Side) (value : UInt16) : MemMode :=
  let next := mode.assign side value
  if automatic && next.requested side && !mode.requested side then
    (next.withdraw side).flip
  else
    next

/-- The chip completes all waiting requests as one exchange. -/
def complete (mode : MemMode) : MemMode :=
  { mode with returning := false, requesting := false, select := !mode.select }

@[simp] theorem flip_flip (mode : MemMode) : mode.flip.flip = mode := by
  simp [flip]

theorem requested_write_of_ne (mode : MemMode) (automatic : Bool) {side other : Side}
    (h : other ≠ side) (value : UInt16) :
    (mode.write automatic side value).requested other = mode.requested other := by
  cases side <;> cases other <;> first | exact absurd rfl h | skip
  all_goals
    unfold write
    dsimp only
    split <;> rfl

end MemMode

/-! ### The chip -/

/-- A bank of word memory. -/
structure BankCell where
  bytes : BankBytes
  /-- Whether a processor is working on the bytes. -/
  occupied : Bool

/-- The shared chip. -/
structure GateArray where
  mode : MemMode
  /-- Every register byte but those of the memory mode register. -/
  cells : Vector UInt8 Register.windowSize
  banks : Vector BankCell 2
  /-- Whether exchanges complete at once. -/
  automatic : Bool

namespace GateArray

/-- A chip at power-up. -/
def initial (automatic : Bool) : GateArray where
  mode := .initial
  cells := Vector.replicate _ 0
  banks := Vector.replicate 2 ⟨Vector.replicate _ 0, false⟩
  automatic := automatic

/-- The word made of two bytes. -/
def join (high low : UInt8) : UInt16 :=
  (high.toUInt16 <<< 8) ||| low.toUInt16

/-- The high byte of a word. -/
def highByte (word : UInt16) : UInt8 :=
  (word >>> 8).toUInt8

/-- The offset of the word that holds the byte at `offset`. -/
def even (offset : UInt16) : UInt16 :=
  offset &&& 0xFFFE

/-- The byte at `offset`, whoever asks. -/
def byteAt (chip : GateArray) (offset : Nat) : UInt8 :=
  if offset = 2 then 0
  else if offset = 3 then chip.mode.lowByte
  else if h : offset < Register.windowSize then chip.cells[offset]
  else 0

/-- The word that holds the byte at `offset`, whoever asks. -/
def peek (chip : GateArray) (offset : UInt16) : Checked UInt16 :=
  if offset.toNat < Register.windowSize then
    let o := (even offset).toNat
    .ok (join (chip.byteAt o) (chip.byteAt (o + 1)))
  else
    .error (.outsideWindow offset)

/-- Which bank each processor sees. -/
def select (chip : GateArray) : Bool :=
  chip.mode.select

/-- Whether an exchange request waits for the chip. -/
def swapPending (chip : GateArray) : Bool :=
  chip.mode.pending

/-- Whether the Main processor lets the Sub processor run. -/
def resetReleased (chip : GateArray) : Bool :=
  chip.byteAt 1 &&& Register.resetRelease.toUInt8 != 0

/-- Completes the waiting exchange requests, and tells whether there were any. -/
def stepHardware (chip : GateArray) : Bool × GateArray :=
  if chip.mode.pending then
    (true, { chip with mode := chip.mode.complete })
  else
    (false, chip)

/-! ### Bus cycles -/

/-- Reads a register byte. -/
def readByte (chip : GateArray) (offset : UInt16) : Checked UInt8 :=
  if offset.toNat < Register.windowSize then
    .ok (chip.byteAt offset.toNat)
  else
    .error (.outsideWindow (even offset))

/-- Reads a register word. -/
def readWord (chip : GateArray) (offset : UInt16) : Checked UInt16 :=
  if offset % 2 ≠ 0 then
    .error (.unalignedRead offset)
  else if offset.toNat < Register.windowSize then
    .ok (join (chip.byteAt offset.toNat) (chip.byteAt (offset.toNat + 1)))
  else
    .error (.outsideWindow offset)

/-- Stores a byte; the memory mode register takes only the bits that `side` may write. -/
def store (chip : GateArray) (side : Side) (offset : Nat) (value : UInt8) : GateArray :=
  if offset = 2 then chip
  else if offset = 3 then
    { chip with mode := chip.mode.write chip.automatic side value.toUInt16 }
  else if h : offset < Register.windowSize then
    { chip with cells := chip.cells.set offset value }
  else chip

/-- Writes a register byte. -/
def writeByte (chip : GateArray) (side : Side) (offset : UInt16) (value : UInt8) :
    Checked GateArray :=
  if !Register.mayWrite side offset then
    .error (.foreignRegister side offset)
  else if offset.toNat < Register.windowSize then
    .ok (chip.store side offset.toNat value)
  else
    .error (.outsideWindow (even offset))

/-- Writes a register word. -/
def writeWord (chip : GateArray) (side : Side) (offset value : UInt16) : Checked GateArray :=
  if offset % 2 ≠ 0 then
    .error (.unalignedWrite offset)
  else if !Register.mayWrite side offset then
    .error (.foreignRegister side offset)
  else if !Register.mayWrite side (offset + 1) then
    .error (.foreignRegister side (offset + 1))
  else if offset.toNat < Register.windowSize then
    .ok ((chip.store side offset.toNat (highByte value)).store side (offset.toNat + 1)
      value.toUInt8)
  else
    .error (.outsideWindow offset)

/-- A bank with its bytes. -/
def bank (chip : GateArray) (bank : Bank) : BankCell :=
  chip.banks.get ⟨bank.index, bank.index_lt⟩

/-- Starts work on the bytes of a bank. -/
def enterBank (chip : GateArray) (bank : Bank) : Checked (BankBytes × GateArray) :=
  let cell := chip.bank bank
  if cell.occupied then
    .error (.bankContention bank)
  else
    .ok (cell.bytes,
      { chip with banks := chip.banks.set bank.index { cell with occupied := true } bank.index_lt })

/-- Ends work on a bank, leaving `bytes` in it. -/
def leaveBank (chip : GateArray) (bank : Bank) (bytes : BankBytes) : GateArray :=
  { chip with banks := chip.banks.set bank.index ⟨bytes, false⟩ bank.index_lt }

/-- Reads one byte of a bank. -/
def readBank (chip : GateArray) (bank : Bank) (index : Nat) : Checked UInt8 := do
  let (bytes, _) ← chip.enterBank bank
  BankBytes.read bytes index

/-- Writes one byte of a bank. -/
def writeBank (chip : GateArray) (bank : Bank) (index : Nat) (value : UInt8) :
    Checked GateArray := do
  let (bytes, chip) ← chip.enterBank bank
  return chip.leaveBank bank (← BankBytes.write bytes index value)

/-! ### Laws -/

theorem byteAt_store_same (chip : GateArray) (side : Side) {offset : Nat} (value : UInt8)
    (window : offset < Register.windowSize) (low : offset ≠ 2) (high : offset ≠ 3) :
    (chip.store side offset value).byteAt offset = value := by
  simp [store, byteAt, low, high, window]

theorem byteAt_store_of_ne (chip : GateArray) (side : Side) {offset other : Nat} (value : UInt8)
    (ne : other ≠ offset) (mode : offset ≠ 3) :
    (chip.store side offset value).byteAt other = chip.byteAt other := by
  unfold store
  split
  · rfl
  · split
    · unfold byteAt
      split
      · rfl
      · split
        · rfl
        · split
          · simp [ne.symm]
          · rfl
    · rfl

theorem readByte_writeByte_same {chip next : GateArray} {side : Side} {offset : UInt16}
    {value : UInt8} (owned : Register.owner offset ≠ .shared)
    (h : chip.writeByte side offset value = .ok next) : next.readByte offset = .ok value := by
  unfold writeByte at h
  split at h
  · cases h
  split at h
  case isFalse => cases h
  case isTrue window =>
    have ne2 : offset.toNat ≠ 2 := by
      intro e
      exact owned (by simp [Register.owner, e])
    have ne3 : offset.toNat ≠ 3 := by
      intro e
      exact owned (by simp [Register.owner, e])
    cases h
    simp [readByte, window, byteAt_store_same _ _ _ window ne2 ne3]

end GateArray

end TwinDesk
