import TwinDesk.Hardware.Register

/-!
# A register window in plain memory

The same register window laid over ordinary memory, without a chip behind it: every byte can be
written by anyone, and a word is stored with its low byte first. One bank lies beside the
registers, and whichever bank is asked for, these are its bytes.
-/

namespace TwinDesk

/-- Registers and a bank in plain memory. -/
structure MappedBus where
  registers : Vector UInt8 Register.windowSize
  bank : Array UInt8
  deriving Inhabited

namespace MappedBus

/-- Memory filled with zeros, with a bank of `bankLength` bytes. -/
def zeroed (bankLength : Nat) : MappedBus :=
  ⟨Vector.replicate _ 0, Array.replicate bankLength 0⟩

/-- Reads a byte. -/
def readByte (bus : MappedBus) (offset : UInt16) : Checked UInt8 :=
  if h : offset.toNat < Register.windowSize then
    .ok bus.registers[offset.toNat]
  else
    .error .assertion

/-- Writes a byte. -/
def writeByte (bus : MappedBus) (offset : UInt16) (value : UInt8) : Checked MappedBus :=
  if h : offset.toNat < Register.windowSize then
    .ok { bus with registers := bus.registers.set offset.toNat value }
  else
    .error .assertion

/-- Reads a word, low byte first. -/
def readWord (bus : MappedBus) (offset : UInt16) : Checked UInt16 :=
  if offset % 2 ≠ 0 then
    .error (.unalignedRead offset)
  else do
    let low ← bus.readByte offset
    let high ← bus.readByte (offset + 1)
    return low.toUInt16 ||| (high.toUInt16 <<< 8)

/-- Writes a word, low byte first. -/
def writeWord (bus : MappedBus) (offset value : UInt16) : Checked MappedBus :=
  if offset % 2 ≠ 0 then
    .error (.unalignedWrite offset)
  else do
    let bus ← bus.writeByte offset value.toUInt8
    bus.writeByte (offset + 1) (value >>> 8).toUInt8

/-- Sets a byte of the bank. -/
def setBankByte (bus : MappedBus) (index : Nat) (value : UInt8) : Checked MappedBus :=
  if h : index < bus.bank.size then
    .ok { bus with bank := bus.bank.set index value }
  else
    .error .index

end MappedBus

end TwinDesk
