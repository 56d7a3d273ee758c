import TwinDesk.Hardware.Side
import TwinDesk.Text.Radix

/-!
# Faults

A fault stops a processor: it is what happens when a computation leaves its number range, reaches
past a table, or touches hardware it must not touch. Faults are kept apart from the errors an
operation reports to its caller, which leave the processor running.
-/

namespace TwinDesk

/-- Why a processor stopped. -/
inductive Fault where
  /-- Checked arithmetic left the 16-bit range. -/
  | overflow
  /-- An index past the end of a table. -/
  | index
  /-- A condition that the code relies on does not hold. -/
  | assertion
  | unalignedRead (offset : UInt16)
  | unalignedWrite (offset : UInt16)
  | outsideWindow (offset : UInt16)
  /-- A processor wrote a register byte of the other one. -/
  | foreignRegister (writer : Side) (offset : UInt16)
  /-- A processor asked for memory mode bits that it may not set. -/
  | foreignModeBits (writer : Side) (bits : UInt16)
  /-- Both processors inside the same bank. -/
  | bankContention (bank : Bank)
  | commandWordRange
  | statusWordRange
  deriving DecidableEq, Repr, Inhabited

/-- The explanation that a fault carries; the first three kinds have none. -/
def Fault.message? : Fault → Option String
  | overflow => none
  | index => none
  | assertion => none
  | unalignedRead offset =>
    some s!"unaligned word read at {Text.hex 0 offset.toNat}"
  | unalignedWrite offset =>
    some s!"unaligned word write at {Text.hex 0 offset.toNat}"
  | outsideWindow offset =>
    some s!"register offset {Text.hex 0 offset.toNat} outside the gate array window"
  | foreignRegister writer offset =>
    some <| s!"protocol violation: {writer.name} wrote register " ++
      s!"{Text.hex 2 offset.toNat} owned by the other processor"
  | foreignModeBits writer bits =>
    some s!"{writer.name} cannot set MEM_MODE bits {Text.hex 4 bits.toNat}"
  | bankContention bank =>
    some s!"protocol violation: {bank.describe} accessed by both processors at once"
  | commandWordRange => some "command word index out of range"
  | statusWordRange => some "status word index out of range"

/-- A computation that ends in a value or a fault. -/
abbrev Checked (α : Type) : Type := Except Fault α

end TwinDesk
