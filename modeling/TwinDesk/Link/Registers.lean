import TwinDesk.Link.Program
import TwinDesk.Protocol.Command

/-!
# Named registers

The register accesses of each processor, by name. Each function says how many bus cycles it makes
by the cycles it is built from, and no function touches a register that its processor may not
write.
-/

namespace TwinDesk

/-! ### Bus cycles -/

namespace Program

def readByte (offset : UInt16) : Program UInt8 :=
  cycle (.readByte offset)

def writeByte (offset : UInt16) (value : UInt8) : Program Unit :=
  cycle (.writeByte offset value)

def readWord (offset : UInt16) : Program UInt16 :=
  cycle (.readWord offset)

def writeWord (offset value : UInt16) : Program Unit :=
  cycle (.writeWord offset value)

end Program

open Program

/-! ### Registers of both processors -/

namespace Side

/-- A processor's own flag byte. -/
def ownFlag (side : Side) : Program UInt8 :=
  readByte side.flag

/-- The flag byte of the other processor. -/
def peerFlag (side : Side) : Program UInt8 :=
  readByte side.peer.flag

/-- Writes a processor's own flag byte. -/
def setFlag (side : Side) (value : UInt8) : Program Unit :=
  writeByte side.flag value

/-- Sets bits of the memory mode register, in a reading and a writing cycle. -/
def setModeBits (side : Side) (bits : UInt16) : Program Unit := do
  if bits &&& ~~~side.modeWritable ≠ 0 then
    fault (.foreignModeBits side bits)
  let mode ← readWord Register.memMode
  writeWord Register.memMode (mode ||| (bits &&& side.modeWritable))

/-- Whether a processor's own exchange request waits for the chip. -/
def swapRequested (side : Side) : Program Bool := do
  let mode ← readWord Register.memMode
  return mode &&& side.swapBit != 0

/-- The bank that a processor sees. -/
def currentBank (side : Side) : Program Bank := do
  let mode ← readWord Register.memMode
  return side.bank (mode &&& Register.modeSelect != 0)

end Side

/-! ### Registers of the Main processor -/

namespace MainRegisters

/-- Writes parameter word `index`. -/
def writeParam (index : Nat) (value : UInt16) : Program Unit := do
  if 4 ≤ index then
    fault .assertion
  let offset ← ofChecked (Register.commandWord index)
  writeWord offset value

/-- Writes all parameter words, in order. -/
def writeParams (params : Params) : Program Unit := do
  writeParam 0 params.word0
  writeParam 1 params.word1
  writeParam 2 params.word2
  writeParam 3 params.word3

/-- Reads result word `index`. -/
def readResult (index : Nat) : Program UInt16 := do
  let offset ← ofChecked (Register.statusWord index)
  readWord offset

/-- Reads all result words, in order. -/
def readResults : Program Results := do
  return #v[← readResult 0, ← readResult 1, ← readResult 2, ← readResult 3,
    ← readResult 4, ← readResult 5, ← readResult 6, ← readResult 7]

/-- Reads the reset register. -/
def readReset : Program UInt16 :=
  readWord Register.reset

/-- Writes the reset register. -/
def writeReset (value : UInt16) : Program Unit :=
  writeWord Register.reset value

end MainRegisters

/-! ### Registers of the Sub processor -/

namespace SubRegisters

/-- Reads parameter word `index`. -/
def readParam (index : Nat) : Program UInt16 := do
  if 4 ≤ index then
    fault .assertion
  let offset ← ofChecked (Register.commandWord index)
  readWord offset

/-- Reads all parameter words, in order. -/
def readParams : Program Params := do
  return ⟨← readParam 0, ← readParam 1, ← readParam 2, ← readParam 3⟩

/-- Writes result word `index`. -/
def writeResult (index : Nat) (value : UInt16) : Program Unit := do
  let offset ← ofChecked (Register.statusWord index)
  writeWord offset value

end SubRegisters

end TwinDesk
