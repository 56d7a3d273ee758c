import TwinDesk.Fault
import TwinDesk.Geometry.Layout

/-!
# The register map

Both processors see the same window of registers. A register byte belongs to one processor, which
alone may write it; the memory mode register is shared bit by bit, and bytes that the link never
uses are open to both.

| Offset | Width | Writer | Content |
|--------|-------|--------|---------|
| `0x00` | word | Main | reset and bus request |
| `0x02` | word | both | memory mode |
| `0x0E` | byte | Main | opcode flag |
| `0x0F` | byte | Sub | status flag |
| `0x10` | 8 words | Main | command parameters |
| `0x20` | 8 words | Sub | results |
-/

namespace TwinDesk.Register

/-- Where the Main processor sees the registers. -/
def mainBase : Nat := 0xA12000

/-- Where the Sub processor sees the registers. -/
def subBase : Nat := 0xFF8000

/-- The bytes in the register window. -/
def windowSize : Nat := 0x68

/-! ### Offsets -/

def reset : UInt16 := 0x00
def memMode : UInt16 := 0x02
def mainFlag : UInt16 := 0x0E
def subFlag : UInt16 := 0x0F
def command0 : UInt16 := 0x10
def status0 : UInt16 := 0x20

/-- The offset of command word `index`. -/
def commandWord (index : Nat) : Checked UInt16 :=
  if index < 8 then .ok (command0 + UInt16.ofNat index * 2) else .error .commandWordRange

/-- The offset of status word `index`. -/
def statusWord (index : Nat) : Checked UInt16 :=
  if index < 8 then .ok (status0 + UInt16.ofNat index * 2) else .error .statusWordRange

/-! ### Bits -/

/-- In the reset register: lets the Sub processor run. -/
def resetRelease : UInt16 := 0x0001

/-- In the reset register: asks for the Sub processor's bus. -/
def resetBusRequest : UInt16 := 0x0002

/-- In the memory mode register: the Sub processor returns its bank. -/
def modeReturn : UInt16 := 0x0001

/-- In the memory mode register: the Main processor asks for a swap. -/
def modeRequest : UInt16 := 0x0002

/-- In the memory mode register: word memory is split into two banks. -/
def modeTwoBanks : UInt16 := 0x0004

/-- In the memory mode register: which bank each processor sees. -/
def modeSelect : UInt16 := 0x0008

/-! ### Ownership -/

/-- Who may write a register byte. -/
inductive Owner where
  | only (side : Side)
  /-- Each processor through its own bits. -/
  | shared
  /-- Either processor. -/
  | open
  deriving DecidableEq, Repr

/-- Who may write the byte at `offset`. -/
def owner (offset : UInt16) : Owner :=
  let o := offset.toNat
  if o < 0x02 then .only .main
  else if o < 0x04 then .shared
  else if o < 0x0E then .open
  else if o = 0x0E then .only .main
  else if o = 0x0F then .only .sub
  else if o < 0x20 then .only .main
  else if o < 0x30 then .only .sub
  else .open

/-- Whether `side` may write the byte at `offset`. -/
def mayWrite (side : Side) (offset : UInt16) : Bool :=
  match owner offset with
  | .only writer => writer == side
  | .shared | .open => true

end TwinDesk.Register

namespace TwinDesk.Side

/-- The offset of the flag byte that a processor writes. -/
def flag : Side → UInt16
  | main => Register.mainFlag
  | sub => Register.subFlag

/-- A processor's own swap request bit. -/
def swapBit : Side → UInt16
  | main => Register.modeRequest
  | sub => Register.modeReturn

/-- The memory mode bits that a processor may write. -/
def modeWritable : Side → UInt16
  | main => Register.modeRequest ||| Register.modeTwoBanks
  | sub => Register.modeReturn

end TwinDesk.Side
