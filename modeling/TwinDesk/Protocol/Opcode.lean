import TwinDesk.Text.Radix

/-!
# Opcodes

The Main processor names the operation it wants by an opcode, written as one byte. The zero opcode
`none` is the byte at rest: no command is in flight.

* `Opcode.ofCode?_eq_some_iff` — decoding a byte finds exactly the opcode with that code.
-/

namespace TwinDesk

/-- The operation of a command. -/
inductive Opcode where
  | none
  | boot
  | initOs
  | renderFrame
  | wramSwap
  | openWindow
  | closeWindow
  | moveWindow
  | drawText
  | drawIcon
  | cdPlay
  | cdStop
  | fileRead
  | fileWrite
  | mouseEvent
  deriving DecidableEq, Repr, Inhabited

namespace Opcode

/-- Every opcode, by code. -/
def all : List Opcode :=
  [none, boot, initOs, renderFrame, wramSwap, openWindow, closeWindow, moveWindow, drawText,
    drawIcon, cdPlay, cdStop, fileRead, fileWrite, mouseEvent]

/-- The byte that stands for the opcode. -/
def code : Opcode → UInt8
  | none => 0x00
  | boot => 0x01
  | initOs => 0x02
  | renderFrame => 0x10
  | wramSwap => 0x11
  | openWindow => 0x20
  | closeWindow => 0x21
  | moveWindow => 0x22
  | drawText => 0x30
  | drawIcon => 0x31
  | cdPlay => 0x40
  | cdStop => 0x41
  | fileRead => 0x50
  | fileWrite => 0x51
  | mouseEvent => 0x60

/-- The opcode that a byte stands for. -/
def ofCode? (byte : UInt8) : Option Opcode :=
  all.find? (·.code == byte)

/-- The opcode's name in listings. -/
def inspect : Opcode → String
  | none => "None"
  | boot => "Boot"
  | initOs => "InitOs"
  | renderFrame => "RenderFrame"
  | wramSwap => "WramSwap"
  | openWindow => "OpenWindow"
  | closeWindow => "CloseWindow"
  | moveWindow => "MoveWindow"
  | drawText => "DrawText"
  | drawIcon => "DrawIcon"
  | cdPlay => "CdPlay"
  | cdStop => "CdStop"
  | fileRead => "FileRead"
  | fileWrite => "FileWrite"
  | mouseEvent => "MouseEvent"

/-- The opcode's mnemonic. -/
def mnemonic : Opcode → String
  | none => "NONE"
  | boot => "BOOT"
  | initOs => "INIT_OS"
  | renderFrame => "RENDER_FRAME"
  | wramSwap => "WRAM_SWAP"
  | openWindow => "OPEN_WINDOW"
  | closeWindow => "CLOSE_WINDOW"
  | moveWindow => "MOVE_WINDOW"
  | drawText => "DRAW_TEXT"
  | drawIcon => "DRAW_ICON"
  | cdPlay => "CD_PLAY"
  | cdStop => "CD_STOP"
  | fileRead => "FILE_READ"
  | fileWrite => "FILE_WRITE"
  | mouseEvent => "MOUSE_EVENT"

/-- The opcode in messages: its mnemonic and its code. -/
def describe (op : Opcode) : String :=
  s!"{op.mnemonic}({Text.hex 2 op.code.toNat})"

theorem mem_all (op : Opcode) : op ∈ all := by
  cases op <;> decide

theorem code_injective {a b : Opcode} (h : a.code = b.code) : a = b := by
  cases a <;> cases b <;> first | rfl | exact absurd h (by decide)

theorem ofCode?_eq_some_iff {byte : UInt8} {op : Opcode} :
    ofCode? byte = some op ↔ op.code = byte := by
  constructor
  · intro h
    simpa using List.find?_some h
  · rintro rfl
    cases op <;> rfl

theorem code_eq_zero_iff {op : Opcode} : op.code = 0 ↔ op = none := by
  cases op <;> decide

end Opcode

end TwinDesk
