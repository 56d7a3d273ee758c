import TwinDesk.Geometry.Coord
import TwinDesk.Protocol.Opcode
import TwinDesk.Protocol.WindowId

/-!
# Commands

A command is an opcode with four parameter words.

| Opcode | word 0 | word 1 | word 2 | word 3 |
|--------|--------|--------|--------|--------|
| `RENDER_FRAME` | x | y | width | height |
| `OPEN_WINDOW` | x | y | width | height |
| `CLOSE_WINDOW` | id | | | |
| `MOVE_WINDOW` | id | x | y | |
| `CD_PLAY` | track | | | |
| `MOUSE_EVENT` | x | y | kind and buttons | dx |
-/

namespace TwinDesk

/-- The parameter words of a command. -/
structure Params where
  word0 : UInt16
  word1 : UInt16
  word2 : UInt16
  word3 : UInt16
  deriving DecidableEq, Repr, Inhabited

/-- The words in their order. -/
def Params.toList (params : Params) : List UInt16 :=
  [params.word0, params.word1, params.word2, params.word3]

/-- The result words of a reply. -/
abbrev Results : Type := Vector UInt16 8

namespace Coord

/-- The word with the same bits. -/
def toWord (c : Coord) : UInt16 :=
  c.toUInt16

/-- The coordinate with the same bits. -/
def ofWord (word : UInt16) : Coord :=
  word.toInt16

@[simp] theorem ofWord_toWord (c : Coord) : ofWord c.toWord = c := rfl

@[simp] theorem toWord_ofWord (word : UInt16) : (ofWord word).toWord = word := rfl

end Coord

/-- One command, as it crosses the link. -/
structure Command where
  opcode : Opcode
  params : Params
  deriving DecidableEq, Repr, Inhabited

namespace Command

/-- Result word 0 of a window operation that succeeded. -/
def resultOk : UInt16 := 0

/-- Result word 0 of a window operation that failed. -/
def resultFailed : UInt16 := 0xFF

/-- Result word 0 of a window operation. -/
def outcome (ok : Bool) : UInt16 :=
  if ok then resultOk else resultFailed

/-- A command without parameters. -/
def bare (opcode : Opcode) : Command :=
  ⟨opcode, ⟨0, 0, 0, 0⟩⟩

/-- Start the desktop afresh. -/
def initOs : Command :=
  bare .initOs

/-- Paint a region of the screen and publish the frame. -/
def renderFrame (x y width height : Coord) : Command :=
  ⟨.renderFrame, ⟨x.toWord, y.toWord, width.toWord, height.toWord⟩⟩

/-- Open a window of a given size at a given origin. -/
def openWindow (x y width height : Coord) : Command :=
  ⟨.openWindow, ⟨x.toWord, y.toWord, width.toWord, height.toWord⟩⟩

/-- Close a window. -/
def closeWindow (id : WindowId) : Command :=
  ⟨.closeWindow, ⟨id.byte.toUInt16, 0, 0, 0⟩⟩

/-- Move a window's top left corner. -/
def moveWindow (id : WindowId) (x y : Coord) : Command :=
  ⟨.moveWindow, ⟨id.byte.toUInt16, x.toWord, y.toWord, 0⟩⟩

/-- Play an audio track. -/
def cdPlay (track : UInt16) : Command :=
  ⟨.cdPlay, ⟨track, 0, 0, 0⟩⟩

/-- Stop audio playback. -/
def cdStop : Command :=
  bare .cdStop

/-- Hand the Sub processor's bank over without painting. -/
def wramSwap : Command :=
  bare .wramSwap

/-- The command in messages: opcode and parameter words. -/
def describe (cmd : Command) : String :=
  let words := cmd.params.toList.map fun word => Text.hex 4 word.toNat
  s!"{cmd.opcode.describe} [" ++ ", ".intercalate words ++ "]"

end Command

end TwinDesk
