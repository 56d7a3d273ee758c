import TwinDesk.Link.Handshake
import TwinDesk.Machine.Peer

/-!
# Scripted Main processors

Main processors that move by turns and make what a script says: a well behaved one that posts one
command, one that posts raw bytes, and one that writes whatever it likes into its flag.
-/

namespace TwinDesk

/-- A Main processor that posts a command, and completes whatever is in flight. -/
structure PostingMain where
  initiator : Initiator
  /-- The command to be posted, once. -/
  cmd : Option Command
  deriving DecidableEq, Repr, Inhabited

instance : Peer PostingMain where
  side _ := .main
  move main := do
    if !main.initiator.isIdle then
      let (_, initiator) ← main.initiator.pollCompletion
      return { main with initiator }
    match main.cmd with
    | none => return main
    | some cmd =>
      let (_, initiator) ← main.initiator.post cmd
      return ⟨initiator, none⟩

/-- A Main processor that posts parameters and an opcode byte as they are, and clears the opcode
once it is answered. -/
structure RawMain where
  opcode : UInt8
  params : List UInt16
  posted : Bool
  deriving DecidableEq, Repr, Inhabited

namespace RawMain

/-- Writes the given parameters, from the first one on, and the opcode byte. -/
def post (opcode : UInt8) (params : List UInt16) : Program Unit := do
  for (value, index) in params.zipIdx do
    MainRegisters.writeParam index value
  Side.main.setFlag opcode

instance : Peer RawMain where
  side _ := .main
  move main := do
    if !main.posted then
      post main.opcode main.params
      return { main with posted := true }
    let flag ← Side.main.peerFlag
    if (Status.ofCode? flag).any (·.isTerminal) then
      Side.main.setFlag Opcode.none.code
    return main

end RawMain

/-- A Main processor that writes one byte after the other into its flag. -/
structure FlagMain where
  flags : List UInt8
  deriving DecidableEq, Repr, Inhabited

instance : Peer FlagMain where
  side _ := .main
  move main := do
    match main.flags with
    | [] => return main
    | flag :: flags =>
      Side.main.setFlag flag
      return ⟨flags⟩

end TwinDesk
