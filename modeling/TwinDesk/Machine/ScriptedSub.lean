import TwinDesk.Link.BankExchange
import TwinDesk.Link.Handshake
import TwinDesk.Machine.Peer

/-!
# Scripted Sub processors

Sub processors that move by turns and make what a script says: one that answers every command in
the same way, one that answers from a list, and one that only shows flags and states, as a booting
processor does.
-/

namespace TwinDesk

/-- Writes result words given by index. -/
def SubRegisters.writeResults (words : List (Nat × UInt16)) : Program Unit :=
  words.forM fun (index, value) => SubRegisters.writeResult index value

/-- Looks once whether the cycle is released, and goes on either way. -/
def Responder.tryRelease (responder : Responder) : Program Responder := do
  let (_, responder) ← responder.pollRelease
  return responder

/-! ### The same answer to everything -/

/-- A Sub processor that answers every command with the same status and result words. -/
structure AnsweringSub where
  responder : Responder
  status : Status
  words : List (Nat × UInt16)
  deriving DecidableEq, Repr, Inhabited

instance : Peer AnsweringSub where
  side _ := .sub
  move sub := do
    if (← sub.responder.pollCommand).isSome then
      let (_, responder) ← sub.responder.ack
      return { sub with responder }
    if sub.responder.ackedOpcode?.isSome then
      SubRegisters.writeResults sub.words
      let (_, responder) ← sub.responder.signal sub.status
      return { sub with responder }
    return { sub with responder := ← sub.responder.tryRelease }

/-! ### Answers from a list -/

/-- One answer of a script. -/
structure ScriptedAnswer where
  status : Status
  words : List (Nat × UInt16)
  /-- Fills the bank with this byte and hands it over before answering. -/
  fill : Option UInt8
  deriving DecidableEq, Repr, Inhabited

/-- A command as the Sub processor saw it. -/
structure SeenCommand where
  opcode : UInt8
  params : Params
  deriving DecidableEq, Repr, Inhabited

/-- A Sub processor that answers from a list, and remembers the commands that it saw. -/
structure ScriptedSub where
  responder : Responder
  /-- The answers that are left. -/
  answers : List ScriptedAnswer
  /-- The commands seen so far, oldest first. -/
  seen : List SeenCommand
  deriving DecidableEq, Repr, Inhabited

namespace ScriptedSub

/-- A Sub processor with a script. -/
def start (answers : List ScriptedAnswer) : ScriptedSub :=
  ⟨.atRest, answers, []⟩

/-- Fills the bank that the Sub processor sees, and hands it over; nothing happens without one. -/
def handOver (byte : UInt8) : Program Unit := do
  match ← Grant.acquire .sub with
  | .error _ => return ()
  | .ok grant =>
    grant.withBytes fun _ => return ((), Vector.replicate _ byte)
    discard grant.swap

/-- Gives an answer to the acknowledged command. -/
def give (answer : ScriptedAnswer) (responder : Responder) : Program Responder := do
  answer.fill.forM handOver
  SubRegisters.writeResults answer.words
  let (_, responder) ← responder.signal answer.status
  return responder

instance : Peer ScriptedSub where
  side _ := .sub
  move sub := do
    match ← sub.responder.pollCommand, sub.responder.ackedOpcode?, sub.answers with
    | some opcode, _, _ :: _ =>
      let (_, responder) ← sub.responder.ack
      let params ← SubRegisters.readParams
      return { sub with responder, seen := sub.seen ++ [⟨opcode, params⟩] }
    | _, some _, answer :: answers =>
      return { sub with responder := ← give answer sub.responder, answers }
    | _, _, _ => return { sub with responder := ← sub.responder.tryRelease }

end ScriptedSub

/-! ### Flags and states -/

/-- What a Sub processor shows: its flag and its status word 0. -/
structure Appearance where
  flag : UInt8
  state : UInt16
  deriving DecidableEq, Repr, Inhabited

/-- A Sub processor that shows one appearance after the other. -/
structure ShowingSub where
  shows : List Appearance
  deriving DecidableEq, Repr, Inhabited

instance : Peer ShowingSub where
  side _ := .sub
  move sub := do
    match sub.shows with
    | [] => return sub
    | appearance :: shows =>
      SubRegisters.writeResult 0 appearance.state
      Side.sub.setFlag appearance.flag
      return ⟨shows⟩

end TwinDesk
