import TwinDesk.Link.Registers
import TwinDesk.Link.Waiting
import TwinDesk.Main.MainError

/-!
# Booting the Sub processor

The Main processor holds the Sub processor in reset, takes its bus, copies its program into place,
splits word memory into two banks and lets it run. Then it waits for the Sub processor to come up.

The flag of the Sub processor reads `IDLE` already while it is held in reset, so that the flag alone
does not tell a finished boot from one that has not begun. Status word 0 does: it reads `RESET`
until the Sub processor writes `BOOTING`.
-/

namespace TwinDesk.Boot

open Program

/-- Waits until the bus of the Sub processor is granted. -/
def awaitBus : Program Unit :=
  await do
    let reset ← MainRegisters.readReset
    return if reset &&& Register.resetBusRequest = 0 then none else some ()

/-- Lets the Sub processor run with its program in place. -/
def startSub : Program Unit := do
  MainRegisters.writeReset 0
  MainRegisters.writeReset Register.resetBusRequest
  awaitBus
  cycle .loadProgram
  Side.main.setModeBits Register.modeTwoBanks
  MainRegisters.writeReset Register.resetRelease

/-- Looks once whether the Sub processor has come up, and returns its status word 0 if so. -/
def settledState : Program (Option UInt16) := do
  let flag ← Side.main.peerFlag
  if flag ≠ Status.idle.code then
    return none
  let word ← MainRegisters.readResult 0
  match Lifecycle.ofWord? word with
  | some .reset | some .booting => return none
  | _ => return some word

/-- Accepts only a Sub processor that is ready. -/
def checkReady (word : UInt16) : Except MainError Unit :=
  if word = Lifecycle.ready.word then .ok () else .error (.subNotReady word)

/-- Boots the Sub processor, and waits as long as it takes. -/
def boot : Program (Except MainError Unit) := do
  startSub
  return checkReady (← await settledState)

/-- Like `boot`, with the wait for the Sub processor within a budget. -/
def bootWithin (budget : Budget) : Program (Except MainError Unit) := do
  startSub
  match ← budget.await settledState with
  | .error e => return .error (.link e)
  | .ok word => return checkReady word

end TwinDesk.Boot
