import TwinDesk.Link.Registers
import TwinDesk.Link.Waiting

/-!
# Exchanging banks

At any time each processor sees one of the two banks. A processor gives its bank away by setting
its own request bit; the chip then exchanges the banks and clears the bit, and until it has done so
the processor owns no bank at all.

A `Grant` stands for the right to touch the bytes of a bank. It comes from `acquire`, and asking for
an exchange uses it up: what is left is a `PendingSwap`, which in time yields the other bank.
-/

namespace TwinDesk

open Program

/-- The right of one processor to touch the bytes of a bank. -/
structure Grant where
  side : Side
  bank : Bank
  deriving DecidableEq, Repr

/-- An exchange that the chip has not completed yet. -/
structure PendingSwap where
  side : Side
  /-- The bank that was given away. -/
  released : Bank
  deriving DecidableEq, Repr

/-- Takes hold of the bank that a processor sees. Refused while an exchange that it asked for is
not complete, since it owns no bank in between. -/
def Grant.acquire (side : Side) : Program (Except LinkError Grant) := do
  if ← side.swapRequested then
    return .error .swapPending
  let bank ← side.currentBank
  return .ok ⟨side, bank⟩

/-- Works on the bytes of the bank. -/
def Grant.withBytes {α : Type} (grant : Grant) (work : BankBytes → Checked (α × BankBytes)) :
    Program α := do
  let bytes ← cycle (.enterBank grant.bank)
  let (value, bytes) ← ofChecked (work bytes)
  cycle (.leaveBank grant.bank bytes)
  return value

/-- Gives the bank away. -/
def Grant.beginSwap (grant : Grant) : Program PendingSwap := do
  grant.side.setModeBits grant.side.swapBit
  return ⟨grant.side, grant.bank⟩

namespace PendingSwap

/-- Looks once whether the exchange is complete, and if so which bank the processor sees now. -/
def poll (pending : PendingSwap) : Program (Option Bank) := do
  if ← pending.side.swapRequested then
    return none
  let bank ← pending.side.currentBank
  return some bank

/-- Waits until the exchange is complete. -/
def wait (pending : PendingSwap) : Program Bank :=
  await pending.poll

/-- Like `wait`, within a budget. -/
def waitWithin (budget : Budget) (pending : PendingSwap) : Program (Except LinkError Bank) :=
  budget.await pending.poll

end PendingSwap

/-- Gives the bank away and waits for the other one. -/
def Grant.swap (grant : Grant) : Program Bank := do
  let pending ← grant.beginSwap
  pending.wait

end TwinDesk
