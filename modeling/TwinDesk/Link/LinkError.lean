/-!
# Link errors

What the link's operations report to their callers. A slow peer is no error of the waiting
operations, which go on waiting.
-/

namespace TwinDesk

/-- Why an operation of the link was refused or given up. -/
inductive LinkError where
  /-- The peer has not come to rest yet. -/
  | peerBusy
  /-- A budget of polls ran out before the peer answered. -/
  | timeout
  /-- This processor's exchange request still waits for the chip. -/
  | swapPending
  /-- The operation does not fit the phase of the protocol. -/
  | protocolViolation
  deriving DecidableEq, Repr, Inhabited

namespace LinkError

/-- Every error. -/
def all : List LinkError := [peerBusy, timeout, swapPending, protocolViolation]

/-- The error in words. -/
def message : LinkError → String
  | peerBusy => "peer is not idle"
  | timeout => "peer did not respond within the spin budget"
  | swapPending => "bank swap still pending"
  | protocolViolation => "operation out of protocol order"

theorem mem_all (error : LinkError) : error ∈ all := by
  cases error <;> decide

end LinkError

end TwinDesk
