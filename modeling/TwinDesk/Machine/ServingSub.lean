import TwinDesk.Machine.Peer
import TwinDesk.Sub.Dispatcher

/-!
# The Sub processor by turns

The Sub processor as it really runs: it boots once it is let out of reset, and from then on each
move is one bounded look for a command, with the command carried out when there is one.
-/

namespace TwinDesk

open Program

/-- The Sub processor, with a painter `R`. -/
structure ServingSub (R : Type) where
  booted : Bool
  dispatcher : Dispatcher R

namespace ServingSub

variable {R : Type}

/-- The Sub processor in reset. -/
def inReset (dispatcher : Dispatcher R) : ServingSub R :=
  ⟨false, dispatcher⟩

/-- Boots, if the Main processor lets the Sub processor run. -/
def tryBoot (sub : ServingSub R) : Program (ServingSub R) := do
  let reset ← readWord Register.reset
  if reset &&& Register.resetRelease = 0 then
    return sub
  let (_, dispatcher) ← sub.dispatcher.boot
  return ⟨true, dispatcher⟩

instance [Painter R] : Peer (ServingSub R) where
  side _ := .sub
  move sub := do
    if sub.booted then
      let (_, dispatcher) ← sub.dispatcher.serveWithin (.ofPolls 1)
      return { sub with dispatcher }
    else
      sub.tryBoot

end ServingSub

end TwinDesk
