import TwinDesk.Link.Registers

/-!
# The bus of a machine

The chip with what happens around it: which writes the processors made, how often the Sub
processor's program was loaded, and when the chip completes exchange requests.

A chip that does not exchange banks at once does so at some later moment. Such a moment is chosen
by a *watch*: the chip waits for a processor to look at its own pending request, lets a number of
such looks pass, and completes the exchange just before the next one.
-/

namespace TwinDesk

/-- A write that a processor made to a register. -/
inductive BusWrite where
  | byte (side : Side) (offset : UInt16) (value : UInt8)
  | word (side : Side) (offset value : UInt16)
  deriving DecidableEq, Repr, Inhabited

/-- The processor that made a write. -/
def BusWrite.side : BusWrite → Side
  | byte side _ _ => side
  | word side _ _ => side

/-- The write that a bus cycle of `side` is. -/
def Access.write? (side : Side) : Access → Option BusWrite
  | writeByte offset value => some (.byte side offset value)
  | writeWord offset value => some (.word side offset value)
  | _ => none

/-- Waits for a processor to look at its pending exchange request. -/
structure Watch where
  side : Side
  /-- How many looks pass before the exchange. -/
  delay : Nat
  deriving DecidableEq, Repr, Inhabited

/-- The chip and what happens around it. -/
structure Bus where
  chip : GateArray
  watch : Option Watch
  /-- The writes made so far, oldest first. -/
  writes : Array BusWrite
  /-- How often the Sub processor's program was loaded. -/
  loads : Nat

namespace Bus

/-- A bus at power-up. -/
def initial (automatic : Bool) : Bus :=
  ⟨.initial automatic, none, #[], 0⟩

/-- The chip completes the waiting exchange requests, and tells whether there were any. -/
def stepHardware (bus : Bus) : Bool × Bus :=
  let (stepped, chip) := bus.chip.stepHardware
  (stepped, { bus with chip })

/-- A processor is about to look at the memory mode register. -/
def look (bus : Bus) (side : Side) : Bus :=
  match bus.watch with
  | none => bus
  | some watch =>
    if watch.side = side ∧ bus.chip.mode.requested side = true then
      match watch.delay with
      | 0 => bus.stepHardware.2
      | delay + 1 => { bus with watch := some { watch with delay } }
    else
      bus

/-- What happens before a bus cycle. -/
def before (bus : Bus) (side : Side) : Access → Bus
  | .readWord offset => if offset = Register.memMode then bus.look side else bus
  | _ => bus

/-- Notes what a bus cycle was. -/
def note (bus : Bus) (side : Side) (access : Access) : Bus :=
  match access, access.write? side with
  | _, some write => { bus with writes := bus.writes.push write }
  | .loadProgram, none => { bus with loads := bus.loads + 1 }
  | _, none => bus

/-- One bus cycle of a processor. -/
def perform (side : Side) (access : Access) (bus : Bus) : Except Halt access.Answer × Bus :=
  let bus := bus.before side access
  match bus.chip.perform side access with
  | .ok (answer, chip) => (.ok answer, { bus with chip }.note side access)
  | .error e => (.error (.fault e), bus)

/-- How often a wait is repeated before it counts as endless. -/
def patience : Nat := 5000

/-- Runs a program of one processor while the other one rests. -/
def run {α : Type} (side : Side) (program : Program α) (bus : Bus) : Except Halt α × Bus :=
  program.run (perform side) patience bus

/-- Sets the exchange request of a processor, without a look of the chip and without a note of the
write. -/
def request (side : Side) (bus : Bus) : Bus :=
  let unwatched := { bus with watch := none }
  { bus with chip := (unwatched.run side (side.setModeBits side.swapBit)).2.chip }

/-- Forgets the writes made so far. -/
def clearWrites (bus : Bus) : Bus :=
  { bus with writes := #[] }

end Bus

end TwinDesk
