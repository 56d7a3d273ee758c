import TwinDesk.Hardware.GateArray

/-!
# Programs of one processor

What a processor does to the outside world is a sequence of bus cycles, each decided by the answers
to the earlier ones. A `Program α` is such a behaviour: a tree that branches on answers, with the
computation of one processor between two cycles folded into the tree. A program says nothing about
what the other processor does in the meantime, so the same program runs alone, against a scripted
peer, or interleaved with another program.

Waiting for the other processor is `spin`: a body that is repeated, carrying a state, until it has
a result. A program with `spin` may run forever, and `Program.run` gives up on it after a limit.

* `Program.bind_assoc`, `Program.bind_done` — programs compose like the sequences they stand for.
* `Program.run_bind` — running a composition is running its parts one after the other.
-/

namespace TwinDesk

/-- One bus cycle. -/
inductive Access where
  | readByte (offset : UInt16)
  | writeByte (offset : UInt16) (value : UInt8)
  | readWord (offset : UInt16)
  | writeWord (offset value : UInt16)
  /-- Starts work on the bytes of a bank. -/
  | enterBank (bank : Bank)
  /-- Ends work on a bank and leaves its new bytes. -/
  | leaveBank (bank : Bank) (bytes : BankBytes)
  /-- The Main processor copies the Sub processor's program into place. -/
  | loadProgram

/-- What a bus cycle answers. -/
@[reducible] def Access.Answer : Access → Type
  | readByte _ => UInt8
  | writeByte _ _ => Unit
  | readWord _ => UInt16
  | writeWord _ _ => Unit
  | enterBank _ => BankBytes
  | leaveBank _ _ => Unit
  | loadProgram => Unit

/-- The chip carries out a bus cycle of `side`. -/
def GateArray.perform (chip : GateArray) (side : Side) :
    (access : Access) → Checked (access.Answer × GateArray)
  | .readByte offset => (chip.readByte offset).map (·, chip)
  | .writeByte offset value => (chip.writeByte side offset value).map ((), ·)
  | .readWord offset => (chip.readWord offset).map (·, chip)
  | .writeWord offset value => (chip.writeWord side offset value).map ((), ·)
  | .enterBank bank => chip.enterBank bank
  | .leaveBank bank bytes => .ok ((), chip.leaveBank bank bytes)
  | .loadProgram => .ok ((), chip)

/-- The behaviour of one processor towards the bus. -/
inductive Program : Type → Type 1 where
  /-- Ends with a value. -/
  | done {α : Type} (value : α) : Program α
  /-- Stops the processor. -/
  | fault {α : Type} (fault : Fault) : Program α
  /-- Makes a bus cycle and goes on with its answer. -/
  | access {α : Type} (access : Access) (next : access.Answer → Program α) : Program α
  /-- Repeats `body` on a state until it gives a result, and goes on with the result. -/
  | spin {α σ β : Type} (body : σ → Program (σ ⊕ β)) (start : σ) (next : β → Program α) : Program α

/-- Why a run ended without a value. -/
inductive Halt where
  | fault (fault : Fault)
  /-- A loop went round too often without a result. -/
  | stuck
  deriving DecidableEq, Repr

namespace Program

variable {α β γ σ : Type}

/-! ### Composition -/

/-- Runs a program and then the one that its result selects. -/
def bind : Program α → (α → Program β) → Program β
  | done value, f => f value
  | fault e, _ => fault e
  | access a next, f => access a fun answer => (next answer).bind f
  | spin body start next, f => spin body start fun result => (next result).bind f

instance : Monad Program where
  pure := done
  bind := bind

@[simp] theorem bind_done (p : Program α) : p.bind done = p := by
  induction p with
  | done value => rfl
  | fault e => rfl
  | access a next ih => simp only [bind, ih]
  | spin body start next _ ih => simp only [bind, ih]

theorem bind_assoc (p : Program α) (f : α → Program β) (g : β → Program γ) :
    (p.bind f).bind g = p.bind fun value => (f value).bind g := by
  induction p with
  | done value => rfl
  | fault e => rfl
  | access a next ih => simp only [bind, ih]
  | spin body start next _ ih => simp only [bind, ih]

/-- The value of a checked computation, or a stop at its fault. -/
def ofChecked : Checked α → Program α
  | .ok value => done value
  | .error e => fault e

/-- Makes one bus cycle. -/
def cycle (a : Access) : Program a.Answer :=
  access a done

/-- Repeats `body` until it gives a result. -/
def loop (body : σ → Program (σ ⊕ β)) (start : σ) : Program β :=
  spin body start done

/-! ### Running against a world -/

/-- Repeats a step at most `limit` times. -/
def repeatUntil {W : Type} (step : σ → W → Except Halt (σ ⊕ β) × W) :
    Nat → σ → W → Except Halt β × W
  | 0, _, world => (.error .stuck, world)
  | limit + 1, state, world =>
    match step state world with
    | (.ok (.inl state), world) => repeatUntil step limit state world
    | (.ok (.inr result), world) => (.ok result, world)
    | (.error halt, world) => (.error halt, world)

/-- Runs a program in a world that `exec` moves with every bus cycle; a loop that goes round
`limit` times without a result is stuck. -/
def run {W : Type} (exec : (a : Access) → W → Except Halt a.Answer × W) (limit : Nat) {α : Type} :
    Program α → W → Except Halt α × W
  | done value, world => (.ok value, world)
  | fault e, world => (.error (.fault e), world)
  | access a next, world =>
    match exec a world with
    | (.ok answer, world) => (next answer).run exec limit world
    | (.error halt, world) => (.error halt, world)
  | spin body start next, world =>
    match repeatUntil (fun state world => (body state).run exec limit world) limit start world with
    | (.ok result, world) => (next result).run exec limit world
    | (.error halt, world) => (.error halt, world)

theorem run_bind {W : Type} (exec : (a : Access) → W → Except Halt a.Answer × W) (limit : Nat)
    (p : Program α) (f : α → Program β) (world : W) :
    (p.bind f).run exec limit world =
      match p.run exec limit world with
      | (.ok value, world) => (f value).run exec limit world
      | (.error halt, world) => (.error halt, world) := by
  induction p generalizing world with
  | done value => rfl
  | fault e => rfl
  | access a next ih =>
    simp only [bind, run]
    split
    · exact ih _ _ _
    · rfl
  | spin body start next _ ih =>
    simp only [bind, run]
    split
    · exact ih _ _ _
    · rfl

end Program

end TwinDesk
