/-!
# The two processors and their two banks

The machine has a Main processor, which gives commands and shows frames, and a Sub processor,
which carries commands out and paints frames. Word memory is split into two banks, and at any
time each processor sees one of them.

* `Side.peer_peer`, `Bank.other_other` — both swaps are involutions.
* `Side.bank_peer` — the two processors never see the same bank.
-/

namespace TwinDesk

/-- One of the two processors. -/
inductive Side where
  | main
  | sub
  deriving DecidableEq, Repr, Inhabited

/-- One of the two banks of word memory. -/
inductive Bank where
  | zero
  | one
  deriving DecidableEq, Repr, Inhabited

namespace Bank

/-- The bank that the other processor sees. -/
def other : Bank → Bank
  | zero => one
  | one => zero

/-- The bank's place in word memory. -/
def index : Bank → Nat
  | zero => 0
  | one => 1

/-- The bank's name in messages. -/
def describe (bank : Bank) : String :=
  s!"bank {bank.index}"

/-- The bank's name in listings. -/
def inspect (bank : Bank) : String :=
  s!"BankId({bank.index})"

@[simp] theorem other_other (bank : Bank) : bank.other.other = bank := by
  cases bank <;> rfl

theorem other_ne (bank : Bank) : bank.other ≠ bank := by
  cases bank <;> decide

theorem index_lt (bank : Bank) : bank.index < 2 := by
  cases bank <;> decide

end Bank

namespace Side

/-- The processor at the far end of the link. -/
def peer : Side → Side
  | main => sub
  | sub => main

/-- The processor's name in messages. -/
def name : Side → String
  | main => "main"
  | sub => "sub"

/-- The bank a processor sees, given the bank selection bit. -/
def bank : Side → Bool → Bank
  | main, false => .zero
  | main, true => .one
  | sub, false => .one
  | sub, true => .zero

@[simp] theorem peer_peer (side : Side) : side.peer.peer = side := by
  cases side <;> rfl

theorem bank_peer (side : Side) (sel : Bool) : side.peer.bank sel = (side.bank sel).other := by
  cases side <;> cases sel <;> rfl

theorem bank_not (side : Side) (sel : Bool) : side.bank (!sel) = (side.bank sel).other := by
  cases side <;> cases sel <;> rfl

end Side

end TwinDesk
