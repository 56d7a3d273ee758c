import TwinDesk.Machine.Bus

/-!
# Moving by turns

How one processor runs a program while the other one moves by turns: each time the first one is
about to look at the flag of the other, the other makes a *move*, which is a program of its own.
Between its moves the other processor rests.

Since a waiting processor looks at its peer's flag again and again, both make progress; a wait that
no move ends is stuck.
-/

namespace TwinDesk

/-- A processor that moves by turns. -/
class Peer (P : Type) where
  /-- Which processor it is. -/
  side : P → Side
  /-- One move. -/
  move : P → Program P

namespace Peer

variable {P α : Type} [Peer P]

/-- A world of a peer and a bus. -/
abbrev World (P : Type) : Type := P × Bus

/-- The peer moves. -/
def takeTurn (world : World P) : Except Halt Unit × World P :=
  match Bus.run (side world.1) (move world.1) world.2 with
  | (.ok peer, bus) => (.ok (), (peer, bus))
  | (.error halt, bus) => (.error halt, (world.1, bus))

/-- Whether a bus cycle is a look at the peer's flag. -/
def isLook (peer : P) : Access → Bool
  | .readByte offset => offset == (side peer).flag
  | _ => false

/-- One bus cycle against a peer. -/
def perform (access : Access) (world : World P) : Except Halt access.Answer × World P :=
  let (turn, world) := if isLook world.1 access then takeTurn world else (.ok (), world)
  match turn with
  | .error halt => (.error halt, world)
  | .ok () =>
    let (answer, bus) := world.2.perform (side world.1).peer access
    (answer, (world.1, bus))

/-- Runs a program against a peer. -/
def run (program : Program α) (peer : P) (bus : Bus) : Except Halt α × World P :=
  program.run perform Bus.patience (peer, bus)

end Peer

/-- A peer that misses its first turns. -/
structure Delayed (P : Type) where
  turns : Nat
  peer : P

instance {P : Type} [Peer P] : Peer (Delayed P) where
  side delayed := Peer.side delayed.peer
  move delayed :=
    match delayed.turns with
    | turns + 1 => return { delayed with turns }
    | 0 => return { delayed with peer := ← Peer.move delayed.peer }

end TwinDesk
