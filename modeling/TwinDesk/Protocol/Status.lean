/-!
# Status codes and the life of the Sub processor

The Sub processor answers through a status byte. Besides, status word 0 tells how far the Sub
processor has come in its life: held in reset, booting, ready, rendering, or crashed.

* `Status.ofCode?_eq_some_iff`, `Lifecycle.ofWord?_eq_some_iff` — decoding finds exactly the value
  with that code.
-/

namespace TwinDesk

/-- What the Sub processor says about the command in flight. -/
inductive Status where
  /-- Ready for a command. -/
  | idle
  /-- Carrying the command out. -/
  | busy
  /-- Acknowledged; part of the wire format, though no command is answered with it. -/
  | ack
  /-- Complete, with valid result words. -/
  | done
  /-- Rejected or failed. -/
  | error
  deriving DecidableEq, Repr, Inhabited

namespace Status

/-- Every status, by code. -/
def all : List Status := [idle, busy, ack, done, error]

/-- The byte that stands for the status. -/
def code : Status → UInt8
  | idle => 0x00
  | busy => 0x01
  | ack => 0x02
  | done => 0x03
  | error => 0xFF

/-- The status that a byte stands for. -/
def ofCode? (byte : UInt8) : Option Status :=
  all.find? (·.code == byte)

/-- Whether the status ends a command cycle. -/
def isTerminal : Status → Bool
  | done | error => true
  | idle | busy | ack => false

/-- The status's name in listings. -/
def inspect : Status → String
  | idle => "Idle"
  | busy => "Busy"
  | ack => "Ack"
  | done => "Done"
  | error => "Error"

/-- The status in messages. -/
def describe : Status → String
  | idle => "IDLE"
  | busy => "BUSY"
  | ack => "ACK"
  | done => "DONE"
  | error => "ERROR"

/-- The status named in listings by `name`. -/
def ofName? (name : String) : Option Status :=
  all.find? (·.inspect == name)

theorem mem_all (status : Status) : status ∈ all := by
  cases status <;> decide

theorem ofCode?_eq_some_iff {byte : UInt8} {status : Status} :
    ofCode? byte = some status ↔ status.code = byte := by
  constructor
  · intro h
    simpa using List.find?_some h
  · rintro rfl
    cases status <;> rfl

theorem code_eq_zero_iff {status : Status} : status.code = 0 ↔ status = idle := by
  cases status <;> decide

end Status

/-- How far the Sub processor has come. -/
inductive Lifecycle where
  | reset
  | booting
  | ready
  | rendering
  | crashed
  deriving DecidableEq, Repr, Inhabited

namespace Lifecycle

/-- Every stage, by code. -/
def all : List Lifecycle := [reset, booting, ready, rendering, crashed]

/-- The word that stands for the stage. -/
def word : Lifecycle → UInt16
  | reset => 0
  | booting => 1
  | ready => 2
  | rendering => 3
  | crashed => 0xFF

/-- The stage that a status word stands for. -/
def ofWord? (word : UInt16) : Option Lifecycle :=
  all.find? (·.word == word)

/-- The stage's name in messages and listings. -/
def inspect : Lifecycle → String
  | reset => "Reset"
  | booting => "Booting"
  | ready => "Ready"
  | rendering => "Rendering"
  | crashed => "Crashed"

theorem ofWord?_eq_some_iff {word : UInt16} {stage : Lifecycle} :
    ofWord? word = some stage ↔ stage.word = word := by
  constructor
  · intro h
    simpa using List.find?_some h
  · rintro rfl
    cases stage <;> rfl

end Lifecycle

end TwinDesk
