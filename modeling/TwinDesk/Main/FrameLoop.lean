import TwinDesk.Main.Client
import TwinDesk.Main.Tracker

/-!
# The frame loop

What the Main processor does once both processors are up: per frame it reads the pointer, delivers
the event that comes of it, lets the Sub processor paint and shows the frame.
-/

namespace TwinDesk

open Program

/-- A pointer device. -/
class PointerSource (S : Type) where
  /-- Reads a sample; none without a device. -/
  poll : S → Checked (Option PointerSample × S)

/-- A list of readings is a device that is unplugged at its end, and wherever a reading is missing. -/
instance : PointerSource (List (Option PointerSample)) where
  poll
    | [] => return (none, [])
    | reading :: rest => return (reading, rest)

/-- The state of the Main processor, with a pointer device `S`. -/
structure FrameLoop (S : Type) where
  client : Client
  tracker : Tracker
  source : S
  screen : Screen
  /-- The frames shown so far, modulo 2³². -/
  frames : UInt32

/-- What one round of the loop did. -/
structure FrameReport where
  /-- The frames shown so far, this one included. -/
  frame : UInt32
  bank : Bank
  /-- How many rectangles were painted. -/
  rects : UInt16
  /-- The pointer event that was delivered. -/
  pointer : Option PointerEvent
  deriving DecidableEq, Repr, Inhabited

namespace FrameLoop

variable {S : Type}

/-- The loop before its first frame. -/
def start (client : Client) (source : S) : FrameLoop S :=
  ⟨client, .initial, source, .blank, 0⟩

/-- Reads the pointer, and returns the event that comes of it. -/
def readPointer [PointerSource S] (loop : FrameLoop S) :
    Checked (Option PointerEvent × FrameLoop S) := do
  let (sample, source) ← PointerSource.poll loop.source
  match sample with
  | none => return (none, { loop with source })
  | some sample =>
    let (event, tracker) := loop.tracker.update sample
    return (event, { loop with source, tracker })

/-- Delivers a pointer event. That the Sub processor rejects it is no error. -/
def deliver (event : Option PointerEvent) (loop : FrameLoop S) :
    Program (Except MainError Unit × FrameLoop S) := do
  match event with
  | none => return (.ok (), loop)
  | some event =>
    match ← Client.sendPointer event loop.client with
    | (.ok (), client) | (.error (.commandFailed _), client) => return (.ok (), { loop with client })
    | (.error e, client) => return (.error e, { loop with client })

/-- Lets the Sub processor paint, and shows the frame. -/
def display (pointer : Option PointerEvent) (loop : FrameLoop S) :
    Program (Except MainError FrameReport × FrameLoop S) := do
  match ← Client.renderFrame loop.client with
  | (.error e, client) => return (.error e, { loop with client })
  | (.ok reply, client) =>
    match ← Client.present loop.screen with
    | (.error e, screen) => return (.error e, { loop with client, screen })
    | (.ok bank, screen) =>
      let frames := loop.frames + 1
      return (.ok ⟨frames, bank, reply.rects, pointer⟩, { loop with client, screen, frames })

/-- One frame. -/
def tick [PointerSource S] (loop : FrameLoop S) :
    Program (Except MainError FrameReport × FrameLoop S) := do
  let (pointer, loop) ← ofChecked loop.readPointer
  match ← loop.deliver pointer with
  | (.error e, loop) => return (.error e, loop)
  | (.ok (), loop) => loop.display pointer

end FrameLoop

end TwinDesk
