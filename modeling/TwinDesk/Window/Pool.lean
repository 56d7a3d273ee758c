import TwinDesk.Window.Basic
import TwinDesk.Window.Damage
import TwinDesk.Window.DesktopError
import TwinDesk.Window.ZOrder

/-!
# The window pool

All open windows, with their order, the active window and the damage. The four belong together:
opening a window puts it in front and makes it active, closing the active window passes activity
on, and every change on the screen is reported as damage.

An operation that names a window takes an id, which may be any byte, and is refused when no open
window has it. A refused operation returns the pool as it was.
-/

namespace TwinDesk

/-- The open windows. -/
structure Pool where
  slots : SlotTable (Option Window)
  order : ZOrder
  active : Option Slot
  damage : Damage
  deriving DecidableEq, Repr

namespace Pool

/-- What an operation answers, and the pool it leaves. -/
abbrev Outcome (α : Type) : Type := Except DesktopError α × Pool

/-- The pool without windows. -/
def empty : Pool :=
  ⟨.replicate none, .empty, none, .clean⟩

/-! ### Looking up windows -/

/-- The slot and the window with a given id. -/
def find? (pool : Pool) (id : WindowId) : Option (Slot × Window) := do
  let slot ← id.slot?
  let window ← pool.slots.get slot
  return (slot, window)

/-- The window with a given id. -/
def get? (pool : Pool) (id : WindowId) : Option Window :=
  (pool.find? id).map (·.2)

/-- Whether an open window has the given id. -/
def isLive (pool : Pool) (id : WindowId) : Bool :=
  (pool.find? id).isSome

/-- The number of open windows. -/
def size (pool : Pool) : Nat :=
  Slot.all.countP fun slot => (pool.slots.get slot).isSome

/-- The id of the active window, which receives input. -/
def activeId (pool : Pool) : Option WindowId :=
  pool.active.map Slot.id

/-- The open windows from the front to the back. -/
def frontToBack (pool : Pool) : List Window :=
  pool.order.frontToBack.filterMap fun slot => pool.slots.get slot

/-- The open windows from the back to the front, which is the order of painting. -/
def backToFront (pool : Pool) : List Window :=
  pool.order.backToFront.filterMap fun slot => pool.slots.get slot

/-! ### Building blocks -/

/-- Changes the window in a slot. -/
def modify (pool : Pool) (slot : Slot) (f : Window → Window) : Pool :=
  { pool with slots := pool.slots.set slot ((pool.slots.get slot).map f) }

/-- Reports damage. -/
def invalidate (pool : Pool) (rect : Rect) : Pool :=
  { pool with damage := pool.damage.invalidate rect }

/-- Reports the frame of the window in a slot as damaged. -/
def invalidateSlot (pool : Pool) (slot : Slot) : Pool :=
  match pool.slots.get slot with
  | some window => pool.invalidate window.frame
  | none => pool

/-- Adds flags to the window in a slot. -/
def addFlags (pool : Pool) (slot : Slot) (flags : WindowFlags) : Pool :=
  pool.modify slot fun window => { window with flags := window.flags.insert flags }

/-- Takes flags from the window in a slot. -/
def dropFlags (pool : Pool) (slot : Slot) (flags : WindowFlags) : Pool :=
  pool.modify slot fun window => { window with flags := window.flags.remove flags }

/-- Takes the highlight from every window but the one in a slot, and reports where it was. -/
def deactivateOthers (pool : Pool) (slot : Slot) : Pool :=
  match pool.active with
  | some old => if old = slot then pool
    else (pool.dropFlags old .highlighted).invalidateSlot old
  | none => pool

/-- Makes the window in a slot the active one. -/
def activate (pool : Pool) (slot : Slot) : Pool :=
  { pool.deactivateOthers slot with active := some slot }.addFlags slot .highlighted

/-! ### Opening and closing -/

/-- The lowest slot without a window. -/
def freeSlot? (pool : Pool) : Option Slot :=
  Slot.all.find? fun slot => (pool.slots.get slot).isNone

/-- Opens a window in the lowest free slot, in front of all others and active. -/
def allocate (pool : Pool) (frame : Rect) (title : String) (style : WindowStyle)
    (flags : WindowFlags) : Outcome WindowId :=
  match pool.freeSlot? with
  | none => (.error .poolExhausted, pool)
  | some slot =>
    let window := Window.create slot.id frame title style flags
    let pool := { pool with
      slots := pool.slots.set slot (some window)
      order := pool.order.pushTop slot }
    let pool := pool.activate slot
    (.ok slot.id, if window.isVisible then pool.invalidateSlot slot else pool)

/-- Closes a window. What it covered is damaged, and where it was active, the window that is now
in front becomes active. -/
def free (pool : Pool) (id : WindowId) : Outcome Unit :=
  match pool.find? id with
  | none => (.error .noSuchWindow, pool)
  | some (slot, window) =>
    let pool := pool.invalidate window.frame
    let pool : Pool := { pool with
      order := pool.order.unlink slot
      slots := pool.slots.set slot none }
    if pool.active = some slot then
      let pool : Pool := { pool with active := pool.order.front }
      match pool.active with
      | some next => (.ok (), (pool.addFlags next .highlighted).invalidateSlot next)
      | none => (.ok (), pool)
    else
      (.ok (), pool)

/-! ### Order and activity -/

/-- Brings a window to the front and makes it active. -/
def select (pool : Pool) (id : WindowId) : Outcome Unit :=
  match pool.find? id with
  | none => (.error .noSuchWindow, pool)
  | some (slot, _) =>
    if pool.order.front = some slot ∧ pool.active = some slot then
      (.ok (), pool)
    else
      let pool := { pool with order := pool.order.pushTop slot }
      (.ok (), (pool.activate slot).invalidateSlot slot)

/-- Puts a window behind all others; activity stays where it is. -/
def sendToBack (pool : Pool) (id : WindowId) : Outcome Unit :=
  match pool.find? id with
  | none => (.error .noSuchWindow, pool)
  | some (slot, _) =>
    if pool.order.back = some slot then
      (.ok (), pool)
    else
      (.ok (), { pool with order := pool.order.pushBottom slot }.invalidateSlot slot)

/-! ### Looks and places -/

/-- Makes a hidden window visible. -/
def reveal (pool : Pool) (id : WindowId) : Outcome Unit :=
  match pool.find? id with
  | none => (.error .noSuchWindow, pool)
  | some (slot, window) =>
    if window.isVisible then (.ok (), pool)
    else (.ok (), (pool.addFlags slot .visible).invalidate window.frame)

/-- Hides a window without closing it. -/
def hide (pool : Pool) (id : WindowId) : Outcome Unit :=
  match pool.find? id with
  | none => (.error .noSuchWindow, pool)
  | some (slot, window) =>
    if window.isVisible then (.ok (), (pool.dropFlags slot .visible).invalidate window.frame)
    else (.ok (), pool)

/-- Gives a window another frame, and reports the old and the new one. -/
def reframe (pool : Pool) (id : WindowId) (frame : Rect → Rect) : Outcome Unit :=
  match pool.find? id with
  | none => (.error .noSuchWindow, pool)
  | some (slot, window) =>
    let moved := window.withFrame (frame window.frame)
    let pool := pool.modify slot fun _ => moved
    (.ok (), (pool.invalidate window.frame).invalidate moved.frame)

/-- Moves a window's top left corner. The size stays unless the edge of the screen cuts it. -/
def moveTo (pool : Pool) (id : WindowId) (x y : Coord) : Outcome Unit :=
  pool.reframe id fun old => old.offset (x.subSat old.left) (y.subSat old.top)

/-- Gives a window another size, with the top left corner in place. -/
def resize (pool : Pool) (id : WindowId) (width height : Coord) : Outcome Unit :=
  pool.reframe id fun old => .ofOriginSize old.left old.top width height

/-- Gives a window another title. -/
def setTitle (pool : Pool) (id : WindowId) (title : String) : Outcome Unit :=
  match pool.find? id with
  | none => (.error .noSuchWindow, pool)
  | some (slot, window) =>
    let pool := pool.modify slot fun window => { window with title := .ofText title }
    (.ok (), pool.invalidate window.titleBar)

/-! ### Damage -/

/-- Reports a window's frame as damaged. -/
def invalidateWindow (pool : Pool) (id : WindowId) : Outcome Unit :=
  match pool.find? id with
  | none => (.error .noSuchWindow, pool)
  | some (_, window) => (.ok (), pool.invalidate window.frame)

/-- Drops all windows, and the damage with them. -/
def clear (_ : Pool) : Pool :=
  .empty

/-- Forgets the damage, once it is painted. -/
def endUpdate (pool : Pool) : Pool :=
  { pool with damage := .clean }

end Pool

end TwinDesk
