import TwinDesk.Fault
import TwinDesk.Window.Slot

/-!
# Front-to-back order

The order of the windows on the screen, as a list linked in both directions: every window in the
order knows the one above and the one below it. Taking a window out and putting it to the front or
to the back touches its neighbours only.

The order is over slots and owns no windows. Its view is `ZOrder.frontToBack`.
-/

namespace TwinDesk

/-- The neighbours of a window in the order. -/
structure Links where
  above : Option Slot
  below : Option Slot
  deriving DecidableEq, Repr, Inhabited

/-- A front-to-back order of windows. -/
structure ZOrder where
  /-- The neighbours of each window in the order; none for a slot that is not in it. -/
  links : SlotTable (Option Links)
  front : Option Slot
  back : Option Slot
  deriving DecidableEq, Repr

namespace ZOrder

/-- The order without windows. -/
def empty : ZOrder :=
  ⟨.replicate none, none, none⟩

/-- The window directly in front of a slot's window. -/
def above (z : ZOrder) (slot : Slot) : Option Slot :=
  (z.links.get slot).bind (·.above)

/-- The window directly behind a slot's window. -/
def below (z : ZOrder) (slot : Slot) : Option Slot :=
  (z.links.get slot).bind (·.below)

/-- Whether a slot's window is in the order. -/
def contains (z : ZOrder) (slot : Slot) : Bool :=
  (z.links.get slot).isSome

/-- The number of windows in the order. -/
def size (z : ZOrder) : Nat :=
  Slot.all.countP z.contains

def isEmpty (z : ZOrder) : Bool :=
  z.size == 0

/-! ### Changing the order -/

/-- Replaces the neighbour above a slot. -/
def setAbove (z : ZOrder) (slot : Slot) (neighbour : Option Slot) : ZOrder :=
  { z with links := z.links.set slot ((z.links.get slot).map ({ · with above := neighbour })) }

/-- Replaces the neighbour below a slot. -/
def setBelow (z : ZOrder) (slot : Slot) (neighbour : Option Slot) : ZOrder :=
  { z with links := z.links.set slot ((z.links.get slot).map ({ · with below := neighbour })) }

/-- Takes a slot's window out of the order, wherever it is. -/
def unlink (z : ZOrder) (slot : Slot) : ZOrder :=
  match z.links.get slot with
  | none => z
  | some ⟨above, below⟩ =>
    let z := match above with
      | some neighbour => z.setBelow neighbour below
      | none => { z with front := below }
    let z := match below with
      | some neighbour => z.setAbove neighbour above
      | none => { z with back := above }
    { z with links := z.links.set slot none }

/-- Puts a slot's window in front of all others. -/
def pushTop (z : ZOrder) (slot : Slot) : ZOrder :=
  let z := z.unlink slot
  let linked := { z with links := z.links.set slot (some ⟨none, z.front⟩), front := some slot }
  match z.front with
  | some neighbour => linked.setAbove neighbour (some slot)
  | none => { linked with back := some slot }

/-- Puts a slot's window behind all others. -/
def pushBottom (z : ZOrder) (slot : Slot) : ZOrder :=
  let z := z.unlink slot
  let linked := { z with links := z.links.set slot (some ⟨z.back, none⟩), back := some slot }
  match z.back with
  | some neighbour => linked.setBelow neighbour (some slot)
  | none => { linked with front := some slot }

/-! ### Walking the order -/

/-- The slots met from `start` on, following `next`; at most `limit` of them. -/
def walk (next : Slot → Option Slot) : Nat → Option Slot → List Slot
  | 0, _ => []
  | _ + 1, none => []
  | limit + 1, some slot => slot :: walk next limit (next slot)

/-- The windows from the front to the back. -/
def frontToBack (z : ZOrder) : List Slot :=
  walk z.below Layout.maxWindows z.front

/-- The windows from the back to the front. -/
def backToFront (z : ZOrder) : List Slot :=
  walk z.above Layout.maxWindows z.back

/-! ### By window id -/

/-- Puts the window with a given id in front; an id beyond the slots is a fault. -/
def pushTopId (z : ZOrder) (id : WindowId) : Checked ZOrder :=
  match id.slot? with
  | some slot => .ok (z.pushTop slot)
  | none => .error .index

/-- Puts the window with a given id behind all others; an id beyond the slots is a fault. -/
def pushBottomId (z : ZOrder) (id : WindowId) : Checked ZOrder :=
  match id.slot? with
  | some slot => .ok (z.pushBottom slot)
  | none => .error .index

/-- Sends the window with a given id to the back, which is to put it there anew. -/
def sendToBackId (z : ZOrder) (id : WindowId) : Checked ZOrder :=
  z.pushBottomId id

/-- Takes the window with a given id out, and tells whether it was in the order. -/
def unlinkId (z : ZOrder) (id : WindowId) : Bool × ZOrder :=
  match id.slot? with
  | some slot => (z.contains slot, z.unlink slot)
  | none => (false, z)

/-- Whether the window with a given id is in the order. -/
def containsId (z : ZOrder) (id : WindowId) : Bool :=
  id.slot?.any z.contains

/-- The id of the window above the one with a given id. -/
def aboveId (z : ZOrder) (id : WindowId) : Option WindowId :=
  (id.slot?.bind z.above).map Slot.id

/-- The id of the window below the one with a given id. -/
def belowId (z : ZOrder) (id : WindowId) : Option WindowId :=
  (id.slot?.bind z.below).map Slot.id

end ZOrder

end TwinDesk
