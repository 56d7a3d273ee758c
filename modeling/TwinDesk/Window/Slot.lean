import TwinDesk.Geometry.Layout
import TwinDesk.Protocol.WindowId

/-!
# Window slots

There is room for sixteen windows, each in a slot of its own, and a window's id is its slot. Ids
from outside may be any byte, so that not every id names a slot.

A `SlotTable` holds a value for every slot.

* `Slot.slot?_id` — a slot's id names that slot, and no other id does.
* `SlotTable.get_set_self`, `SlotTable.get_set_of_ne` — setting one value leaves the others alone.
-/

namespace TwinDesk

/-- A place for a window. -/
abbrev Slot : Type := Fin Layout.maxWindows

/-- The id of the window in a slot. -/
def Slot.id (slot : Slot) : WindowId :=
  ⟨UInt8.ofNat slot.val⟩

/-- The slot that an id names. -/
def WindowId.slot? (id : WindowId) : Option Slot :=
  if h : id.byte.toNat < Layout.maxWindows then some ⟨id.byte.toNat, h⟩ else none

namespace Slot

/-- Every slot, lowest first. -/
def all : List Slot :=
  List.finRange _

theorem mem_all (slot : Slot) : slot ∈ all :=
  List.mem_finRange slot

theorem slot?_id (slot : Slot) : slot.id.slot? = some slot := by
  revert slot
  decide

theorem id_of_slot? {id : WindowId} {slot : Slot} (h : id.slot? = some slot) : slot.id = id := by
  unfold WindowId.slot? at h
  split at h
  · cases h
    cases id
    simp [Slot.id]
  · cases h

theorem id_injective {a b : Slot} (h : a.id = b.id) : a = b :=
  Option.some.inj (by rw [← slot?_id a, ← slot?_id b, h])

end Slot

/-- A value for every slot. -/
structure SlotTable (α : Type) where
  cells : Vector α Layout.maxWindows
  deriving DecidableEq, Repr

namespace SlotTable

variable {α : Type}

/-- The table with the same value for every slot. -/
def replicate (value : α) : SlotTable α :=
  ⟨Vector.replicate _ value⟩

/-- The value for a slot. -/
def get (table : SlotTable α) (slot : Slot) : α :=
  table.cells[slot]

/-- The table with another value for a slot. -/
def set (table : SlotTable α) (slot : Slot) (value : α) : SlotTable α :=
  ⟨table.cells.set slot value slot.isLt⟩

@[simp] theorem get_replicate (value : α) (slot : Slot) : (replicate value).get slot = value := by
  simp [replicate, get]

@[simp] theorem get_set_self (table : SlotTable α) (slot : Slot) (value : α) :
    (table.set slot value).get slot = value := by
  simp [set, get]

theorem get_set_of_ne (table : SlotTable α) {slot other : Slot} (value : α) (ne : other ≠ slot) :
    (table.set slot value).get other = table.get other := by
  simp only [set, get, Fin.getElem_fin]
  exact Vector.getElem_set_ne _ _ fun e => ne (Fin.ext e.symm)

end SlotTable

end TwinDesk
