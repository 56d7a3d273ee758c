/-!
# Window ids

A window is known to the outside by the slot it occupies. On the wire an id is the low byte of a
word, and the byte `0xFF` stands for "no window".

* `WindowId.ofResult?_toResult` — every id below the sentinel survives the trip through a result
  word, and so does the absence of one.
-/

namespace TwinDesk

/-- The handle of a window: its slot. -/
structure WindowId where
  byte : UInt8
  deriving DecidableEq, Repr, Inhabited

namespace WindowId

/-- The byte that stands for "no window". -/
def sentinel : UInt8 := 0xFF

/-- The slot that the id names. -/
def slot (id : WindowId) : Nat :=
  id.byte.toNat

/-- The id of slot `slot`. -/
def ofSlot (slot : Nat) : WindowId :=
  ⟨UInt8.ofNat slot⟩

/-- The id in a result word; every word from the sentinel on means "no window". -/
def ofResult? (word : UInt16) : Option WindowId :=
  if sentinel.toUInt16 ≤ word then none else some ⟨word.toUInt8⟩

/-- The result word for an optional id. -/
def toResult : Option WindowId → UInt16
  | none => sentinel.toUInt16
  | some id => id.byte.toUInt16

/-- The id in a command's parameter word; ids never exceed a byte. -/
def ofParameter? (word : UInt16) : Option WindowId :=
  if word.toNat < 256 then some ⟨word.toUInt8⟩ else none

/-- The id in messages. -/
def describe (id : WindowId) : String :=
  s!"win:{id.byte}"

/-- The id in listings. -/
def inspect (id : WindowId) : String :=
  s!"WindowId({id.byte})"

theorem ext_slot {a b : WindowId} (h : a.slot = b.slot) : a = b := by
  cases a
  cases b
  simp only [slot] at h
  rw [UInt8.toNat_inj.mp h]

theorem slot_ofSlot {slot : Nat} (h : slot < 256) : (ofSlot slot).slot = slot := by
  simp only [ofSlot, WindowId.slot, UInt8.toNat_ofNat']
  omega

theorem ofSlot_slot (id : WindowId) : ofSlot id.slot = id := by
  cases id
  simp [ofSlot, slot]

theorem ofResult?_toResult {id : Option WindowId} (h : id ≠ some ⟨sentinel⟩) :
    ofResult? (toResult id) = id := by
  rcases id with _ | id
  · rfl
  · obtain ⟨byte⟩ := id
    have below : byte.toNat < 255 := by
      have := byte.toNat_lt
      have : byte.toNat ≠ 255 := by
        intro e
        have eq : byte = sentinel := UInt8.toNat_inj.mp e
        exact h (by rw [eq])
      omega
    have : ¬ sentinel.toUInt16 ≤ byte.toUInt16 := by
      rw [UInt16.le_iff_toNat_le]
      simpa [sentinel] using below
    simp [ofResult?, toResult, this]

end WindowId

end TwinDesk
