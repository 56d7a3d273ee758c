import TwinDesk.Text.Radix

/-!
# Pointer buttons

A mask of the four buttons of the pointer device. Bits above the low four are always clear.
-/

namespace TwinDesk

/-- The buttons that are held. -/
structure Buttons where
  bits : UInt8
  bits_lt : bits < 16
  deriving DecidableEq, Repr

namespace Buttons

/-- No button held. -/
def none : Buttons := ⟨0, by decide⟩

instance : Inhabited Buttons := ⟨none⟩

def left : Buttons := ⟨0x01, by decide⟩
def right : Buttons := ⟨0x02, by decide⟩
def middle : Buttons := ⟨0x04, by decide⟩
def start : Buttons := ⟨0x08, by decide⟩

theorem and_lt_sixteen {a b : UInt8} (h : a < 16) : a &&& b < 16 := by
  rw [UInt8.lt_iff_toNat_lt, UInt8.toNat_and]
  exact Nat.lt_of_le_of_lt Nat.and_le_left (UInt8.lt_iff_toNat_lt.mp h)

theorem or_lt_sixteen {a b : UInt8} (ha : a < 16) (hb : b < 16) : a ||| b < 16 := by
  rw [UInt8.lt_iff_toNat_lt, UInt8.toNat_or]
  exact Nat.or_lt_two_pow (n := 4) (UInt8.lt_iff_toNat_lt.mp ha) (UInt8.lt_iff_toNat_lt.mp hb)

/-- The buttons in the low four bits of a byte. -/
def ofBits (bits : UInt8) : Buttons :=
  ⟨0x0F &&& bits, and_lt_sixteen (by decide)⟩

/-- Whether no button is held. -/
def isEmpty (b : Buttons) : Bool :=
  b.bits == 0

/-- Whether every button of `other` is held. -/
def contains (b other : Buttons) : Bool :=
  b.bits &&& other.bits == other.bits

/-- The buttons held now that were not held before. -/
def newlyPressed (b previous : Buttons) : Buttons :=
  ⟨b.bits &&& ~~~previous.bits, and_lt_sixteen b.bits_lt⟩

/-- The buttons held in either mask. -/
def union (b other : Buttons) : Buttons :=
  ⟨b.bits ||| other.bits, or_lt_sixteen b.bits_lt other.bits_lt⟩

/-- The mask in listings. -/
def inspect (b : Buttons) : String :=
  s!"Buttons({Text.binary 4 b.bits.toNat})"

/-- A mask is what it was after a trip through a byte. -/
@[simp] theorem ofBits_bits (b : Buttons) : ofBits b.bits = b := by
  obtain ⟨bits, low⟩ := b
  rw [UInt8.lt_iff_toNat_lt] at low
  have same : 0x0F &&& bits = bits := by
    rw [UInt8.and_comm, ← UInt8.toNat_inj, UInt8.toNat_and]
    exact (Nat.and_two_pow_sub_one_eq_mod bits.toNat 4).trans (Nat.mod_eq_of_lt low)
  simp only [ofBits, same]

end Buttons

end TwinDesk
