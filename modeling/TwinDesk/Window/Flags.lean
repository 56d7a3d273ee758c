/-!
# Window styles and flags

A style decides how a window is decorated and which flags it carries in any case. Flags are single
bits of a byte; the two bits without a meaning are kept as they are.

* `WindowFlags.contains_insert`, `WindowFlags.contains_remove` — inserting a flag sets it, and
  removing it clears it.
* `WindowFlags.remove_insert`, `WindowFlags.remove_remove` — removing it makes up for both.
-/

namespace TwinDesk

/-- The flags of a window, one per bit. -/
structure WindowFlags where
  bits : UInt8
  deriving DecidableEq, Repr, Inhabited

namespace WindowFlags

def none : WindowFlags := ⟨0⟩

/-- Drawn, and found by hit tests. -/
def visible : WindowFlags := ⟨0x01⟩

/-- The active window, with its title bar highlighted. -/
def highlighted : WindowFlags := ⟨0x02⟩

def hasClose : WindowFlags := ⟨0x04⟩
def hasGrow : WindowFlags := ⟨0x08⟩

/-- Keeps input from other windows. -/
def modal : WindowFlags := ⟨0x10⟩

/-- Needs a full redraw. -/
def dirty : WindowFlags := ⟨0x20⟩

/-- Whether every flag of `other` is set. -/
def contains (flags other : WindowFlags) : Bool :=
  flags.bits &&& other.bits == other.bits

/-- All flags that are set in either. -/
def insert (flags other : WindowFlags) : WindowFlags :=
  ⟨flags.bits ||| other.bits⟩

/-- The flags without those of `other`. -/
def remove (flags other : WindowFlags) : WindowFlags :=
  ⟨flags.bits &&& ~~~other.bits⟩

/-- Sets or clears the flags of `other`. -/
def set (flags other : WindowFlags) (on : Bool) : WindowFlags :=
  if on then flags.insert other else flags.remove other

/-- The flags with a name, in the order of their bits. -/
def named : List (WindowFlags × String) :=
  [(visible, "VISIBLE"), (highlighted, "HILITED"), (hasClose, "HAS_CLOSE"),
    (hasGrow, "HAS_GROW"), (modal, "MODAL"), (dirty, "DIRTY")]

/-- The flags in listings: the names of those that are set. -/
def inspect (flags : WindowFlags) : String :=
  let names := named.filterMap fun (flag, name) => if flags.contains flag then some name else .none
  "WindowFlags(" ++ " | ".intercalate names ++ ")"

theorem contains_insert (flags other : WindowFlags) : (flags.insert other).contains other := by
  simp only [contains, insert, beq_iff_eq]
  apply UInt8.eq_of_toBitVec_eq
  simp only [UInt8.toBitVec_and, UInt8.toBitVec_or]
  ext i
  simpa using Or.inr

theorem contains_remove {flags other : WindowFlags} (h : other.bits ≠ 0) :
    (flags.remove other).contains other = false := by
  simp only [contains, remove, beq_eq_false_iff_ne]
  intro e
  apply h
  rw [← e]
  apply UInt8.eq_of_toBitVec_eq
  simp only [UInt8.toBitVec_and, UInt8.toBitVec_not]
  ext i
  simp

theorem remove_insert (flags other : WindowFlags) :
    (flags.insert other).remove other = flags.remove other := by
  simp only [insert, remove, mk.injEq]
  apply UInt8.eq_of_toBitVec_eq
  simp only [UInt8.toBitVec_and, UInt8.toBitVec_or, UInt8.toBitVec_not]
  ext i
  simp [Bool.and_or_distrib_right]

theorem remove_remove (flags other : WindowFlags) :
    (flags.remove other).remove other = flags.remove other := by
  simp only [remove, mk.injEq]
  apply UInt8.eq_of_toBitVec_eq
  simp only [UInt8.toBitVec_and, UInt8.toBitVec_not]
  ext i
  simp +contextual

end WindowFlags

/-- How a window is decorated. -/
inductive WindowStyle where
  /-- Title bar and close box. -/
  | document
  /-- Title bar without a close box. -/
  | dialog
  /-- No title bar. -/
  | plain
  /-- No title bar, with a drop shadow. -/
  | shadow
  /-- Title bar and a bold border. -/
  | alert
  deriving DecidableEq, Repr, Inhabited

namespace WindowStyle

/-- Every style, by code. -/
def all : List WindowStyle := [document, dialog, plain, shadow, alert]

/-- The byte that stands for the style. -/
def code : WindowStyle → UInt8
  | document => 0
  | dialog => 1
  | plain => 2
  | shadow => 3
  | alert => 4

/-- The style that a byte stands for. -/
def ofCode? (byte : UInt8) : Option WindowStyle :=
  all.find? (·.code == byte)

/-- The style's name in listings. -/
def inspect : WindowStyle → String
  | document => "Document"
  | dialog => "Dialog"
  | plain => "Plain"
  | shadow => "Shadow"
  | alert => "Alert"

/-- Whether the style has a title bar. -/
def hasTitleBar : WindowStyle → Bool
  | plain | shadow => false
  | document | dialog | alert => true

/-- The flags that every window of the style carries. -/
def impliedFlags : WindowStyle → WindowFlags
  | document => .hasClose
  | dialog | alert => .modal
  | plain | shadow => .none

end WindowStyle

end TwinDesk
