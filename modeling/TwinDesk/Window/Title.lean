import TwinDesk.Geometry.Layout

/-!
# Window titles

A title is kept as UTF-8 in a buffer of 31 bytes. Where a text is longer, the place to cut it at is
searched backwards from the end of the buffer, byte by byte, until no character lies across it.

* `Title.cut`, `Title.ofText` — the place where a text is cut, and the title made of it.
* `Title.text` — the title as a text again.
-/

namespace TwinDesk

/-- A window title: a buffer, and how many of its bytes are in use. The others are zero. -/
structure Title where
  bytes : Vector UInt8 Layout.titleMax
  used : Fin (Layout.titleMax + 1)
  deriving DecidableEq, Repr, Inhabited

namespace Title

/-! ### Cutting -/

/-- Whether a byte is the first one of a character. The others have the form `10xxxxxx`. -/
def startsChar (byte : UInt8) : Bool :=
  byte < 0x80 || 0xC0 ≤ byte

/-- Whether a text can be cut before the byte `i`: at its ends, and where a character starts. -/
def isBoundary (text : ByteArray) (i : Nat) : Bool :=
  if i = 0 then true
  else if h : i < text.size then startsChar text[i]
  else i == text.size

/-- The last boundary that is not behind the byte `i`. -/
def lastBoundary (text : ByteArray) : Nat → Nat
  | 0 => 0
  | i + 1 => if isBoundary text (i + 1) then i + 1 else lastBoundary text i

theorem lastBoundary_le (text : ByteArray) (i : Nat) : lastBoundary text i ≤ i := by
  induction i with
  | zero => exact Nat.le_refl 0
  | succ i ih =>
    unfold lastBoundary
    split
    · exact Nat.le_refl _
    · exact Nat.le_succ_of_le ih

/-- How many bytes of a text are kept. -/
def cut (text : String) : Nat :=
  lastBoundary text.toUTF8 (min text.utf8ByteSize Layout.titleMax)

theorem cut_le (text : String) : cut text ≤ text.utf8ByteSize ∧ cut text ≤ Layout.titleMax :=
  Nat.le_min.mp (lastBoundary_le _ _)

/-! ### Titles -/

/-- The title without text. -/
def empty : Title := ⟨.replicate _ 0, 0⟩

/-- The title made of `text`. -/
def ofText (text : String) : Title :=
  let kept := text.toUTF8.extract 0 (cut text)
  { bytes := .ofFn fun i => kept.data.getD i 0
    used := ⟨cut text, Nat.lt_succ_of_le (cut_le text).2⟩ }

/-- The bytes in use. -/
def utf8 (title : Title) : ByteArray :=
  ⟨title.bytes.toArray.extract 0 title.used⟩

/-- The title as a text; bytes that are not UTF-8 would read as no text at all. -/
def text (title : Title) : String :=
  (String.fromUTF8? title.utf8).getD ""

/-- The length of the title in bytes. -/
def size (title : Title) : Nat :=
  title.used

/-- Whether the title has no text. -/
def isEmpty (title : Title) : Bool :=
  title.size == 0

end Title

end TwinDesk
