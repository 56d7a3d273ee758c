import TwinDesk.Paint.PaintOp

/-!
# Frames

A frame is what the screen shows: 224 rows of 320 pixels, from top to bottom, and two pixels to a
byte, the left one in the high half. A pixel is one of sixteen colors.

* `pixel_setPixel`, `pixel_setPixel_other` — setting one pixel of a byte changes that pixel and
  leaves the other one alone.
-/

namespace TwinDesk

/-! ### Colors -/

namespace Palette

def black : UInt8 := 0
def lightGray : UInt8 := 7
def darkGray : UInt8 := 8
def white : UInt8 := 15

end Palette

/-- The color that shows a shade. -/
def Shade.color : Shade → UInt8
  | white => Palette.white
  | light => Palette.lightGray
  | dark => Palette.darkGray
  | black => Palette.black

/-! ### Two pixels to a byte -/

/-- A pixel of a byte: the right one or the left one. -/
def pixelOf (byte : UInt8) : Bool → UInt8
  | true => byte &&& 0x0F
  | false => byte >>> 4

/-- Gives a pixel of a byte another color. -/
def setPixel (byte : UInt8) (right : Bool) (color : UInt8) : UInt8 :=
  match right with
  | true => (byte &&& 0xF0) ||| (color &&& 0x0F)
  | false => (byte &&& 0x0F) ||| (color <<< (4 : UInt8))

theorem eq_of_lt_eight {i : Nat} (h : i < 8) :
    i = 0 ∨ i = 1 ∨ i = 2 ∨ i = 3 ∨ i = 4 ∨ i = 5 ∨ i = 6 ∨ i = 7 := by
  omega

/-- A pixel has the low half of the color that it is given. -/
theorem pixel_setPixel (byte color : UInt8) (right : Bool) :
    pixelOf (setPixel byte right color) right = color &&& 0x0F := by
  apply UInt8.eq_of_toBitVec_eq
  ext i hi
  rcases eq_of_lt_eight hi with rfl | rfl | rfl | rfl | rfl | rfl | rfl | rfl <;> cases right <;>
    simp [pixelOf, setPixel]

theorem pixel_setPixel_other (byte color : UInt8) (right : Bool) :
    pixelOf (setPixel byte (!right) color) right = pixelOf byte right := by
  apply UInt8.eq_of_toBitVec_eq
  ext i hi
  rcases eq_of_lt_eight hi with rfl | rfl | rfl | rfl | rfl | rfl | rfl | rfl <;> cases right <;>
    simp [pixelOf, setPixel]

/-! ### Frames -/

/-- The bytes with `front` in place of their beginning. -/
def replaceFront {m n : Nat} (front : Vector UInt8 m) (bytes : Vector UInt8 n) (h : m ≤ n) :
    Vector UInt8 n :=
  (front ++ bytes.drop m).cast (Nat.add_sub_of_le h)

/-- The bytes of a frame. -/
abbrev Frame : Type := Vector UInt8 Layout.frameBytes

namespace Frame

/-- A white frame. -/
def white : Frame :=
  Vector.replicate _ 0xFF

/-- Which byte holds a pixel of the screen. -/
def byteIndex (p : Point) : Nat :=
  p.y.toNatClampNeg * Layout.bytesPerRow + p.x.toNatClampNeg / 2

/-- Whether a pixel is the right one of its byte. -/
def isRight (p : Point) : Bool :=
  p.x &&& 1 != 0

/-- The color of a pixel, in bytes that begin with a frame; none off the screen or past the end of
the bytes. -/
def pixel? (bytes : Array UInt8) (p : Point) : Option UInt8 :=
  if Layout.screen.contains p then
    bytes[byteIndex p]?.map fun byte => pixelOf byte (isRight p)
  else
    none

/-- The number of pixels in a byte that are not white. -/
def byteInk (byte : UInt8) : Nat :=
  (if pixelOf byte false = Palette.white then 0 else 1) +
    (if pixelOf byte true = Palette.white then 0 else 1)

/-- The number of pixels that are not white. -/
def ink (frame : Frame) : Nat :=
  frame.foldl (fun n byte => n + byteInk byte) 0

end Frame

end TwinDesk
