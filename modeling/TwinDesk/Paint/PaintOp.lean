import TwinDesk.Menu.MenuBar
import TwinDesk.Window.Basic

/-!
# Drawing operations

The window system decides what is painted and in which order; how it becomes pixels is left to a
painter. In between stands a list of drawing operations. All of them paint inside the clip of the
last `setClip`.

* `DesktopPattern.isSet_gray50` — the checkerboard sets a pixel when its coordinates differ in
  parity.
-/

namespace TwinDesk

/-- How the desktop is filled. -/
inductive DesktopPattern where
  | white
  /-- A checkerboard. -/
  | gray50
  /-- A sparse checkerboard. -/
  | gray25
  deriving DecidableEq, Repr, Inhabited

namespace DesktopPattern

/-- The pattern with a given number. -/
def ofCode? : UInt8 → Option DesktopPattern
  | 0 => some white
  | 1 => some gray50
  | 2 => some gray25
  | _ => none

/-- Whether the pattern sets a pixel. -/
def isSet (pattern : DesktopPattern) (x y : Coord) : Bool :=
  match pattern with
  | white => false
  | gray50 => (x ^^^ y) &&& 1 == 1
  | gray25 => x &&& 1 == 0 && y &&& 1 == 0

/-- The pattern's name in listings. -/
def inspect : DesktopPattern → String
  | white => "White"
  | gray50 => "Gray50"
  | gray25 => "Gray25"

/-- The pattern in messages. -/
def describe : DesktopPattern → String
  | white => "white"
  | gray50 => "gray-50"
  | gray25 => "gray-25"

end DesktopPattern

/-- A gray level. -/
inductive Shade where
  | white
  | light
  | dark
  | black
  deriving DecidableEq, Repr, Inhabited

namespace Shade

/-- The shade with a given number. -/
def ofCode? : Nat → Option Shade
  | 0 => some white
  | 1 => some light
  | 2 => some dark
  | 3 => some black
  | _ => none

/-- The shade's name in listings. -/
def inspect : Shade → String
  | white => "White"
  | light => "Light"
  | dark => "Dark"
  | black => "Black"

end Shade

/-- One drawing operation. -/
inductive PaintOp where
  /-- Restricts painting to a rectangle. -/
  | setClip (clip : Rect)
  /-- Lifts the restriction. -/
  | resetClip
  | fillPattern (area : Rect) (pattern : DesktopPattern)
  | fillRect (area : Rect) (shade : Shade)
  /-- Draws text with its top left corner at a point. -/
  | text (position : Point) (text : String)
  /-- Paints the border, the title bar and the boxes of a window. -/
  | windowFrame (window : Window)
  | menuBar (menus : MenuBar)
  /-- Paints the open dropdown. -/
  | dropdown (menus : MenuBar)
  /-- Paints the cursor with its hot spot at a point. -/
  | cursor (position : Point)
  deriving DecidableEq, Repr

/-- Something that turns drawing operations into a frame. -/
class Painter (R : Type) where
  /-- Carries out one operation. -/
  paint : R → PaintOp → Checked R
  /-- Puts the finished frame into the bytes that are to be published. -/
  finish : R → {n : Nat} → Vector UInt8 n → R × Vector UInt8 n

/-- Carries out a list of operations. -/
def Painter.paintAll {R : Type} [Painter R] (painter : R) (ops : List PaintOp) : Checked R :=
  ops.foldlM paint painter

end TwinDesk
