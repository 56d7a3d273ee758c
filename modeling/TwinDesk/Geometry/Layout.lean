import TwinDesk.Geometry.Rect

/-!
# Screen layout and capacities

The menu bar is a band across the top of the screen, and the desktop with its windows lies below
it. All capacities of the window system are fixed, and so is the size of word memory.
-/

namespace TwinDesk.Layout

/-! ### The screen -/

def screenWidth : Coord := 320
def screenHeight : Coord := 224
def menuBarHeight : Coord := 20

/-- The whole screen. -/
def screen : Rect := ⟨0, 0, screenWidth, screenHeight⟩

/-- The menu bar band. -/
def menuBar : Rect := ⟨0, 0, screenWidth, menuBarHeight⟩

/-- The desktop below the menu bar. -/
def desktop : Rect := ⟨0, menuBarHeight, screenWidth, screenHeight⟩

/-- The middle of the screen, where the pointer starts. -/
def center : Point := ⟨160, 112⟩

/-! ### Decorations and text -/

def borderWidth : Coord := 1
def titleBarHeight : Coord := 18
def closeBoxSize : Coord := 12
def closeBoxInsetX : Coord := 4
def closeBoxInsetY : Coord := 3
def growBoxSize : Coord := 12
def cursorWidth : Coord := 11
def cursorHeight : Coord := 16

/-- The distance from one character cell to the next. -/
def glyphAdvance : Coord := 6

/-- The height of a line of text. -/
def glyphHeight : Coord := 10

/-- The width of `text` in pixels. The character count is taken modulo 2¹⁶ as a coordinate, and
the product saturates. -/
def textWidth (text : String) : Coord :=
  Coord.mulSat (Int16.ofNat text.length) glyphAdvance

/-! ### Capacities -/

/-- How many windows can be open at once. -/
def maxWindows : Nat := 16

/-- How many dirty rectangles are kept apart. -/
def maxDirtyRects : Nat := 32

/-- How many bytes a window title may take. -/
def titleMax : Nat := 31

def maxMenus : Nat := 8
def maxMenuItems : Nat := 16

/-! ### Word memory -/

def wordMemorySize : Nat := 256 * 1024
def bankSize : Nat := 128 * 1024
def mainBankBase : Nat := 0x200000
def subBankBase : Nat := 0x0C0000

/-- The bytes of a row of pixels: two pixels share a byte. -/
def bytesPerRow : Nat := 160

/-- The bytes of a frame. -/
def frameBytes : Nat := 35840

theorem bankSize_add_bankSize : bankSize + bankSize = wordMemorySize := rfl

theorem frameBytes_le_bankSize : frameBytes ≤ bankSize := by decide

theorem bytesPerRow_mul_screenHeight :
    (bytesPerRow : Int) * screenHeight.toInt = frameBytes := by decide

end TwinDesk.Layout
