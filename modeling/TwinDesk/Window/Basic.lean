import TwinDesk.Protocol.WindowId
import TwinDesk.Window.Flags
import TwinDesk.Window.Title

/-!
# Windows

A window has a frame on the screen, and the places of its parts follow from frame and style:

* the border, one pixel along the inside of the frame;
* the title bar, 18 pixels below the top border, unless the style has none;
* the content, one pixel below the title bar and inside the border;
* the close box at the left of the title bar, and the grow box in the lower right corner, where the
  flags ask for them.

The parts are stored with the window, and `Window.withFrame` is the only way to change a frame.
-/

namespace TwinDesk

/-- The frame without its border. -/
def Rect.inset (frame : Rect) : Rect :=
  ⟨frame.left.addSat Layout.borderWidth, frame.top.addSat Layout.borderWidth,
    frame.right.subSat Layout.borderWidth, frame.bottom.subSat Layout.borderWidth⟩

/-- The places of title bar and content in a frame. -/
structure Decoration where
  titleBar : Rect
  content : Rect
  deriving DecidableEq, Repr, Inhabited

/-- The decoration of a frame. A frame too small for it has empty parts. -/
def Decoration.ofFrame (frame : Rect) (style : WindowStyle) : Decoration :=
  let inner := frame.inset
  if style.hasTitleBar then
    let barBottom := min (inner.top.addSat Layout.titleBarHeight) inner.bottom
    { titleBar := ⟨inner.left, inner.top, inner.right, barBottom⟩
      content := ⟨inner.left, barBottom.addSat 1, inner.right, inner.bottom⟩ }
  else
    { titleBar := .empty, content := inner }

/-- A window on the screen. -/
structure Window where
  id : WindowId
  style : WindowStyle
  flags : WindowFlags
  /-- The outer edges, border included; always within the screen. -/
  frame : Rect
  decoration : Decoration
  title : Title
  deriving DecidableEq, Repr, Inhabited

namespace Window

/-- The window with another frame, which is clipped to the screen; the parts follow. -/
def withFrame (window : Window) (frame : Rect) : Window :=
  let frame := frame.clipTo Layout.screen
  { window with frame, decoration := .ofFrame frame window.style }

/-- A new window. Its style adds the flags that it implies. -/
def create (id : WindowId) (frame : Rect) (title : String) (style : WindowStyle)
    (flags : WindowFlags) : Window :=
  Window.withFrame
    { id, style, flags := flags.insert style.impliedFlags, frame := .empty,
      decoration := ⟨.empty, .empty⟩, title := .ofText title }
    frame

/-- The title bar, empty for styles without one. -/
def titleBar (window : Window) : Rect :=
  window.decoration.titleBar

/-- The area that belongs to the application. -/
def content (window : Window) : Rect :=
  window.decoration.content

def isVisible (window : Window) : Bool :=
  window.flags.contains .visible

/-- Whether the window is highlighted as the active one. -/
def isActive (window : Window) : Bool :=
  window.flags.contains .highlighted

/-- The close box, cut to the title bar on narrow windows. -/
def closeBox? (window : Window) : Option Rect :=
  if window.flags.contains .hasClose && window.style.hasTitleBar then
    let bar := window.titleBar
    let box := Rect.ofOriginSize (bar.left.addSat Layout.closeBoxInsetX)
      (bar.top.addSat Layout.closeBoxInsetY) Layout.closeBoxSize Layout.closeBoxSize
    some (box.intersection bar)
  else
    none

/-- The grow box, in the corner inside the border. -/
def growBox? (window : Window) : Option Rect :=
  if window.flags.contains .hasGrow then
    let inner := window.frame.inset
    let box : Rect := ⟨inner.right.subSat Layout.growBoxSize,
      inner.bottom.subSat Layout.growBoxSize, inner.right, inner.bottom⟩
    some (box.intersection inner)
  else
    none

theorem frame_withFrame (window : Window) (frame : Rect) :
    (window.withFrame frame).frame = frame.clipTo Layout.screen := rfl

theorem decoration_withFrame (window : Window) (frame : Rect) :
    (window.withFrame frame).decoration =
      .ofFrame (window.withFrame frame).frame (window.withFrame frame).style := rfl

end Window

end TwinDesk
