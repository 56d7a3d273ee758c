import TwinDesk.Paint.PaintOp
import TwinDesk.Window.Hit

/-!
# The compositor

Windows with their contents, the menu bar, the cursor and the desktop pattern, and the painting of
all of them. Every operation that changes what should be seen reports the damage it does, and
`Compositor.paint` lists the drawing operations that repair it.

What an application shows inside its window is a *content*: a type with a `WindowContent` instance.
-/

namespace TwinDesk

/-- The application side of a window. Presses and drags tell whether the content has to be painted
again. -/
class WindowContent (P : Type) where
  /-- Paints the content area. -/
  draw : P → Window → Checked (P × List PaintOp)
  /-- The button is pressed in the content area. -/
  click : P → Window → Point → Checked (P × Bool)
  /-- The pointer is dragged while the window is active and not moved. -/
  drag : P → Window → Point → Checked (P × Bool)

/-- What the screen is to show. -/
structure Compositor (P : Type) where
  windows : Pool
  menus : MenuBar
  cursor : Point
  cursorVisible : Bool
  pattern : DesktopPattern
  /-- The contents attached to the windows, by slot. -/
  contents : SlotTable (Option P)

namespace Compositor

variable {P : Type} {α : Type}

/-- An empty desktop, all of which waits to be painted. -/
def initial : Compositor P where
  windows := Pool.empty.invalidate Layout.screen
  menus := .empty
  cursor := Layout.center
  cursorVisible := true
  pattern := .gray50
  contents := .replicate none

/-- Reports damage. -/
def invalidate (c : Compositor P) (rect : Rect) : Compositor P :=
  { c with windows := c.windows.invalidate rect }

/-! ### Windows -/

/-- Opens a window in front of all others. -/
def openWindow (c : Compositor P) (frame : Rect) (title : String) (style : WindowStyle)
    (flags : WindowFlags) : Except DesktopError WindowId × Compositor P :=
  let (result, windows) := c.windows.allocate frame title style flags
  (result, { c with windows })

/-- Closes a window and drops its content. -/
def closeWindow (c : Compositor P) (id : WindowId) : Except DesktopError Unit × Compositor P :=
  match c.windows.free id, id.slot? with
  | (.ok (), windows), some slot =>
    (.ok (), { c with windows, contents := c.contents.set slot none })
  | (result, windows), _ => (result, { c with windows })

/-- The content attached to the slot of an id. -/
def content? (c : Compositor P) (id : WindowId) : Option P :=
  id.slot?.bind fun slot => c.contents.get slot

/-- Attaches a content to a window, in place of any earlier one. -/
def attach (c : Compositor P) (id : WindowId) (content : P) :
    Except DesktopError Unit × Compositor P :=
  match c.windows.find? id with
  | none => (.error .noSuchWindow, c)
  | some (slot, window) =>
    (.ok (), { c with contents := c.contents.set slot (some content) }.invalidate window.frame)

/-- Passes input to the content of a window. Where the content asks for it, the content area is
reported as damaged. -/
def forward (c : Compositor P) (id : WindowId) (input : P → Window → Checked (P × Bool)) :
    Checked (Except DesktopError Bool × Compositor P) :=
  match c.windows.find? id with
  | none => return (.error .noSuchWindow, c)
  | some (slot, window) =>
    match c.contents.get slot with
    | none => return (.ok false, c)
    | some content => do
      let (content, changed) ← input content window
      let c := { c with contents := c.contents.set slot (some content) }
      return (.ok changed, if changed then c.invalidate window.content else c)

/-- The button is pressed in the content of a window. -/
def click [WindowContent P] (c : Compositor P) (id : WindowId) (p : Point) :
    Checked (Except DesktopError Bool × Compositor P) :=
  c.forward id fun content window => WindowContent.click content window p

/-- The pointer is dragged over the content of a window. -/
def drag [WindowContent P] (c : Compositor P) (id : WindowId) (p : Point) :
    Checked (Except DesktopError Bool × Compositor P) :=
  c.forward id fun content window => WindowContent.drag content window p

/-! ### Cursor and desktop -/

/-- The area of the cursor at a point. -/
def cursorRect (p : Point) : Rect :=
  .ofOriginSize p.x p.y Layout.cursorWidth Layout.cursorHeight

/-- Moves the cursor. -/
def moveCursor (c : Compositor P) (p : Point) : Compositor P :=
  ({ c with cursor := p }.invalidate (cursorRect c.cursor)).invalidate (cursorRect p)

/-- Shows or hides the cursor. -/
def setCursorVisible (c : Compositor P) (visible : Bool) : Compositor P :=
  if c.cursorVisible = visible then c
  else { c with cursorVisible := visible }.invalidate (cursorRect c.cursor)

/-- Changes the desktop pattern. -/
def setPattern (c : Compositor P) (pattern : DesktopPattern) : Compositor P :=
  if pattern = c.pattern then c
  else { c with pattern }.invalidate Layout.desktop

/-! ### Menus -/

/-- Makes a tracking step, and reports the dropdown before and after it and the menu bar as
damaged. -/
def trackMenu (c : Compositor P) (step : MenuBar → Checked (α × MenuBar)) :
    Checked (α × Compositor P) := do
  let before ← c.menus.dropdownArea
  let (result, menus) ← step c.menus
  let after ← menus.dropdownArea
  let damage := [before, after].reduceOption.foldl Damage.invalidate c.windows.damage
  return (result, { c with menus, windows.damage := damage.invalidateMenuBar })

/-- The button is pressed in the menu bar; tells whether that opens a menu. -/
def menuMouseDown (c : Compositor P) (p : Point) : Checked (Bool × Compositor P) :=
  c.trackMenu (·.mouseDown p)

/-- The pointer moves while a menu is open. -/
def menuMouseMove (c : Compositor P) (p : Point) : Checked (Compositor P) := do
  let (_, c) ← c.trackMenu fun bar => do return ((), ← bar.mouseMove p)
  return c

/-- The button is released while a menu is open; returns what is chosen. -/
def menuMouseUp (c : Compositor P) : Checked (Option MenuSelection × Compositor P) :=
  c.trackMenu (·.mouseUp)

/-! ### Painting -/

/-- The number of rectangles that wait to be painted. -/
def pendingDamage (c : Compositor P) : Nat :=
  c.windows.damage.rects.length

/-- Draws the content of a window, if it has one. -/
def drawContent [WindowContent P] (contents : SlotTable (Option P))
    (window : Window) : Checked (List PaintOp × SlotTable (Option P)) :=
  match window.id.slot? with
  | none => return ([], contents)
  | some slot =>
    match contents.get slot with
    | none => return ([], contents)
    | some content => do
      let (content, ops) ← WindowContent.draw content window
      return (ops, contents.set slot (some content))

/-- Draws the windows that meet a rectangle, in the given order. -/
def drawWindows [WindowContent P] (clip : Rect) : List Window →
    SlotTable (Option P) →
    Checked (List PaintOp × SlotTable (Option P))
  | [], contents => return ([], contents)
  | window :: rest, contents =>
    if window.isVisible && window.frame.intersects clip then do
      let (inside, contents) ← drawContent contents window
      let (ops, contents) ← drawWindows clip rest contents
      return (.windowFrame window :: inside ++ ops, contents)
    else
      drawWindows clip rest contents

/-- Repairs rectangles one after the other: first the desktop, then the windows from the back to the
front, so that nearer windows cover farther ones. -/
def drawRects [WindowContent P] (pattern : DesktopPattern) (windows : List Window) :
    List Rect → SlotTable (Option P) →
    Checked (List PaintOp × SlotTable (Option P))
  | [], contents => return ([], contents)
  | clip :: rest, contents => do
    let (inside, contents) ← drawWindows clip windows contents
    let (ops, contents) ← drawRects pattern windows rest contents
    return (.setClip clip :: .fillPattern clip pattern :: inside ++ ops, contents)

/-- What lies over all windows: menu bar, open dropdown and cursor. -/
def overlays (c : Compositor P) : List PaintOp :=
  [.resetClip, .menuBar c.menus] ++
    (if c.menus.isTracking then [.dropdown c.menus] else []) ++
    (if c.cursorVisible then [.cursor c.cursor] else [])

/-- Lists the operations that paint a frame, and uses the damage up. -/
def paint [WindowContent P] (c : Compositor P) : Checked (List PaintOp × Compositor P) := do
  let (ops, contents) ←
    drawRects c.pattern c.windows.backToFront c.windows.damage.rects c.contents
  return (ops ++ c.overlays, { c with contents, windows := c.windows.endUpdate })

end Compositor

end TwinDesk
