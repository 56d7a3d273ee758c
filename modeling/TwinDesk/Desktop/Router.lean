import TwinDesk.Compositor
import TwinDesk.Input.PointerEvent

/-!
# Pointer routing

Where pointer events go. Every event moves the cursor; beyond that it depends on its kind.

| Kind | Effect |
|------|--------|
| down | what lies under the pointer: content is clicked, a title bar or border grabbed, a close box closes its window, the menu bar opens a menu |
| move | the open menu follows the pointer |
| drag | the open menu follows, else the grabbed window, else the content of the active window |
| up | the open menu chooses an item, and a grabbed window is let go |
-/

namespace TwinDesk

/-- A window that follows the pointer. -/
structure Grab where
  window : WindowId
  /-- Where the pointer took hold, relative to the corner of the frame. -/
  offset : Point
  deriving DecidableEq, Repr, Inhabited

/-- What routing remembers from one event to the next. -/
structure Router where
  grab : Option Grab
  deriving DecidableEq, Repr, Inhabited

namespace Router

variable {P : Type}

/-- A router that holds no window. -/
def idle : Router := ⟨none⟩

/-- The window that is dragged. -/
def dragging? (router : Router) : Option WindowId :=
  router.grab.map (·.window)

/-- Lets go of a window that is about to close. -/
def forget (router : Router) (window : WindowId) : Router :=
  if router.dragging? = some window then idle else router

/-- What routing an event answers, and what it leaves behind. -/
abbrev Outcome (P α : Type) : Type := Except DesktopError α × Router × Compositor P

/-- Applies an operation on windows. -/
def onWindows {α : Type} (router : Router) (c : Compositor P)
    (operation : Pool → Except DesktopError α × Pool) : Outcome P α :=
  let (result, windows) := operation c.windows
  (result, router, { c with windows })

/-- The content of a window is clicked. -/
def pressContent [WindowContent P] (router : Router) (c : Compositor P) (id : WindowId)
    (p : Point) : Checked (Outcome P Unit) := do
  match router.onWindows c (·.select id) with
  | (.error e, router, c) => return (.error e, router, c)
  | (.ok (), router, c) =>
    let (clicked, c) ← c.click id p
    return (clicked.map fun _ => (), router, c)

/-- A title bar or border is grabbed. -/
def pressFrame (router : Router) (c : Compositor P) (id : WindowId) (p : Point) :
    Outcome P Unit :=
  match router.onWindows c (·.select id) with
  | (.error e, router, c) => (.error e, router, c)
  | (.ok (), router, c) =>
    match c.windows.get? id with
    | none => (.error .noSuchWindow, router, c)
    | some window =>
      let offset : Point := ⟨p.x.subSat window.frame.left, p.y.subSat window.frame.top⟩
      (.ok (), ⟨some ⟨id, offset⟩⟩, c)

/-- A close box is pressed. -/
def pressClose (router : Router) (c : Compositor P) (id : WindowId) : Outcome P Unit :=
  let (result, c) := c.closeWindow id
  (result, router.forget id, c)

/-- The button is pressed. -/
def press [WindowContent P] (router : Router) (c : Compositor P) (p : Point) :
    Checked (Outcome P Unit) := do
  match c.windows.hitTest p with
  | ⟨.content, some id⟩ => router.pressContent c id p
  | ⟨.drag, some id⟩ => return router.pressFrame c id p
  | ⟨.close, some id⟩ => return router.pressClose c id
  | ⟨.menuBar, _⟩ =>
    let (_, c) ← c.menuMouseDown p
    return (.ok (), router, c)
  | _ => return (.ok (), router, c)

/-- The pointer is dragged. -/
def drag [WindowContent P] (router : Router) (c : Compositor P) (p : Point) :
    Checked (Outcome P Unit) := do
  if c.menus.isTracking then
    return (.ok (), router, ← c.menuMouseMove p)
  match router.grab with
  | some grab =>
    let x := p.x.subSat grab.offset.x
    let y := max (p.y.subSat grab.offset.y) Layout.menuBarHeight
    match router.onWindows c (·.moveTo grab.window x y) with
    | (.error e, _, c) => return (.error e, idle, c)
    | (.ok (), router, c) => return (.ok (), router, c)
  | none =>
    match c.windows.activeId with
    | none => return (.ok (), router, c)
    | some active =>
      let (dragged, c) ← c.drag active p
      return (dragged.map fun _ => (), router, c)

/-- Routes an event. A release may choose a menu item, which is left to the caller. -/
def route [WindowContent P] (router : Router) (c : Compositor P) (event : PointerEvent) :
    Checked (Outcome P (Option MenuSelection)) := do
  let c := c.moveCursor event.pos
  match event.kind with
  | .none => return (.ok none, router, c)
  | .down =>
    let (result, router, c) ← router.press c event.pos
    return (result.map fun _ => none, router, c)
  | .move =>
    if c.menus.isTracking then
      return (.ok none, router, ← c.menuMouseMove event.pos)
    else
      return (.ok none, router, c)
  | .drag =>
    let (result, router, c) ← router.drag c event.pos
    return (result.map fun _ => none, router, c)
  | .up =>
    if c.menus.isTracking then
      let (selection, c) ← c.menuMouseUp
      return (.ok selection, idle, c)
    else
      return (.ok none, idle, c)

end Router

end TwinDesk
