import TwinDesk.Window.Pool

/-!
# Hit tests

What lies under a point. The menu bar band comes first, then the visible windows from the front to
the back, then the desktop. Within the first window whose frame contains the point, the close box
comes first, then the grow box, the title bar and the content; what is left is the border.
-/

namespace TwinDesk

/-- A part of the screen. -/
inductive Part where
  | menuBar
  | desktop
  /-- A title bar or border, by which a window is dragged. -/
  | drag
  | content
  | close
  | grow
  deriving DecidableEq, Repr, Inhabited

/-- The part in messages. -/
def Part.describe : Part → String
  | menuBar => "menu-bar"
  | desktop => "desktop"
  | drag => "drag"
  | content => "content"
  | close => "close"
  | grow => "grow"

/-- What lies under a point. -/
structure Hit where
  part : Part
  /-- The window that the part belongs to; none for the menu bar and the desktop. -/
  window : Option WindowId
  deriving DecidableEq, Repr, Inhabited

/-- The part of a window under a point inside its frame. -/
def Window.partAt (window : Window) (p : Point) : Part :=
  if window.titleBar.contains p && window.closeBox?.any (·.contains p) then .close
  else if window.growBox?.any (·.contains p) then .grow
  else if window.titleBar.contains p then .drag
  else if window.content.contains p then .content
  else .drag

/-- The frontmost visible window whose frame contains a point. -/
def Pool.windowAt? (pool : Pool) (p : Point) : Option Window :=
  pool.frontToBack.find? fun window => window.isVisible && window.frame.contains p

/-- What lies under a point. -/
def Pool.hitTest (pool : Pool) (p : Point) : Hit :=
  if p.y < Layout.menuBarHeight then
    ⟨.menuBar, none⟩
  else
    match pool.windowAt? p with
    | some window => ⟨window.partAt p, some window.id⟩
    | none => ⟨.desktop, none⟩

end TwinDesk
