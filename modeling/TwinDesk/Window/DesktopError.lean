import TwinDesk.Geometry.Layout

/-!
# Errors of window and menu operations
-/

namespace TwinDesk

/-- Why an operation on windows or menus was refused. -/
inductive DesktopError where
  /-- Every slot holds a window. -/
  | poolExhausted
  /-- No open window has the given id. -/
  | noSuchWindow
  /-- The menu bar is full. -/
  | menuFull
  /-- The menu is full. -/
  | itemFull
  | noSuchMenu
  | noSuchItem
  deriving DecidableEq, Repr, Inhabited

namespace DesktopError

/-- Every error. -/
def all : List DesktopError :=
  [poolExhausted, noSuchWindow, menuFull, itemFull, noSuchMenu, noSuchItem]

/-- The error in words. -/
def message : DesktopError → String
  | poolExhausted => s!"all {Layout.maxWindows} window slots in use"
  | noSuchWindow => "no such window"
  | menuFull => s!"menu bar holds {Layout.maxMenus} menus already"
  | itemFull => s!"menu holds {Layout.maxMenuItems} items already"
  | noSuchMenu => "no such menu"
  | noSuchItem => "no such menu item"

theorem mem_all (error : DesktopError) : error ∈ all := by
  cases error <;> decide

end DesktopError

end TwinDesk
