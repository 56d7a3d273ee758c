import TwinDesk.Menu.Menu
import TwinDesk.Window.DesktopError

/-!
# The menu bar

The menus in their order, and the state of tracking: while the button is held on a menu, its
dropdown is open and the item under the pointer is highlighted. A release closes the dropdown and
chooses the highlighted item.
-/

namespace TwinDesk

open MenuLayout

/-- An open dropdown. -/
structure Tracking where
  menu : Nat
  /-- The highlighted item. -/
  item : Option Nat
  deriving DecidableEq, Repr, Inhabited

/-- A chosen menu item. -/
structure MenuSelection where
  menu : Nat
  item : Nat
  command : UInt16
  deriving DecidableEq, Repr, Inhabited

/-- The menu bar. -/
structure MenuBar where
  menus : List Menu
  tracking : Option Tracking
  deriving DecidableEq, Repr, Inhabited

namespace MenuBar

/-- A bar without menus. -/
def empty : MenuBar := ⟨[], none⟩

/-! ### Building the bar -/

/-- Where the title of the next menu starts. -/
def nextTitleX (bar : MenuBar) : Checked Coord :=
  match bar.menus.getLast? with
  | none => return firstTitleX
  | some last => do
    let past ← Coord.add last.titleX last.titleWidth
    Coord.add past titlePadding

/-- Adds a menu behind the others, and returns its index. -/
def addMenu (bar : MenuBar) (title : String) : Checked (Except DesktopError Nat × MenuBar) := do
  if Layout.maxMenus ≤ bar.menus.length then
    return (.error .menuFull, bar)
  let titleX ← bar.nextTitleX
  let titleWidth ← Coord.add (Layout.textWidth title) titlePadding
  return (.ok bar.menus.length, { bar with menus := bar.menus ++ [⟨title, titleX, titleWidth, []⟩] })

/-- Adds an item to a menu, and returns its index. -/
def addItem (bar : MenuBar) (menu : Nat) (text : String) (command : UInt16) (flags : ItemFlags) :
    Except DesktopError Nat × MenuBar :=
  match bar.menus[menu]? with
  | none => (.error .noSuchMenu, bar)
  | some found =>
    if Layout.maxMenuItems ≤ found.items.length then
      (.error .itemFull, bar)
    else
      let grown := { found with items := found.items ++ [⟨text, flags, command⟩] }
      (.ok found.items.length, { bar with menus := bar.menus.set menu grown })

/-- Adds a line between items to a menu. -/
def addSeparator (bar : MenuBar) (menu : Nat) : Except DesktopError Nat × MenuBar :=
  bar.addItem menu "" 0 .separator

/-- Changes the flags of an item. -/
def modifyFlags (bar : MenuBar) (menu item : Nat) (f : ItemFlags → ItemFlags) :
    Except DesktopError Unit × MenuBar :=
  match bar.menus[menu]? with
  | none => (.error .noSuchMenu, bar)
  | some found =>
    match found.items[item]? with
    | none => (.error .noSuchItem, bar)
    | some old =>
      let items := found.items.set item { old with flags := f old.flags }
      (.ok (), { bar with menus := bar.menus.set menu { found with items } })

/-- Lets an item be chosen, or grays it out. -/
def setEnabled (bar : MenuBar) (menu item : Nat) (enabled : Bool) :
    Except DesktopError Unit × MenuBar :=
  bar.modifyFlags menu item (·.set .disabled !enabled)

/-- Sets or clears the check mark of an item. -/
def setChecked (bar : MenuBar) (menu item : Nat) (checked : Bool) :
    Except DesktopError Unit × MenuBar :=
  bar.modifyFlags menu item (·.set .checked checked)

/-! ### Tracking -/

/-- The index of the first menu whose title spans `x`. -/
def titleAt (x : Coord) : List Menu → Checked (Option Nat)
  | [] => return none
  | menu :: rest => do
    let span ← menu.titleRect
    if span.left ≤ x && x < span.right then
      return some 0
    let found ← titleAt x rest
    return found.map (· + 1)

/-- Whether a dropdown is open. -/
def isTracking (bar : MenuBar) : Bool :=
  bar.tracking.isSome

/-- The index of the open menu. -/
def openMenu? (bar : MenuBar) : Option Nat :=
  bar.tracking.map (·.menu)

/-- The index of the highlighted item in the open menu. -/
def highlighted? (bar : MenuBar) : Option Nat :=
  bar.tracking.bind (·.item)

/-- The menu with a given index, which must exist. -/
def menuAt (bar : MenuBar) (index : Nat) : Checked Menu :=
  match bar.menus[index]? with
  | some menu => return menu
  | none => throw .index

/-- The screen area of the open dropdown with its shadow. -/
def dropdownArea (bar : MenuBar) : Checked (Option Rect) :=
  match bar.tracking with
  | none => return none
  | some tracking => do
    let menu ← bar.menuAt tracking.menu
    let drop ← menu.dropdownRect
    return some (drop.union (drop.offset shadow shadow))

/-- Closes the dropdown. -/
def close (bar : MenuBar) : MenuBar :=
  { bar with tracking := none }

/-- The button is pressed: opens the menu whose title is under the pointer, and tells whether there
is one. A press below the bar closes the dropdown. -/
def mouseDown (bar : MenuBar) (p : Point) : Checked (Bool × MenuBar) := do
  if Layout.menuBarHeight ≤ p.y then
    return (false, bar.close)
  match ← titleAt p.x bar.menus with
  | some menu => return (true, { bar with tracking := some ⟨menu, none⟩ })
  | none => return (false, bar)

/-- The selectable item of a menu whose row contains a point. -/
def selectableAt (menu : Menu) (p : Point) : Checked (Option Nat) := do
  match ← menu.itemAt p with
  | none => return none
  | some index =>
    match menu.items[index]? with
    | some item => return if item.isSelectable then some index else none
    | none => throw .index

/-- The pointer moves with the button held: another title opens another menu, and the selectable
item under the pointer is highlighted. -/
def mouseMove (bar : MenuBar) (p : Point) : Checked MenuBar := do
  match bar.tracking with
  | none => return bar
  | some tracking =>
    if p.y < Layout.menuBarHeight then
      let found ← titleAt p.x bar.menus
      return { bar with tracking := some ⟨found.getD tracking.menu, none⟩ }
    else
      let menu ← bar.menuAt tracking.menu
      let item ← selectableAt menu p
      return { bar with tracking := some { tracking with item } }

/-- The button is released: closes the dropdown and returns the highlighted item, if it can still
be chosen. -/
def mouseUp (bar : MenuBar) : Checked (Option MenuSelection × MenuBar) := do
  match bar.tracking with
  | none => return (none, bar)
  | some tracking =>
    match tracking.item with
    | none => return (none, bar.close)
    | some index =>
      let menu ← bar.menuAt tracking.menu
      match menu.items[index]? with
      | none => throw .index
      | some item =>
        let selection : MenuSelection := ⟨tracking.menu, index, item.command⟩
        return (if item.isSelectable then some selection else none, bar.close)

end MenuBar

end TwinDesk
