import TwinDesk.Geometry.Layout
import TwinDesk.Text.Radix

/-!
# Menus and their layout

A menu has a title in the menu bar and a dropdown with its items. The dropdown hangs below the bar,
a little to the left of the title's text. Its items are stacked from top to bottom, with two pixels
of padding above and below them.

The arithmetic is exact: a text too long for the coordinate range is a fault.
-/

namespace TwinDesk

/-! ### Items -/

/-- The flags of a menu item, one per bit. -/
structure ItemFlags where
  bits : UInt8
  deriving DecidableEq, Repr, Inhabited

namespace ItemFlags

def none : ItemFlags := ⟨0⟩

/-- A line between items. -/
def separator : ItemFlags := ⟨0x01⟩

/-- Drawn in gray, and never chosen. -/
def disabled : ItemFlags := ⟨0x02⟩

/-- Drawn with a check mark. -/
def checked : ItemFlags := ⟨0x04⟩

/-- Whether every flag of `other` is set. -/
def contains (flags other : ItemFlags) : Bool :=
  flags.bits &&& other.bits == other.bits

/-- All flags that are set in either. -/
def union (flags other : ItemFlags) : ItemFlags :=
  ⟨flags.bits ||| other.bits⟩

/-- Sets or clears the flags of `other`. -/
def set (flags other : ItemFlags) (on : Bool) : ItemFlags :=
  if on then ⟨flags.bits ||| other.bits⟩ else ⟨flags.bits &&& ~~~other.bits⟩

/-- The flags in listings. -/
def inspect (flags : ItemFlags) : String :=
  s!"ItemFlags({Text.binary 3 flags.bits.toNat})"

end ItemFlags

namespace MenuLayout

/-- Where the text of the first title starts. -/
def firstTitleX : Coord := 10

/-- The width that a title takes beyond its text, and the gap to the next title. -/
def titlePadding : Coord := 8

/-- How far a title's span reaches to the left of its text. -/
def titleInset : Coord := 4

def itemHeight : Coord := 14
def separatorHeight : Coord := 8

/-- The space at the left and the right of a label. -/
def paddingX : Coord := 8

/-- The space above the first and below the last item. -/
def paddingY : Coord := 2

def minWidth : Coord := 80

/-- How far the shadow of a dropdown is moved. -/
def shadow : Coord := 2

/-- The space that a check mark takes. -/
def checkWidth : Coord := 10

end MenuLayout

open MenuLayout

/-- An entry of a dropdown. -/
structure MenuItem where
  text : String
  flags : ItemFlags
  /-- What the choice of the item means to the application. -/
  command : UInt16
  deriving DecidableEq, Repr, Inhabited

namespace MenuItem

def isSeparator (item : MenuItem) : Bool :=
  item.flags.contains .separator

def isChecked (item : MenuItem) : Bool :=
  item.flags.contains .checked

/-- Whether the item can be chosen. -/
def isSelectable (item : MenuItem) : Bool :=
  !item.isSeparator && !item.flags.contains .disabled

/-- The height of the item's row. -/
def height (item : MenuItem) : Coord :=
  if item.isSeparator then separatorHeight else itemHeight

/-- The width that the item asks for: its label, the padding, and the check mark if it has one. -/
def width (item : MenuItem) : Checked Coord := do
  let padded ← Coord.add (Layout.textWidth item.text) 16
  if item.isChecked then Coord.add padded checkWidth else return padded

end MenuItem

/-! ### Menus -/

/-- A menu: its title and its items. -/
structure Menu where
  title : String
  /-- Where the title's text starts. -/
  titleX : Coord
  titleWidth : Coord
  items : List MenuItem
  deriving DecidableEq, Repr, Inhabited

/-- The tops of items stacked from `top` downwards. -/
def MenuItem.tops (top : Coord) : List MenuItem → Checked (List (Coord × MenuItem))
  | [] => return []
  | item :: rest => do
    let next ← Coord.add top item.height
    let tops ← tops next rest
    return (top, item) :: tops

/-- The first item, in a stack of items with their tops, whose row contains `y`. -/
def MenuItem.rowAt (y : Coord) : List (Coord × MenuItem) → Checked (Option Nat)
  | [] => return none
  | (top, item) :: rest => do
    if top ≤ y then
      let bottom ← Coord.add top item.height
      if y < bottom then
        return some 0
    let found ← rowAt y rest
    return found.map (· + 1)

namespace Menu

/-- The span of the title in the menu bar. -/
def titleRect (menu : Menu) : Checked Rect := do
  let left ← Coord.sub menu.titleX titleInset
  let right ← Coord.add menu.titleX menu.titleWidth
  return ⟨left, 0, right, Layout.menuBarHeight⟩

/-- The width of the dropdown: that of the widest item, separators apart. -/
def dropdownWidth (menu : Menu) : Checked Coord :=
  (menu.items.filter (!·.isSeparator)).foldlM
    (fun widest item => do return max widest (← item.width)) minWidth

/-- The height of the dropdown. -/
def dropdownHeight (menu : Menu) : Coord :=
  menu.items.foldl (fun height item => height.addSat item.height) 4

/-- The dropdown, without its shadow. -/
def dropdownRect (menu : Menu) : Checked Rect := do
  let left ← Coord.sub menu.titleX titleInset
  let width ← menu.dropdownWidth
  return .ofOriginSize left Layout.menuBarHeight width menu.dropdownHeight

/-- The items with the tops of their rows. -/
def itemTops (menu : Menu) : Checked (List (Coord × MenuItem)) :=
  MenuItem.tops 22 menu.items

/-- The item whose row contains a point. -/
def itemAt (menu : Menu) (p : Point) : Checked (Option Nat) := do
  let drop ← menu.dropdownRect
  if p.x < drop.left || drop.right ≤ p.x then
    return none
  let tops ← menu.itemTops
  MenuItem.rowAt p.y tops

end Menu

end TwinDesk
