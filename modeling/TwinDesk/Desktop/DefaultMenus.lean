import TwinDesk.Desktop.App
import TwinDesk.Menu.MenuBar

/-!
# The default menus

File, Edit and Apps, added behind whatever menus a bar has. Building stops at the first refusal
and keeps what was added before it.
-/

namespace TwinDesk.MenuBar

/-- A construction of menus, which may be refused halfway. -/
abbrev Builder (α : Type) : Type := ExceptT DesktopError (StateT MenuBar Checked) α

namespace Builder

/-- Adds a menu. -/
def menu (title : String) : Builder Nat :=
  fun bar => bar.addMenu title

/-- Adds an item for a command. -/
def item (menu : Nat) (text : String) (cmd : MenuCommand) (flags : ItemFlags) : Builder Nat :=
  fun bar => return bar.addItem menu text cmd.id flags

/-- Adds a line between items. -/
def separator (menu : Nat) : Builder Nat :=
  fun bar => return bar.addSeparator menu

/-- Adds the default menus. -/
def defaults : Builder Unit := do
  let file ← menu "File"
  discard <| item file "New" .new .none
  discard <| item file "Open" .openFile .none
  discard <| item file "Close" .close .none
  discard <| separator file
  discard <| item file "Quit" .quit .none
  let edit ← menu "Edit"
  discard <| item edit "Undo" .undo .disabled
  discard <| separator edit
  discard <| item edit "Cut" .cut .none
  discard <| item edit "Copy" .copy .none
  discard <| item edit "Paste" .paste .none
  let apps ← menu "Apps"
  for app in App.all do
    discard <| item apps app.name (.launch app) .none

end Builder

/-- Adds the default menus to a bar. -/
def installDefaults (bar : MenuBar) : Checked (Except DesktopError Unit × MenuBar) :=
  Builder.defaults bar

end TwinDesk.MenuBar
