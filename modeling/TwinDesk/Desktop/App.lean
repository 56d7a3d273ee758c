import TwinDesk.Geometry.Rect

/-!
# Applications and menu commands

The applications that the Apps menu offers, and the commands behind the items of the default
menus. A command's id has the number of its menu in the high byte and the number of the item in
the low byte, both counted from 1.
-/

namespace TwinDesk

/-- An application of the Apps menu. -/
inductive App where
  | calculator
  | notepad
  | paint
  deriving DecidableEq, Repr, Inhabited

namespace App

/-- Every application, in menu order. -/
def all : List App := [calculator, notepad, paint]

/-- The menu label and window title. -/
def name : App → String
  | calculator => "Calculator"
  | notepad => "Notepad"
  | paint => "Paint"

/-- Where the application's window opens. -/
def homeFrame : App → Rect
  | calculator => .ofOriginSize 24 34 120 100
  | notepad => .ofOriginSize 60 44 200 140
  | paint => .ofOriginSize 20 30 160 120

end App

/-- A command of the default menus. -/
inductive MenuCommand where
  | new
  | openFile
  | close
  | quit
  | undo
  | cut
  | copy
  | paste
  | launch (app : App)
  deriving DecidableEq, Repr, Inhabited

namespace MenuCommand

/-- Every command, by id. -/
def all : List MenuCommand :=
  [new, openFile, close, quit, undo, cut, copy, paste] ++ App.all.map launch

/-- The id that stands for the command. -/
def id : MenuCommand → UInt16
  | new => 0x0101
  | openFile => 0x0102
  | close => 0x0103
  | quit => 0x0104
  | undo => 0x0201
  | cut => 0x0202
  | copy => 0x0203
  | paste => 0x0204
  | launch .calculator => 0x0301
  | launch .notepad => 0x0302
  | launch .paint => 0x0303

/-- The command that an id stands for. -/
def ofId? (id : UInt16) : Option MenuCommand :=
  all.find? (·.id == id)

/-- The command's name in listings. -/
def inspect : MenuCommand → String
  | new => "New"
  | openFile => "Open"
  | close => "Close"
  | quit => "Quit"
  | undo => "Undo"
  | cut => "Cut"
  | copy => "Copy"
  | paste => "Paste"
  | launch app => s!"Launch({app.name})"

theorem ofId?_id (cmd : MenuCommand) : ofId? cmd.id = some cmd := by
  rcases cmd with _ | _ | _ | _ | _ | _ | _ | _ | app
  all_goals first | rfl | (cases app <;> rfl)

end MenuCommand

end TwinDesk
