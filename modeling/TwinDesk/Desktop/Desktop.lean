import TwinDesk.Desktop.DefaultMenus
import TwinDesk.Desktop.Router
import TwinDesk.Desktop.StandIn

/-!
# The desktop

The compositor with the behaviour that the commands of the Main processor and the default menus
expect of it: untitled windows, numbered documents, pointer events and menu commands.
-/

namespace TwinDesk

/-- The desktop shell. -/
structure Desktop where
  compositor : Compositor StandIn
  router : Router
  /-- The number of documents opened so far, modulo 256. -/
  documents : UInt8

namespace Desktop

/-- A desktop without menus. -/
def initial : Desktop := ⟨.initial, .idle, 0⟩

/-- A fresh desktop with the default menus. -/
def fresh : Checked (Except DesktopError Unit × Desktop) := do
  let c : Compositor StandIn := .initial
  let (result, menus) ← c.menus.installDefaults
  return (result, { initial with compositor := { c with menus } })

/-- Opens an untitled window; none when there is no room for it. -/
def openWindow (desktop : Desktop) (frame : Rect) : Option WindowId × Desktop :=
  let (result, compositor) :=
    desktop.compositor.openWindow frame "Untitled" .document .visible
  (result.toOption, { desktop with compositor })

/-- Closes a window, and tells whether there was one. -/
def closeWindow (desktop : Desktop) (id : WindowId) : Bool × Desktop :=
  let (result, compositor) := desktop.compositor.closeWindow id
  (result.isOk, { desktop with compositor, router := desktop.router.forget id })

/-- Moves a window, and tells whether there was one. -/
def moveWindow (desktop : Desktop) (id : WindowId) (x y : Coord) : Bool × Desktop :=
  let (result, windows) := desktop.compositor.windows.moveTo id x y
  (result.isOk, { desktop with compositor.windows := windows })

/-- Where document number `n` opens: the documents are staggered across the desktop. -/
def documentFrame (n : UInt8) : Rect :=
  .ofOriginSize (Int16.ofNat (30 + n.toNat * 12 % 120)) (Int16.ofNat (40 + n.toNat * 10 % 80))
    180 120

/-- Opens the next document: a window with a number, a close box and a grow box. -/
def newDocument (desktop : Desktop) : Except DesktopError WindowId × Desktop :=
  let n := desktop.documents + 1
  let title := s!"Window {Text.decimal 2 (n.toNat % 100)}"
  let (result, compositor) := desktop.compositor.openWindow (documentFrame n) title .document
    (WindowFlags.visible.insert .hasGrow)
  (result, { desktop with compositor, documents := n })

/-- Runs the menu command with a given id; ids that stand for no command do nothing. -/
def menuCommand (desktop : Desktop) (launcher : Launcher) (id : UInt16) : Desktop × Launcher :=
  match MenuCommand.ofId? id with
  | some .new => (desktop.newDocument.2, launcher)
  | some .close =>
    match desktop.compositor.windows.activeId with
    | some active => ((desktop.closeWindow active).2, launcher)
    | none => (desktop, launcher)
  | some (.launch app) =>
    let (launcher, compositor) := launcher.launch app desktop.compositor
    ({ desktop with compositor }, launcher)
  | _ => (desktop, launcher)

/-- Routes a pointer event, and runs the menu command that it chooses. -/
def pointerEvent (desktop : Desktop) (launcher : Launcher) (event : PointerEvent) :
    Checked (Desktop × Launcher) := do
  let (result, router, compositor) ← desktop.router.route desktop.compositor event
  let desktop := { desktop with router, compositor }
  match result with
  | .ok (some selection) => return desktop.menuCommand launcher selection.command
  | .ok none | .error _ => return (desktop, launcher)

end Desktop

end TwinDesk
