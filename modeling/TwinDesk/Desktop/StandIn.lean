import TwinDesk.Compositor
import TwinDesk.Desktop.App

/-!
# Stand-in applications

What the applications of the Apps menu show: Paint is a sketch that leaves a dot wherever the
button is pressed or the pointer dragged, the others show a line of text. `Launcher` opens their
windows.
-/

namespace TwinDesk

/-! ### Sketches -/

/-- Dots on a surface, oldest first, relative to the corner of the content area. -/
structure Sketch where
  dots : List Point
  deriving DecidableEq, Repr, Inhabited

namespace Sketch

/-- How many dots a sketch keeps. -/
def maxDots : Nat := 256

/-- A surface without dots. -/
def blank : Sketch := ⟨[]⟩

/-- Leaves a dot at a point of the content area, while there is room for it. -/
def addDot (sketch : Sketch) (window : Window) (p : Point) : Checked (Sketch × Bool) :=
  if !window.content.contains p || maxDots ≤ sketch.dots.length then
    return (sketch, false)
  else do
    let x ← Coord.sub p.x window.content.left
    let y ← Coord.sub p.y window.content.top
    return (⟨sketch.dots ++ [⟨x, y⟩]⟩, true)

/-- The square that shows a dot of a content area with the given corner. -/
def square (corner dot : Point) : Checked Rect := do
  let x ← Coord.add corner.x dot.x
  let y ← Coord.add corner.y dot.y
  return ⟨← Coord.sub x 1, ← Coord.sub y 1, ← Coord.add x 2, ← Coord.add y 2⟩

instance : WindowContent Sketch where
  draw sketch window := do
    let squares ← sketch.dots.mapM (square window.content.origin)
    return (sketch, squares.map (.fillRect · .black))
  click := addDot
  drag := addDot

end Sketch

/-! ### Captions -/

/-- A line of text in the upper left corner of the content area. -/
structure Caption where
  text : String
  deriving DecidableEq, Repr, Inhabited

instance : WindowContent Caption where
  draw caption window := do
    let x ← Coord.add window.content.left 8
    let y ← Coord.add window.content.top 8
    return (caption, [.text ⟨x, y⟩ caption.text])
  click caption _ _ := return (caption, false)
  drag caption _ _ := return (caption, false)

/-! ### Stand-ins -/

/-- What a stand-in application shows. -/
inductive StandIn where
  | sketch (sketch : Sketch)
  | caption (caption : Caption)
  deriving DecidableEq, Repr, Inhabited

instance : WindowContent StandIn where
  draw
    | .sketch s, window => do
      let (s, ops) ← WindowContent.draw s window
      return (.sketch s, ops)
    | .caption s, window => do
      let (s, ops) ← WindowContent.draw s window
      return (.caption s, ops)
  click
    | .sketch s, window, p => do
      let (s, changed) ← WindowContent.click s window p
      return (.sketch s, changed)
    | .caption s, window, p => do
      let (s, changed) ← WindowContent.click s window p
      return (.caption s, changed)
  drag
    | .sketch s, window, p => do
      let (s, changed) ← WindowContent.drag s window p
      return (.sketch s, changed)
    | .caption s, window, p => do
      let (s, changed) ← WindowContent.drag s window p
      return (.caption s, changed)

/-- What an application shows when it starts. -/
def StandIn.ofApp : App → StandIn
  | .paint => .sketch .blank
  | app => .caption ⟨app.name⟩

/-- What happens when an application is chosen. -/
inductive Launcher where
  /-- Nothing. -/
  | none
  /-- A stand-in opens; the applications started so far are remembered, oldest first. -/
  | standIns (launched : List App)
  deriving DecidableEq, Repr, Inhabited

namespace Launcher

/-- The applications started so far. -/
def launched? : Launcher → Option (List App)
  | none => .none
  | standIns launched => some launched

/-- Starts an application, unless there is no room for its window. -/
def launch (launcher : Launcher) (app : App) (c : Compositor StandIn) :
    Launcher × Compositor StandIn :=
  match launcher with
  | none => (none, c)
  | standIns launched =>
    match c.openWindow app.homeFrame app.name .document .visible with
    | (.error _, c) => (standIns launched, c)
    | (.ok id, c) =>
      match c.attach id (.ofApp app) with
      | (.error _, c) => (standIns launched, c)
      | (.ok (), c) => (standIns (launched ++ [app]), c)

end Launcher

end TwinDesk
