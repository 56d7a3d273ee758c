import TwinDesk.Display.Frame
import TwinDesk.Text.Blank

/-!
# The canvas

A frame to paint on, and the clip that painting is restricted to. The clip always lies within the
screen.

Painting of single areas never fails; the functions that compute the edges of what they paint do so
in exact arithmetic.
-/

namespace TwinDesk

/-- The coordinates from `low` up to but not including `high`. -/
def Coord.span (low high : Coord) : List Coord :=
  (List.range (high.toInt - low.toInt).toNat).map fun (i : Nat) => Int16.ofInt (low.toInt + i)

/-- A frame to paint on. -/
structure Canvas where
  frame : Frame
  clip : Rect

namespace Canvas

/-- A white canvas without a restriction. -/
def blank : Canvas := ⟨.white, Layout.screen⟩

/-- Restricts painting to the part of a rectangle that is on the screen. -/
def setClip (canvas : Canvas) (clip : Rect) : Canvas :=
  { canvas with clip := clip.clipTo Layout.screen }

/-- Lifts the restriction. -/
def resetClip (canvas : Canvas) : Canvas :=
  { canvas with clip := Layout.screen }

/-- The color of a pixel. -/
def pixel? (canvas : Canvas) (p : Point) : Option UInt8 :=
  Frame.pixel? canvas.frame.toArray p

/-! ### Areas -/

/-- Paints one pixel, if it lies in the clip. -/
def plot (canvas : Canvas) (p : Point) (color : UInt8) : Canvas :=
  if canvas.clip.contains p then
    let i := Frame.byteIndex p
    if h : i < Layout.frameBytes then
      { canvas with
        frame := canvas.frame.set i (setPixel canvas.frame[i] (Frame.isRight p) color) }
    else
      canvas
  else
    canvas

/-- Paints part of a row, each pixel in the color that `paint` picks for it. -/
def fillRow (canvas : Canvas) (y : Coord) (xs : List Coord) (paint : Point → UInt8) : Canvas :=
  xs.foldl (fun canvas x => canvas.plot ⟨x, y⟩ (paint ⟨x, y⟩)) canvas

/-- Paints every pixel of an area in the color that `paint` picks for it. -/
def fillWith (canvas : Canvas) (area : Rect) (paint : Point → UInt8) : Canvas :=
  let area := area.intersection canvas.clip
  if area.isEmpty then
    canvas
  else
    let xs := Coord.span area.left area.right
    (Coord.span area.top area.bottom).foldl (fun canvas y => canvas.fillRow y xs paint) canvas

/-- Paints an area in one color. -/
def fill (canvas : Canvas) (area : Rect) (color : UInt8) : Canvas :=
  canvas.fillWith area fun _ => color

/-- Paints an area in a pattern of black and white. -/
def fillPattern (canvas : Canvas) (area : Rect) (pattern : DesktopPattern) : Canvas :=
  canvas.fillWith area fun p => if pattern.isSet p.x p.y then Palette.black else Palette.white

/-! ### Outlines and text -/

/-- Paints a line of one pixel along the inside of an area. -/
def outline (canvas : Canvas) (area : Rect) (color : UInt8) : Checked Canvas := do
  if area.isEmpty then
    return canvas
  let canvas := canvas.fill { area with bottom := ← Coord.add area.top 1 } color
  let canvas := canvas.fill { area with top := ← Coord.sub area.bottom 1 } color
  let canvas := canvas.fill { area with right := ← Coord.add area.left 1 } color
  return canvas.fill { area with left := ← Coord.sub area.right 1 } color

/-- The block that stands for a visible character whose cell has the given corner. -/
def glyph (corner : Point) : Checked Rect := do
  let top ← Coord.add corner.y 1
  let right ← Coord.sub (← Coord.add corner.x Layout.glyphAdvance) 1
  let bottom ← Coord.sub (← Coord.add corner.y Layout.glyphHeight) 2
  return ⟨corner.x, top, right, bottom⟩

/-- Paints characters side by side. Blank ones leave their cell as it is. -/
def textFrom (color : UInt8) (corner : Point) : List Char → Canvas → Checked Canvas
  | [], canvas => return canvas
  | c :: rest, canvas => do
    let canvas ← if Text.isBlank c then pure canvas
      else pure (canvas.fill (← glyph corner) color)
    textFrom color { corner with x := corner.x.addSat Layout.glyphAdvance } rest canvas

/-- Paints text with its top left corner at a point. -/
def text (canvas : Canvas) (corner : Point) (text : String) (color : UInt8) : Checked Canvas :=
  textFrom color corner text.toList canvas

end Canvas

end TwinDesk
