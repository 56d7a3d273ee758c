import TwinDesk.Display.Canvas

/-!
# Drawing on a canvas

How the drawing operations look as pixels: windows with title bar, close box and grow box, the menu
bar, dropdowns and the cursor. A visible character is a solid block.
-/

namespace TwinDesk.Canvas

/-! ### Windows -/

/-- The stripes of an active window's title bar. -/
def stripe (p : Point) : UInt8 :=
  if DesktopPattern.gray50.isSet p.x p.y then Palette.black else Palette.lightGray

/-- Where a text of a given width starts when it is centered in an area. -/
def centered (area : Rect) (width : Coord) : Checked Point := do
  let roomX ← Coord.sub area.width width
  let x ← Coord.add area.left roomX.half
  let roomY ← Coord.sub area.height Layout.glyphHeight
  let y ← Coord.add area.top roomY.half
  return ⟨x, y⟩

/-- The space left white behind the title of an active window. -/
def titlePlate (bar : Rect) (x width : Coord) : Checked Rect := do
  let left ← Coord.sub x 4
  let top ← Coord.add bar.top 1
  let right ← Coord.add (← Coord.add x width) 4
  let bottom ← Coord.sub bar.bottom 1
  return ⟨left, top, right, bottom⟩

/-- Paints the close box. -/
def closeBox (canvas : Canvas) (window : Window) : Checked Canvas :=
  match window.closeBox? with
  | none => return canvas
  | some box => (canvas.fill box Palette.white).outline box Palette.black

/-- Paints the title bar of a window that has one. -/
def titleBar (canvas : Canvas) (window : Window) : Checked Canvas := do
  let bar := window.titleBar
  if bar.isEmpty then
    return canvas
  let width := Layout.textWidth window.title.text
  let corner ← centered bar width
  let canvas ← if window.isActive then
      pure ((canvas.fillWith bar stripe).fill (← titlePlate bar corner.x width) Palette.white)
    else pure (canvas.fill bar Palette.lightGray)
  let canvas ← canvas.text corner window.title.text Palette.black
  let canvas ← canvas.outline bar Palette.black
  let below ← Coord.add bar.bottom 1
  let canvas := canvas.fill ⟨bar.left, bar.bottom, bar.right, below⟩ Palette.black
  canvas.closeBox window

/-- The inner square of a grow box. -/
def growMark (box : Rect) : Checked Rect := do
  let left ← Coord.add box.left 3
  let top ← Coord.add box.top 3
  let right ← Coord.sub box.right 3
  let bottom ← Coord.sub box.bottom 3
  return ⟨left, top, right, bottom⟩

/-- Paints the grow box. -/
def growBox (canvas : Canvas) (window : Window) : Checked Canvas :=
  match window.growBox? with
  | none => return canvas
  | some box => do
    let canvas ← canvas.outline box Palette.black
    canvas.outline (← growMark box) Palette.black

/-- Paints a window with an empty content. -/
def windowFrame (canvas : Canvas) (window : Window) : Checked Canvas := do
  let canvas ← canvas.outline window.frame Palette.black
  let canvas ← canvas.titleBar window
  (canvas.fill window.content Palette.white).growBox window

/-! ### Menus -/

/-- Where the text of the titles starts below the top of the screen. -/
def titleTop : Coord :=
  Coord.half (Layout.menuBarHeight - Layout.glyphHeight)

/-- Paints a title in the menu bar, inverted when its menu is open. -/
def menuTitle (canvas : Canvas) (menu : Menu) (isOpen : Bool) : Checked Canvas := do
  if isOpen then
    let span ← menu.titleRect
    let bottom ← Coord.sub span.bottom 1
    (canvas.fill { span with bottom } Palette.black).text ⟨menu.titleX, titleTop⟩ menu.title Palette.white
  else
    canvas.text ⟨menu.titleX, titleTop⟩ menu.title Palette.black

/-- Paints the menu bar. -/
def menuBar (canvas : Canvas) (menus : MenuBar) : Checked Canvas :=
  let canvas := canvas.fill Layout.menuBar Palette.white
  let canvas := canvas.fill { Layout.menuBar with top := Layout.menuBarHeight - 1 } Palette.black
  menus.menus.zipIdx.foldlM
    (fun canvas (menu, i) => canvas.menuTitle menu (menus.openMenu? == some i)) canvas

/-- The dotted line of a separator. -/
def dots (p : Point) : UInt8 :=
  if p.x &&& 1 == 0 then Palette.black else Palette.white

/-- Paints a separator whose row starts at `top`. -/
def separator (canvas : Canvas) (drop : Rect) (top : Coord) : Checked Canvas := do
  let y ← Coord.add top MenuLayout.separatorHeight.half
  let left ← Coord.add drop.left 1
  let right ← Coord.sub drop.right 1
  let below ← Coord.add y 1
  return canvas.fillWith ⟨left, y, right, below⟩ dots

/-- Paints the background of a highlighted item. -/
def highlight (canvas : Canvas) (drop : Rect) (top : Coord) : Checked Canvas := do
  let left ← Coord.add drop.left 1
  let right ← Coord.sub drop.right 1
  let bottom ← Coord.add top MenuLayout.itemHeight
  return canvas.fill ⟨left, top, right, bottom⟩ Palette.black

/-- Paints the check mark of an item, and returns where its label starts. -/
def checkMark (canvas : Canvas) (x top : Coord) (ink : UInt8) : Checked (Coord × Canvas) := do
  let high ← Coord.add top 5
  let right ← Coord.add x 4
  let low ← Coord.add top 9
  let label ← Coord.add x MenuLayout.checkWidth
  return (label, canvas.fill ⟨x, high, right, low⟩ ink)

/-- Paints an item of a dropdown whose row starts at `top`. -/
def menuItem (canvas : Canvas) (drop : Rect) (top : Coord) (item : MenuItem)
    (highlighted : Bool) : Checked Canvas := do
  if item.isSeparator then
    return ← canvas.separator drop top
  let canvas ← if highlighted then canvas.highlight drop top else pure canvas
  let ink := if highlighted then Palette.white
    else if item.isSelectable then Palette.black
    else Palette.lightGray
  let x ← Coord.add drop.left MenuLayout.paddingX
  let (x, canvas) ← if item.isChecked then canvas.checkMark x top ink else pure (x, canvas)
  let y ← Coord.add top (Coord.half (MenuLayout.itemHeight - Layout.glyphHeight))
  canvas.text ⟨x, y⟩ item.text ink

/-- Paints the open dropdown with its shadow. -/
def dropdown (canvas : Canvas) (menus : MenuBar) : Checked Canvas :=
  match menus.openMenu?.bind (menus.menus[·]?) with
  | none => return canvas
  | some menu => do
    let drop ← menu.dropdownRect
    let canvas := canvas.fill (drop.offset MenuLayout.shadow MenuLayout.shadow) Palette.black
    let canvas ← (canvas.fill drop Palette.white).outline drop Palette.black
    let items ← menu.itemTops
    items.zipIdx.foldlM
      (fun canvas ((top, item), i) =>
        canvas.menuItem drop top item (menus.highlighted? == some i))
      canvas

/-! ### Cursor -/

/-- The cursor, an arrow whose tip is its hot spot: `#` is black, `.` is white, and what is blank
shows the pixels below. -/
def arrow : List String :=
  ["#          ",
   "##         ",
   "#.#        ",
   "#..#       ",
   "#...#      ",
   "#....#     ",
   "#.....#    ",
   "#......#   ",
   "#.......#  ",
   "#........# ",
   "#.....#####",
   "#..#..#    ",
   "#.# #..#   ",
   "##  #..#   ",
   "#    #..#  ",
   "     ###   "]

/-- The color of a character of the arrow; none for a blank. -/
def arrowColor? : Char → Option UInt8
  | '#' => some Palette.black
  | '.' => some Palette.white
  | _ => none

/-- The pixels of the arrow, relative to its tip, with their colors. -/
def arrowPixels : List (Point × UInt8) :=
  arrow.zipIdx.flatMap fun (line, row) =>
    line.toList.zipIdx.filterMap fun (c, column) =>
      (arrowColor? c).map (⟨Int16.ofNat column, Int16.ofNat row⟩, ·)

/-- Paints the cursor. -/
def cursor (canvas : Canvas) (tip : Point) : Canvas :=
  arrowPixels.foldl
    (fun canvas (p, color) => canvas.plot ⟨tip.x.addSat p.x, tip.y.addSat p.y⟩ color) canvas

/-! ### The painter -/

/-- Puts the frame at the beginning of the bytes. Bytes too short for a frame stay as they are. -/
def copyTo (canvas : Canvas) {n : Nat} (bytes : Vector UInt8 n) : Vector UInt8 n :=
  if h : Layout.frameBytes ≤ n then
    replaceFront canvas.frame bytes h
  else
    bytes

instance : Painter Canvas where
  paint canvas
    | .setClip clip => return canvas.setClip clip
    | .resetClip => return canvas.resetClip
    | .fillPattern area pattern => return canvas.fillPattern area pattern
    | .fillRect area shade => return canvas.fill area shade.color
    | .text p text => canvas.text p text Palette.black
    | .windowFrame window => canvas.windowFrame window
    | .menuBar menus => canvas.menuBar menus
    | .dropdown menus => canvas.dropdown menus
    | .cursor p => return canvas.cursor p
  finish canvas _ bytes := (canvas, canvas.copyTo bytes)

end TwinDesk.Canvas
