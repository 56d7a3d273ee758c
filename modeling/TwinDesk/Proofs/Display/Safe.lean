import TwinDesk.Display.Drawing
import TwinDesk.Proofs.Compositor.Sound

/-!
# Painting never faults

The exact arithmetic behind outlines, texts, windows and menus stays in range wherever the things
that are painted are sound.

* `Canvas.windowFrame_yields`, `Canvas.dropdown_yields` — windows and dropdowns.
* `Canvas.paintAll_yields` — painting sound operations succeeds, on every canvas.
-/

namespace TwinDesk

namespace Canvas

variable (canvas : Canvas)

/-! ## Outlines and text -/

theorem outline_yields {area : Rect} (h : area.Within 30000) (color : UInt8) :
    Succeeds (canvas.outline area color) := by
  obtain ⟨left, top, right, bottom⟩ := h
  unfold Coord.Within at left top right bottom
  have one : (1 : Coord).toInt = 1 := rfl
  unfold outline
  split
  · exact .pure trivial
  · refine (Coord.add_yields (by omega) (by omega)).bind fun _ _ => ?_
    refine (Coord.sub_yields (by omega) (by omega)).bind fun _ _ => ?_
    refine (Coord.add_yields (by omega) (by omega)).bind fun _ _ => ?_
    refine (Coord.sub_yields (by omega) (by omega)).bind fun _ _ => ?_
    exact .pure trivial

theorem glyph_yields {corner : Point} (x : -30000 ≤ corner.x.toInt ∧ corner.x.toInt ≤ 32000)
    (y : corner.y.Within 30000) : Succeeds (glyph corner) := by
  unfold Coord.Within at y
  have one : (1 : Coord).toInt = 1 := rfl
  have two : (2 : Coord).toInt = 2 := rfl
  have advance : Layout.glyphAdvance.toInt = 6 := rfl
  have height : Layout.glyphHeight.toInt = 10 := rfl
  refine (Coord.add_yields (by omega) (by omega)).bind fun _ _ => ?_
  refine (Coord.add_yields (by omega) (by omega)).bind fun _ _ => ?_
  refine (Coord.sub_yields (by omega) (by omega)).bind fun _ _ => ?_
  refine (Coord.add_yields (by omega) (by omega)).bind fun _ _ => ?_
  refine (Coord.sub_yields (by omega) (by omega)).bind fun _ _ => ?_
  exact .pure trivial

/-- A text is painted as long as its last cell starts in range. -/
theorem textFrom_yields (color : UInt8) {corner : Point} {chars : List Char} (canvas : Canvas)
    (low : -30000 ≤ corner.x.toInt) (high : corner.x.toInt + 6 * chars.length ≤ 32000)
    (y : corner.y.Within 30000) : Succeeds (textFrom color corner chars canvas) := by
  have advance : Layout.glyphAdvance.toInt = 6 := rfl
  induction chars generalizing corner canvas with
  | nil => exact .pure trivial
  | cons c rest ih =>
    rw [List.length_cons] at high
    have next : (corner.x.addSat Layout.glyphAdvance).toInt = corner.x.toInt + 6 := by
      rw [Coord.toInt_addSat, advance]
      omega
    have rest (canvas : Canvas) : Succeeds
        (textFrom color { corner with x := corner.x.addSat Layout.glyphAdvance } rest canvas) := by
      refine ih canvas ?_ ?_ y
      · show -30000 ≤ (corner.x.addSat Layout.glyphAdvance).toInt
        omega
      · show (corner.x.addSat Layout.glyphAdvance).toInt + _ ≤ 32000
        omega
    unfold textFrom
    split
    · exact rest canvas
    · exact (glyph_yields ⟨low, by omega⟩ y).bind fun area _ => rest _

theorem text_yields {corner : Point} {label : String} (color : UInt8) (near : corner.Within 26000)
    (short : label.length ≤ 500) : Succeeds (canvas.text corner label color) := by
  obtain ⟨x, y⟩ := near.mono (by decide : (26000 : Int) ≤ 29000)
  unfold Coord.Within at x y
  have length : label.toList.length = label.length := String.length_toList
  exact textFrom_yields color canvas (by omega) (by omega) ⟨by omega, by omega⟩

/-! ## Windows -/

theorem centered_yields {area : Rect} (h : area.Within 321) {width : Coord}
    (small : 0 ≤ width.toInt ∧ width.toInt ≤ 200) :
    Yields (centered area width) (Point.Within 1200) := by
  have wide := h.width (by decide)
  have high := h.height (by decide)
  obtain ⟨left, top, right, bottom⟩ := h
  unfold Coord.Within at left top right bottom
  have line : Layout.glyphHeight.toInt = 10 := rfl
  refine (Coord.sub_yields (by omega) (by omega)).bind ?_
  intro roomX eqX
  have halfX := roomX.toInt_half
  refine (Coord.add_yields (by omega) (by omega)).bind ?_
  intro x x'
  refine (Coord.sub_yields (by omega) (by omega)).bind ?_
  intro roomY eqY
  have halfY := roomY.toInt_half
  refine (Coord.add_yields (by omega) (by omega)).bind fun y y' => .pure ?_
  exact Point.within_mk ⟨by omega, by omega⟩ ⟨by omega, by omega⟩

theorem titlePlate_yields {bar : Rect} (h : bar.Within 321) {x width : Coord}
    (start : x.Within 1200) (small : 0 ≤ width.toInt ∧ width.toInt ≤ 200) :
    Succeeds (titlePlate bar x width) := by
  obtain ⟨-, top, -, bottom⟩ := h
  unfold Coord.Within at top bottom start
  have one : (1 : Coord).toInt = 1 := rfl
  have four : (4 : Coord).toInt = 4 := rfl
  refine (Coord.sub_yields (by omega) (by omega)).bind fun _ _ => ?_
  refine (Coord.add_yields (by omega) (by omega)).bind fun _ _ => ?_
  refine (Coord.add_yields (by omega) (by omega)).bind fun _ _ => ?_
  refine (Coord.add_yields (by omega) (by omega)).bind fun _ _ => ?_
  refine (Coord.sub_yields (by omega) (by omega)).bind fun _ _ => ?_
  exact .pure trivial

variable {window : Window}

theorem closeBox_yields (h : window.Sound) : Succeeds (canvas.closeBox window) := by
  unfold closeBox
  split
  · exact .pure trivial
  · rename_i box eq
    exact outline_yields _ ((h.closeBox eq).mono (by decide)) _

/-- The background of a title bar, with a title that starts at `x`. -/
def titleBack (canvas : Canvas) (window : Window) (x : Coord) : Checked Canvas :=
  if window.isActive then do
    let plate ← titlePlate window.titleBar x (Layout.textWidth window.title.text)
    return (canvas.fillWith window.titleBar stripe).fill plate Palette.white
  else return canvas.fill window.titleBar Palette.lightGray

/-- What is painted on the background: the title, the edges and the close box. -/
def titleFront (canvas : Canvas) (window : Window) (corner : Point) : Checked Canvas := do
  let canvas ← canvas.text corner window.title.text Palette.black
  let canvas ← canvas.outline window.titleBar Palette.black
  let below ← Coord.add window.titleBar.bottom 1
  let canvas := canvas.fill
    ⟨window.titleBar.left, window.titleBar.bottom, window.titleBar.right, below⟩ Palette.black
  canvas.closeBox window

theorem titleBar_eq (shown : ¬ window.titleBar.isEmpty = true) : canvas.titleBar window = (do
    let corner ← centered window.titleBar (Layout.textWidth window.title.text)
    let canvas ← canvas.titleBack window corner.x
    canvas.titleFront window corner) := by
  unfold titleBar titleBack
  dsimp only
  rw [if_neg shown]
  refine bind_congr fun corner => ?_
  split
  · rw [bind_assoc]
    rfl
  · rfl

theorem titleBack_yields (h : window.Sound) {x : Coord} (start : x.Within 1200) :
    Succeeds (canvas.titleBack window x) := by
  have width := Layout.textWidth_of_short h.title (by decide)
  unfold titleBack
  split
  · exact (titlePlate_yields h.titleBar start ⟨width.1, by omega⟩).bind fun _ _ => .pure trivial
  · exact .pure trivial

theorem titleFront_yields (h : window.Sound) {corner : Point} (near : corner.Within 2000) :
    Succeeds (canvas.titleFront window corner) := by
  have lower := h.titleBar.bottom
  unfold Coord.Within at lower
  have one : (1 : Coord).toInt = 1 := rfl
  have short : window.title.text.length ≤ 500 := Nat.le_trans h.title (by decide)
  refine (canvas.text_yields _ (near.mono (by decide)) short).bind ?_
  intro canvas _
  refine (canvas.outline_yields (h.titleBar.mono (by decide)) _).bind ?_
  intro canvas _
  refine (Coord.add_yields (by omega) (by omega)).bind ?_
  intro below _
  exact closeBox_yields _ h

theorem titleBar_yields (h : window.Sound) : Succeeds (canvas.titleBar window) := by
  by_cases empty : window.titleBar.isEmpty = true
  · rw [titleBar, if_pos empty]
    exact .pure trivial
  have width := Layout.textWidth_of_short h.title (by decide)
  rw [titleBar_eq _ empty]
  refine (centered_yields h.titleBar ⟨width.1, by omega⟩).bind ?_
  intro corner near
  refine (titleBack_yields _ h near.x).bind ?_
  intro canvas _
  exact titleFront_yields _ h (near.mono (by decide))

theorem growMark_yields {box : Rect} (h : box.Within 400) :
    Yields (growMark box) (Rect.Within 2000) := by
  obtain ⟨left, top, right, bottom⟩ := h
  unfold Coord.Within at left top right bottom
  have three : (3 : Coord).toInt = 3 := rfl
  refine (Coord.add_yields (by omega) (by omega)).bind fun _ _ => ?_
  refine (Coord.add_yields (by omega) (by omega)).bind fun _ _ => ?_
  refine (Coord.sub_yields (by omega) (by omega)).bind fun _ _ => ?_
  refine (Coord.sub_yields (by omega) (by omega)).bind fun _ _ => .pure ?_
  exact Rect.within_mk ⟨by omega, by omega⟩ ⟨by omega, by omega⟩ ⟨by omega, by omega⟩
    ⟨by omega, by omega⟩

theorem growBox_yields (h : window.Sound) : Succeeds (canvas.growBox window) := by
  unfold growBox
  split
  · exact .pure trivial
  · rename_i box eq
    have near := h.growBox eq
    refine (canvas.outline_yields (near.mono (by decide)) _).bind ?_
    intro canvas _
    exact (growMark_yields near).bind fun mark inside =>
      canvas.outline_yields (inside.mono (by decide)) _

theorem windowFrame_yields (h : window.Sound) : Succeeds (canvas.windowFrame window) := by
  refine (canvas.outline_yields (h.frame.within.mono (by decide)) _).bind ?_
  intro canvas _
  exact (canvas.titleBar_yields h).bind fun canvas _ => growBox_yields _ h

/-! ## Menus -/

theorem menuTitle_yields {menu : Menu} (h : menu.Fits) (isOpen : Bool) :
    Succeeds (canvas.menuTitle menu isOpen) := by
  have x := h.titleX
  have start : Point.Within 26000 ⟨menu.titleX, titleTop⟩ :=
    Point.within_mk ⟨by omega, by omega⟩ (by decide)
  have one : (1 : Coord).toInt = 1 := rfl
  unfold menuTitle
  split
  · refine h.titleRect_yields.bind ?_
    intro span spans
    have bottom := spans.bottom
    refine (Coord.sub_yields (by omega) (by omega)).bind ?_
    intro bottom _
    exact text_yields _ _ start h.title
  · exact text_yields _ _ start h.title

theorem menuBar_yields {menus : MenuBar} (h : menus.Fits) : Succeeds (canvas.menuBar menus) := by
  refine .foldlM trivial ?_
  intro canvas entry mem _
  obtain ⟨menu, i⟩ := entry
  exact canvas.menuTitle_yields (h.menus menu (List.fst_mem_of_mem_zipIdx mem)) _

section Items

variable {drop : Rect} (inside : drop.Within 25500) {top : Coord}
  (row : 0 ≤ top.toInt ∧ top.toInt ≤ 1000)
include inside row

theorem separator_yields : Succeeds (canvas.separator drop top) := by
  obtain ⟨left, -, right, -⟩ := inside
  unfold Coord.Within at left right
  have one : (1 : Coord).toInt = 1 := rfl
  have half : (MenuLayout.separatorHeight.half).toInt = 4 := rfl
  refine (Coord.add_yields (by omega) (by omega)).bind fun _ _ => ?_
  refine (Coord.add_yields (by omega) (by omega)).bind fun _ _ => ?_
  refine (Coord.sub_yields (by omega) (by omega)).bind fun _ _ => ?_
  refine (Coord.add_yields (by omega) (by omega)).bind fun _ _ => ?_
  exact .pure trivial

theorem highlight_yields : Succeeds (canvas.highlight drop top) := by
  obtain ⟨left, -, right, -⟩ := inside
  unfold Coord.Within at left right
  have one : (1 : Coord).toInt = 1 := rfl
  have height : MenuLayout.itemHeight.toInt = 14 := rfl
  refine (Coord.add_yields (by omega) (by omega)).bind fun _ _ => ?_
  refine (Coord.sub_yields (by omega) (by omega)).bind fun _ _ => ?_
  refine (Coord.add_yields (by omega) (by omega)).bind fun _ _ => ?_
  exact .pure trivial

omit inside in
theorem checkMark_yields {x : Coord} (hx : x.Within 25508) (ink : UInt8) :
    Yields (canvas.checkMark x top ink) fun result => result.1.Within 25518 := by
  unfold Coord.Within at hx
  have four : (4 : Coord).toInt = 4 := rfl
  have five : (5 : Coord).toInt = 5 := rfl
  have nine : (9 : Coord).toInt = 9 := rfl
  have check : MenuLayout.checkWidth.toInt = 10 := rfl
  refine (Coord.add_yields (by omega) (by omega)).bind fun _ _ => ?_
  refine (Coord.add_yields (by omega) (by omega)).bind fun _ _ => ?_
  refine (Coord.add_yields (by omega) (by omega)).bind fun _ _ => ?_
  refine (Coord.add_yields (by omega) (by omega)).bind fun label eq => .pure ?_
  show label.Within 25518
  exact ⟨by omega, by omega⟩

end Items

/-- The color of a label. -/
def itemInk (item : MenuItem) (highlighted : Bool) : UInt8 :=
  if highlighted then Palette.white
  else if item.isSelectable then Palette.black
  else Palette.lightGray

/-- The background of a row. -/
def itemBack (canvas : Canvas) (drop : Rect) (top : Coord) (highlighted : Bool) : Checked Canvas :=
  if highlighted then canvas.highlight drop top else return canvas

/-- Paints the check mark, if there is one, and returns where the label starts. -/
def itemMark (canvas : Canvas) (x top : Coord) (item : MenuItem) (ink : UInt8) :
    Checked (Coord × Canvas) :=
  if item.isChecked then canvas.checkMark x top ink else return (x, canvas)

/-- What is painted on the background: the check mark and the label. -/
def itemFront (canvas : Canvas) (drop : Rect) (top : Coord) (item : MenuItem) (ink : UInt8) :
    Checked Canvas := do
  let x ← Coord.add drop.left MenuLayout.paddingX
  let (x, canvas) ← canvas.itemMark x top item ink
  let y ← Coord.add top (Coord.half (MenuLayout.itemHeight - Layout.glyphHeight))
  canvas.text ⟨x, y⟩ item.text ink

section Items

variable {drop : Rect} {top : Coord} {item : MenuItem} {highlighted : Bool}

theorem menuItem_of_separator (line : item.isSeparator = true) :
    canvas.menuItem drop top item highlighted = canvas.separator drop top := by
  rw [menuItem, if_pos line]

theorem menuItem_of_label (label : item.isSeparator = false) :
    canvas.menuItem drop top item highlighted = (do
      let canvas ← canvas.itemBack drop top highlighted
      canvas.itemFront drop top item (itemInk item highlighted)) := by
  rw [menuItem, label, if_neg Bool.false_ne_true]
  unfold itemBack itemFront itemMark
  cases highlighted <;> cases item.isChecked <;> rfl

variable (inside : drop.Within 25500) (row : 0 ≤ top.toInt ∧ top.toInt ≤ 1000)
include inside row

theorem itemBack_yields : Succeeds (canvas.itemBack drop top highlighted) := by
  unfold itemBack
  split
  · exact canvas.highlight_yields inside row
  · exact .pure trivial

omit inside in
theorem itemMark_yields {x : Coord} (near : x.Within 25508) (ink : UInt8) :
    Yields (canvas.itemMark x top item ink) fun result => result.1.Within 25518 := by
  unfold itemMark
  split
  · exact canvas.checkMark_yields row near ink
  · obtain ⟨low, high⟩ := near
    have wider : x.Within 25518 := ⟨by omega, by omega⟩
    exact .pure wider

theorem itemFront_yields (short : item.text.length ≤ 500) (ink : UInt8) :
    Succeeds (canvas.itemFront drop top item ink) := by
  have left := inside.left
  unfold Coord.Within at left
  have padding : MenuLayout.paddingX.toInt = 8 := rfl
  have baseline : (Coord.half (MenuLayout.itemHeight - Layout.glyphHeight)).toInt = 2 := rfl
  refine (Coord.add_yields (by omega) (by omega)).bind ?_
  intro x eq
  have near : x.Within 25508 := ⟨by omega, by omega⟩
  refine (canvas.itemMark_yields row near ink).bind ?_
  rintro ⟨x, canvas⟩ near
  refine (Coord.add_yields (by omega) (by omega)).bind ?_
  intro y eq
  obtain ⟨low, high⟩ : -25518 ≤ x.toInt ∧ x.toInt ≤ 25518 := near
  exact canvas.text_yields ink (Point.within_mk ⟨by omega, by omega⟩ ⟨by omega, by omega⟩) short

theorem menuItem_yields (short : item.text.length ≤ 500) :
    Succeeds (canvas.menuItem drop top item highlighted) := by
  cases kind : item.isSeparator with
  | true =>
    rw [menuItem_of_separator _ kind]
    exact canvas.separator_yields inside row
  | false =>
    rw [menuItem_of_label _ kind]
    refine (canvas.itemBack_yields inside row).bind ?_
    intro canvas _
    exact canvas.itemFront_yields inside row short _

end Items

theorem dropdown_yields {menus : MenuBar} (h : menus.Fits) : Succeeds (canvas.dropdown menus) := by
  unfold dropdown
  split
  · exact .pure trivial
  rename_i menu eq
  obtain ⟨index, -, found⟩ := Option.bind_eq_some_iff.mp eq
  have fits := h.menus menu (List.mem_of_getElem? found)
  refine fits.dropdownRect_yields.bind ?_
  intro drop place
  have inside := place.within fits
  refine (outline_yields _ (inside.mono (by decide)) _).bind ?_
  intro canvas _
  refine fits.itemTops_yields.bind ?_
  intro rows known
  refine .foldlM trivial ?_
  intro canvas entry mem _
  obtain ⟨⟨top, item⟩, i⟩ := entry
  have mem := List.fst_mem_of_mem_zipIdx mem
  have listed : item ∈ menu.items := by
    rw [← known.1]
    exact List.mem_map_of_mem mem
  exact canvas.menuItem_yields inside (known.2 _ mem) (fits.items item listed)

/-! ## Operations -/

/-- A canvas carries out every sound drawing operation. -/
theorem paint_yields {op : PaintOp} (h : op.Sound) : Succeeds (Painter.paint canvas op) := by
  cases op with
  | text corner label =>
    exact canvas.text_yields _ (h.1.mono (by decide)) (Nat.le_trans h.2 (by decide))
  | windowFrame window => exact canvas.windowFrame_yields h
  | menuBar menus => exact canvas.menuBar_yields h.fits
  | dropdown menus => exact canvas.dropdown_yields h.fits
  | _ => exact .pure trivial

theorem paintAll_yields {ops : List PaintOp} (h : ∀ op ∈ ops, op.Sound) :
    Succeeds (Painter.paintAll canvas ops) :=
  .foldlM trivial fun canvas op mem _ => canvas.paint_yields (h op mem)

end Canvas

end TwinDesk
