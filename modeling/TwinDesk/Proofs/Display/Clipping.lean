import TwinDesk.Proofs.Display.WindowFrames

/-!
# Painting keeps to the clip

Whatever is painted is made of areas and single pixels, which are cut to the clip. So no operation
changes a pixel outside of the clip, and the clip stays on the screen.

* `Canvas.InLine`, `Canvas.text_ensures` — where a line of text is painted.
* `Canvas.InLabel`, `Canvas.itemFront_ensures` — where the label of a menu item is painted.
* `Canvas.Clipped`, `Canvas.paint_ensures` — painting that changes pixels in the clip only.
* `Canvas.Reached`, `Canvas.fills_exact` — canvases after any calls, and fills of these.
-/

namespace TwinDesk

namespace Canvas

variable {base painted : Canvas} {region : Point → Prop} {color : UInt8} {p q : Point}

/-! ## Painting in a region -/

/-- The cells of a line of text, without the space between lines. -/
structure InLine (corner : Point) (length : Nat) (p : Point) : Prop where
  left : corner.x.toInt ≤ p.x.toInt
  right : p.x.toInt < corner.x.toInt + 6 * length
  high : corner.y.toInt + 1 ≤ p.y.toInt
  low : p.y.toInt < corner.y.toInt + 8

/-- The label of an item between the paddings of its row, with the check mark. -/
structure InLabel (drop : Rect) (top : Coord) (item : MenuItem) (p : Point) : Prop where
  left : drop.left.toInt + 8 ≤ p.x.toInt
  right : p.x.toInt < drop.left.toInt + item.room - 8
  high : top.toInt ≤ p.y.toInt
  low : p.y.toInt < top.toInt + 14

section Steps

variable (clip : base.clip.OnScreen) (h : PaintedIn region base painted)
include clip h

theorem plot_paintedIn (inside : region q) (color : UInt8) :
    PaintedIn region base (painted.plot q color) := by
  refine ⟨clip_plot.trans h.clip, fun p changed => ?_⟩
  rw [pixel?_plot (h.clip ▸ clip)] at changed
  split at changed
  · rename_i here
    obtain ⟨rfl, inClip⟩ := here
    exact ⟨h.clip ▸ inClip, inside⟩
  · exact h.changed p changed

theorem textFrom_paintedIn {corner : Point} {chars : List Char}
    (inside : ∀ p, InLine corner chars.length p → region p) :
    Ensures (textFrom color corner chars painted) (PaintedIn region base) := by
  induction chars generalizing corner painted with
  | nil => exact .pure h
  | cons c rest ih =>
    have advance : Layout.glyphAdvance.toInt = 6 := rfl
    have bounds := corner.x.toInt_bounds
    have next := corner.x.toInt_addSat Layout.glyphAdvance
    rw [List.length_cons] at inside
    have later {painted : Canvas} (h : PaintedIn region base painted) :
        Ensures (textFrom color { corner with x := corner.x.addSat Layout.glyphAdvance } rest
          painted) (PaintedIn region base) := by
      refine ih h fun p ⟨left, right, high, low⟩ => inside p ⟨?_, ?_, high, low⟩
      · dsimp only at left
        omega
      · dsimp only at right
        omega
    unfold textFrom
    split
    · exact later h
    · refine glyph_ensures.bind fun cell covers => later (fill_paintedIn clip h ?_ color)
      intro p covered
      obtain ⟨⟨left, right⟩, high, low⟩ := (covers p).mp covered
      exact inside p ⟨left, by omega, high, low⟩

theorem text_ensures {corner : Point} {label : String}
    (inside : ∀ p, InLine corner label.length p → region p) :
    Ensures (painted.text corner label color) (PaintedIn region base) := by
  refine textFrom_paintedIn clip h ?_
  rwa [String.length_toList]

theorem checkMark_ensures {x top : Coord} {ink : UInt8}
    (inside : ∀ p : Point, x.toInt ≤ p.x.toInt → p.x.toInt < x.toInt + 4 →
      top.toInt + 5 ≤ p.y.toInt → p.y.toInt < top.toInt + 9 → region p) :
    Ensures (painted.checkMark x top ink) fun result =>
      result.1.toInt = x.toInt + 10 ∧ PaintedIn region base result.2 := by
  refine Coord.add_ensures.bind fun high highEq => ?_
  refine Coord.add_ensures.bind fun right rightEq => ?_
  refine Coord.add_ensures.bind fun low lowEq => ?_
  refine Coord.add_ensures.bind fun label labelEq => .pure ⟨labelEq, ?_⟩
  refine fill_paintedIn clip h (fun p covered => ?_) ink
  have four : (4 : Coord).toInt = 4 := rfl
  have five : (5 : Coord).toInt = 5 := rfl
  have nine : (9 : Coord).toInt = 9 := rfl
  rw [Rect.contains_iff_toInt] at covered
  dsimp only at covered
  exact inside p (by omega) (by omega) (by omega) (by omega)

theorem itemMark_ensures {x top : Coord} {item : MenuItem} {ink : UInt8}
    (inside : ∀ p : Point, x.toInt ≤ p.x.toInt → p.x.toInt < x.toInt + 4 →
      top.toInt + 5 ≤ p.y.toInt → p.y.toInt < top.toInt + 9 → item.isChecked = true → region p) :
    Ensures (painted.itemMark x top item ink) fun result =>
      result.1.toInt = x.toInt + (if item.isChecked then 10 else 0) ∧
        PaintedIn region base result.2 := by
  unfold itemMark
  split
  · rename_i checked
    exact checkMark_ensures clip h fun p left right high low => inside p left right high low checked
  · exact .pure ⟨(Int.add_zero _).symm, h⟩

/-- The label of an item is painted between the paddings, and so is its check mark. -/
theorem itemFront_ensures {drop : Rect} {top : Coord} {item : MenuItem} {ink : UInt8}
    (inside : ∀ p, InLabel drop top item p → region p) :
    Ensures (painted.itemFront drop top item ink) (PaintedIn region base) := by
  have padding : MenuLayout.paddingX.toInt = 8 := rfl
  have baseline : (Coord.half (MenuLayout.itemHeight - Layout.glyphHeight)).toInt = 2 := rfl
  refine Coord.add_ensures.bind fun x xEq => ?_
  refine Ensures.bind (itemMark_ensures clip h fun p left right high low checked => ?_) ?_
  · refine inside p ⟨by omega, ?_, by omega, by omega⟩
    rw [MenuItem.room, if_pos checked]
    omega
  rintro ⟨label, painted⟩ ⟨labelEq, h⟩
  refine Coord.add_ensures.bind fun y yEq => text_ensures clip h fun p line => ?_
  obtain ⟨left, right, high, low⟩ := line
  dsimp only at left right high low labelEq
  refine inside p ⟨?_, ?_, by omega, by omega⟩
  · split at labelEq <;> omega
  · unfold MenuItem.room
    omega

end Steps

/-! ## Painting in the clip -/

/-- On the way from one canvas to another, only pixels in the clip have changed. -/
@[reducible] def Clipped : Canvas → Canvas → Prop :=
  PaintedIn fun _ => True

section Operations

variable (clip : base.clip.OnScreen) (h : Clipped base painted)
include clip h

theorem fill_clipped (area : Rect) (color : UInt8) : Clipped base (painted.fill area color) :=
  fill_paintedIn clip h (fun _ _ => trivial) color

theorem text_clipped (corner : Point) (label : String) (color : UInt8) :
    Ensures (painted.text corner label color) (Clipped base) :=
  text_ensures clip h fun _ _ => trivial

theorem outline_clipped (area : Rect) (color : UInt8) :
    Ensures (painted.outline area color) (Clipped base) :=
  outline_ensures clip h (fun _ _ => trivial) color

theorem titleBar_clipped (window : Window) :
    Ensures (painted.titleBar window) (Clipped base) := by
  by_cases empty : window.titleBar.isEmpty = true
  · rw [titleBar, if_pos empty]
    exact .pure h
  rw [titleBar_eq _ empty]
  refine (Ensures.any _).bind fun corner _ => ?_
  have back : Ensures (painted.titleBack window corner.x) (Clipped base) := by
    unfold titleBack
    split
    · refine (Ensures.any _).bind fun plate _ => .pure ?_
      exact fill_clipped clip (h.fillWith clip fun _ _ => trivial) plate _
    · exact .pure (fill_clipped clip h _ _)
  refine back.bind fun painted h => ?_
  refine (text_clipped clip h _ _ _).bind fun painted h => ?_
  refine (outline_clipped clip h _ _).bind fun painted h => ?_
  refine (Ensures.any _).bind fun below _ => ?_
  exact closeBox_ensures clip (fill_clipped clip h _ _) fun _ _ => trivial

theorem windowFrame_clipped (window : Window) :
    Ensures (painted.windowFrame window) (Clipped base) := by
  refine (outline_clipped clip h _ _).bind fun painted h => ?_
  refine (titleBar_clipped clip h window).bind fun painted h => ?_
  exact growBox_ensures clip (fill_clipped clip h _ _) fun _ _ => trivial

theorem menuTitle_clipped (menu : Menu) (isOpen : Bool) :
    Ensures (painted.menuTitle menu isOpen) (Clipped base) := by
  unfold menuTitle
  split
  · refine (Ensures.any _).bind fun span _ => (Ensures.any _).bind fun bottom _ => ?_
    exact text_clipped clip (fill_clipped clip h _ _) _ _ _
  · exact text_clipped clip h _ _ _

theorem menuBar_clipped (menus : MenuBar) :
    Ensures (painted.menuBar menus) (Clipped base) := by
  refine .foldlM (fill_clipped clip (fill_clipped clip h _ _) _ _) fun painted entry _ h => ?_
  exact menuTitle_clipped clip h entry.1 _

theorem menuItem_clipped (drop : Rect) (top : Coord) (item : MenuItem) (highlighted : Bool) :
    Ensures (painted.menuItem drop top item highlighted) (Clipped base) := by
  cases kind : item.isSeparator with
  | true =>
    rw [menuItem_of_separator _ kind]
    refine (Ensures.any _).bind fun y _ => (Ensures.any _).bind fun left _ => ?_
    refine (Ensures.any _).bind fun right _ => (Ensures.any _).bind fun below _ => .pure ?_
    exact h.fillWith clip fun _ _ => trivial
  | false =>
    rw [menuItem_of_label _ kind]
    have back : Ensures (painted.itemBack drop top highlighted) (Clipped base) := by
      unfold itemBack
      split
      · refine (Ensures.any _).bind fun left _ => (Ensures.any _).bind fun right _ => ?_
        exact (Ensures.any _).bind fun bottom _ => .pure (fill_clipped clip h _ _)
      · exact .pure h
    exact back.bind fun painted h => itemFront_ensures clip h fun _ _ => trivial

theorem dropdown_clipped (menus : MenuBar) :
    Ensures (painted.dropdown menus) (Clipped base) := by
  unfold dropdown
  split
  · exact .pure h
  · refine (Ensures.any _).bind fun drop _ => ?_
    refine (outline_clipped clip (fill_clipped clip (fill_clipped clip h _ _) _ _) _ _).bind ?_
    intro painted h
    refine (Ensures.any _).bind fun rows _ => .foldlM h fun painted entry _ h => ?_
    exact menuItem_clipped clip h drop entry.1.1 entry.1.2 _

theorem cursor_clipped (tip : Point) : Clipped base (painted.cursor tip) := by
  unfold cursor
  generalize arrowPixels = pixels
  induction pixels generalizing painted with
  | nil => exact h
  | cons pixel rest ih => exact ih (plot_paintedIn clip h trivial _)

end Operations

variable {canvas : Canvas}

/-- No operation changes a pixel outside of the clip, or moves the clip off the screen. -/
theorem paint_ensures (clip : canvas.clip.OnScreen) (op : PaintOp) :
    Ensures (Painter.paint canvas op) fun painted => painted.clip.OnScreen ∧
      ∀ p, canvas.clip.contains p = false → painted.pixel? p = canvas.pixel? p := by
  have kept {painted : Canvas} (h : Clipped canvas painted) : painted.clip.OnScreen ∧
      ∀ p, canvas.clip.contains p = false → painted.pixel? p = canvas.pixel? p :=
    ⟨h.clip ▸ clip, fun p outside => h.eq_of_clipped outside⟩
  cases op with
  | setClip area => exact .pure ⟨area.onScreen_clipTo, fun _ _ => rfl⟩
  | resetClip => exact .pure ⟨Rect.onScreen_screen, fun _ _ => rfl⟩
  | fillPattern area pattern => exact .pure (kept (PaintedIn.rfl.fillWith clip fun _ _ => trivial))
  | fillRect area shade => exact .pure (kept (fill_clipped clip .rfl _ _))
  | text corner label => exact fun _ eq => kept (text_clipped clip .rfl _ _ _ _ eq)
  | windowFrame window => exact fun _ eq => kept (windowFrame_clipped clip .rfl _ _ eq)
  | menuBar menus => exact fun _ eq => kept (menuBar_clipped clip .rfl _ _ eq)
  | dropdown menus => exact fun _ eq => kept (dropdown_clipped clip .rfl _ _ eq)
  | cursor tip => exact .pure (kept (cursor_clipped clip .rfl tip))

/-! ## Canvases after any calls -/

/-- A canvas that calls of a painter leave behind. -/
inductive Reached : Canvas → Prop
  | blank : Reached blank
  | paint {canvas painted : Canvas} {op : PaintOp} (before : Reached canvas)
      (done : Painter.paint canvas op = .ok painted) : Reached painted
  | finish {canvas : Canvas} {n : Nat} (before : Reached canvas) (bytes : Vector UInt8 n) :
      Reached (Painter.finish canvas bytes).1

theorem Reached.onScreen (reached : canvas.Reached) : canvas.clip.OnScreen := by
  induction reached with
  | blank => exact Rect.onScreen_screen
  | paint before done ih => exact (paint_ensures ih _ _ done).1
  | finish before bytes ih => exact ih

/-- A published frame shows what the canvas shows. -/
theorem pixel?_copyTo {n : Nat} (bytes : Vector UInt8 n) (room : Layout.frameBytes ≤ n) :
    Frame.pixel? (canvas.copyTo bytes).toArray p = canvas.pixel? p := by
  cases onScreen : Layout.screen.contains p with
  | false =>
    rw [pixel?_eq_none onScreen, Frame.pixel?, onScreen]
    rfl
  | true =>
    have bound := Frame.byteIndex_lt onScreen
    have inside : Frame.byteIndex p < n := Nat.lt_of_lt_of_le bound room
    rw [pixel?_eq onScreen bound, Frame.pixel?, if_pos onScreen, Vector.getElem?_toArray,
      Vector.getElem?_eq_getElem inside, Option.map_some]
    simp only [copyTo, dif_pos room, replaceFront, Vector.getElem_cast]
    rw [Vector.getElem_append_left bound]

/-- A canvas after any calls. A fill gives the pixels in the area and in the clip their color, and
leaves all others as they were, though two of them share a byte. Other calls may paint what they
like, but in the clip, which lies on the screen. A bank with room for a frame gets the pixels of the
canvas. -/
theorem fills_exact (reached : canvas.Reached) :
    canvas.clip.OnScreen ∧
    (∀ area shade, Yields (Painter.paint canvas (.fillRect area shade)) fun painted =>
      painted.clip = canvas.clip ∧ ∀ p, painted.pixel? p =
        if area.contains p = true ∧ canvas.clip.contains p = true then some shade.color
        else canvas.pixel? p) ∧
    (∀ area pattern, Yields (Painter.paint canvas (.fillPattern area pattern)) fun painted =>
      painted.clip = canvas.clip ∧ ∀ p, painted.pixel? p =
        if area.contains p = true ∧ canvas.clip.contains p = true then
          some (if pattern.isSet p.x p.y then Palette.black else Palette.white)
        else canvas.pixel? p) ∧
    (∀ op, Ensures (Painter.paint canvas op) fun painted => painted.clip.OnScreen ∧
      ∀ p, canvas.clip.contains p = false → painted.pixel? p = canvas.pixel? p) ∧
    ∀ n (bytes : Vector UInt8 n), Layout.frameBytes ≤ n → ∀ p,
      Frame.pixel? (Painter.finish canvas bytes).2.toArray p = canvas.pixel? p ∧
      (Painter.finish canvas bytes).1.pixel? p = canvas.pixel? p := by
  have clip := reached.onScreen
  refine ⟨clip, fun area shade => ?_, fun area pattern => ?_, paint_ensures clip,
    fun n bytes room p => ⟨pixel?_copyTo bytes room, rfl⟩⟩
  · have low : shade.color &&& 0x0F = shade.color := by cases shade <;> rfl
    refine .pure ⟨clip_fillWith, fun p => ?_⟩
    rw [fill, pixel?_fillWith clip, low]
  · refine .pure ⟨clip_fillWith, fun p => ?_⟩
    rw [fillPattern, pixel?_fillWith clip]
    cases pattern.isSet p.x p.y <;> rfl

/-- The clip ends in the middle of a byte, whose right half stays white. -/
theorem fills_exact_half_byte :
    let canvas := blank.setClip ⟨-10, 5, 3, 9⟩
    canvas.Reached ∧
      Yields (Painter.paint canvas (.fillRect ⟨-32768, -32768, 32767, 32767⟩ .light)) fun painted =>
        painted.pixel? ⟨2, 8⟩ = some Palette.lightGray ∧
        painted.pixel? ⟨3, 8⟩ = some Palette.white := by
  intro canvas
  have done : Painter.paint blank (.setClip ⟨-10, 5, 3, 9⟩) = .ok canvas := rfl
  have reached : canvas.Reached := .paint .blank done
  obtain ⟨-, fill, -⟩ := fills_exact reached
  refine ⟨reached, (fill _ _).mono fun painted exact => ⟨exact.2 ⟨2, 8⟩, ?_⟩⟩
  exact (exact.2 ⟨3, 8⟩).trans (pixel?_blank (by decide))

end Canvas

end TwinDesk
