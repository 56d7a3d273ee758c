import TwinDesk.Proofs.Display.Pixels
import TwinDesk.Proofs.Display.Safe

/-!
# Windows keep to their frames

Painting a window changes pixels of its frame, but for one exception: the title is centered in the
title bar and not cut to it, so that a title without room in a small window sticks out. Border,
title bar, close box, content and grow box lie inside the frame of every window, however small.

* `Window.titleColor?` — the pixels that the title colors, in the title bar or not.
* `Window.TitleFits`, `Window.Sound.frame_of_titleColor?` — a title with room does not stick out.
* `Canvas.windowFrame_ensures` — what is painted of a window outside of its frame.
* `Canvas.windowFrame_keeps_to_frame` — and that of any window, on any canvas and in any clip.
* `Canvas.narrow_title_sticks_out` — a window that does not keep to its frame.
-/

namespace TwinDesk

variable {p : Point}

/-! ## The parts of a window -/

/-- The rectangle without its outermost pixels. -/
theorem Rect.Within.contains_inset_iff {r : Rect} {bound : Int} (h : r.Within bound)
    (small : bound ≤ 10000) : r.inset.contains p = true ↔
      (r.left.toInt + 1 ≤ p.x.toInt ∧ p.x.toInt < r.right.toInt - 1) ∧
        r.top.toInt + 1 ≤ p.y.toInt ∧ p.y.toInt < r.bottom.toInt - 1 := by
  obtain ⟨left, top, right, bottom⟩ := h
  unfold Coord.Within at left top right bottom
  have border : Layout.borderWidth.toInt = 1 := rfl
  rw [contains_iff_toInt]
  simp only [Rect.inset, Coord.toInt_addSat, Coord.toInt_subSat, border]
  omega

theorem Rect.OnScreen.contains_inset_iff {frame : Rect} (h : frame.OnScreen) :
    frame.inset.contains p = true ↔
      (frame.left.toInt + 1 ≤ p.x.toInt ∧ p.x.toInt < frame.right.toInt - 1) ∧
        frame.top.toInt + 1 ≤ p.y.toInt ∧ p.y.toInt < frame.bottom.toInt - 1 :=
  h.within.contains_inset_iff (by decide)

theorem Rect.OnScreen.contains_of_inset {frame : Rect} (h : frame.OnScreen)
    (inside : frame.inset.contains p = true) : frame.contains p = true := by
  rw [h.contains_inset_iff] at inside
  rw [contains_iff_toInt]
  omega

namespace Window

variable {window : Window} {box : Rect}

namespace Sound

/-- A title bar that shows has the frame around it. -/
theorem titleBar_toInt (h : window.Sound) (shown : window.titleBar.isEmpty = false) :
    (window.titleBar.left.toInt = window.frame.left.toInt + 1 ∧
      window.titleBar.right.toInt = window.frame.right.toInt - 1) ∧
        window.titleBar.top.toInt = window.frame.top.toInt + 1 ∧
          window.titleBar.bottom.toInt =
            min (window.frame.top.toInt + 19) (window.frame.bottom.toInt - 1) := by
  obtain ⟨left, top, right, bottom⟩ := h.frame
  have border : Layout.borderWidth.toInt = 1 := rfl
  have lower := barBottom h.frame
  rw [Window.titleBar, h.decoration, Decoration.ofFrame] at shown ⊢
  split at shown
  · rename_i titled
    rw [if_pos titled]
    refine ⟨?_, ?_, lower⟩
    · simp only [Rect.inset, Coord.toInt_addSat, Coord.toInt_subSat, border]
      omega
    · simp only [Rect.inset, Coord.toInt_addSat, border]
      omega
  · cases shown

theorem inset_of_titleBar (h : window.Sound) (inside : window.titleBar.contains p = true) :
    window.frame.inset.contains p = true := by
  have bar := h.titleBar_toInt (Rect.not_isEmpty_of_contains inside)
  rw [Rect.contains_iff_toInt] at inside
  rw [h.frame.contains_inset_iff]
  omega

theorem frame_of_titleBar (h : window.Sound) (inside : window.titleBar.contains p = true) :
    window.frame.contains p = true :=
  h.frame.contains_of_inset (h.inset_of_titleBar inside)

theorem inset_of_content (h : window.Sound) (inside : window.content.contains p = true) :
    window.frame.inset.contains p = true := by
  obtain ⟨left, top, right, bottom⟩ := h.frame
  have lower := barBottom h.frame
  have border : Layout.borderWidth.toInt = 1 := rfl
  have one : (1 : Coord).toInt = 1 := rfl
  rw [Window.content, h.decoration, Decoration.ofFrame] at inside
  split at inside
  · rw [Rect.contains_iff_toInt, Coord.toInt_addSat, lower, one] at inside
    rw [h.frame.contains_inset_iff]
    simp only [Rect.inset, Coord.toInt_addSat, Coord.toInt_subSat, border] at inside
    omega
  · exact inside

/-- The line below the title bar is still above the border. -/
theorem frame_of_separator (h : window.Sound) (shown : window.titleBar.isEmpty = false)
    {below : Coord} (edge : below.toInt = window.titleBar.bottom.toInt + 1)
    (inside : Rect.contains ⟨window.titleBar.left, window.titleBar.bottom, window.titleBar.right,
      below⟩ p = true) : window.frame.contains p = true := by
  have bar := h.titleBar_toInt shown
  have edges := Rect.isEmpty_eq_false_iff.mp shown
  rw [Rect.contains_iff_toInt] at inside ⊢
  dsimp only at inside
  omega

end Sound

theorem titleBar_of_closeBox (known : window.closeBox? = some box)
    (inside : box.contains p = true) : window.titleBar.contains p = true := by
  unfold closeBox? at known
  split at known
  · cases known
    exact (Rect.contains_intersection_iff.mp inside).2
  · cases known

theorem inset_of_growBox (known : window.growBox? = some box) (inside : box.contains p = true) :
    window.frame.inset.contains p = true := by
  unfold growBox? at known
  split at known
  · cases known
    exact (Rect.contains_intersection_iff.mp inside).2
  · cases known

/-! ## The title -/

/-- Where the title starts, which is centered in the title bar. -/
def titleLeft (window : Window) : Int :=
  window.titleBar.left.toInt +
    (window.titleBar.width.toInt - 6 * window.title.text.length).tdiv 2

def titleTop (window : Window) : Int :=
  window.titleBar.top.toInt + (window.titleBar.height.toInt - 10).tdiv 2

/-- Whether a pixel belongs to one of the visible characters of a line that starts at `left` and
`top`. -/
def isInk (left top : Int) (p : Point) : List Char → Bool
  | [] => false
  | c :: rest =>
    (!Text.isBlank c && decide ((left ≤ p.x.toInt ∧ p.x.toInt < left + 5) ∧
      top + 1 ≤ p.y.toInt ∧ p.y.toInt < top + 8)) || isInk (left + 6) top p rest

/-- Whether a pixel is left white behind the title of an active window. -/
def onPlate (window : Window) (p : Point) : Bool :=
  window.isActive && decide
    ((window.titleLeft - 4 ≤ p.x.toInt ∧
        p.x.toInt < window.titleLeft + 6 * window.title.text.length + 4) ∧
      window.titleBar.top.toInt + 1 ≤ p.y.toInt ∧ p.y.toInt < window.titleBar.bottom.toInt - 1)

/-- The color that the title gives to a pixel, in the title bar or not; none where there is nothing
of the title. -/
def titleColor? (window : Window) (p : Point) : Option UInt8 :=
  if window.titleBar.isEmpty then none
  else if isInk window.titleLeft window.titleTop p window.title.text.toList then some Palette.black
  else if window.onPlate p then some Palette.white
  else none

/-- The frame is wide enough for the title, and high enough for a line of text. -/
structure TitleFits (window : Window) : Prop where
  width : 6 * window.title.text.length + (if window.isActive then 8 else 0) ≤
    window.frame.right.toInt - window.frame.left.toInt
  height : 7 ≤ window.frame.bottom.toInt - window.frame.top.toInt

theorem bounds_of_isInk {left top : Int} {chars : List Char} (ink : isInk left top p chars = true) :
    (left ≤ p.x.toInt ∧ p.x.toInt < left + 6 * chars.length) ∧
      top + 1 ≤ p.y.toInt ∧ p.y.toInt < top + 8 := by
  induction chars generalizing left with
  | nil => cases ink
  | cons c rest ih =>
    rw [isInk, Bool.or_eq_true, Bool.and_eq_true, decide_eq_true_iff] at ink
    rw [List.length_cons]
    rcases ink with ⟨-, here⟩ | later
    · omega
    · have := ih later
      omega

theorem titleColor?_eq (shown : ¬ window.titleBar.isEmpty = true) :
    window.titleColor? = fun p =>
      if isInk window.titleLeft window.titleTop p window.title.text.toList then some Palette.black
      else if window.onPlate p then some Palette.white else none :=
  funext fun _ => if_neg shown

/-- A title ends not far off the screen. -/
theorem Sound.titleLeft_add_le (h : window.Sound) :
    window.titleLeft + 6 * window.title.text.length ≤ 2000 := by
  have left := h.titleBar.left
  have width := h.titleBar.width (by decide)
  have short := h.title
  have half := Coord.two_mul_tdiv_two
    (window.titleBar.width.toInt - 6 * window.title.text.length)
  unfold Coord.Within at left
  rw [titleLeft]
  omega

/-- A title that fits does not stick out. -/
theorem Sound.frame_of_titleColor? (h : window.Sound) (fits : window.TitleFits)
    (on : (window.titleColor? p).isSome) : window.frame.contains p = true := by
  obtain ⟨wide, high⟩ := fits
  have halfX := Coord.two_mul_tdiv_two (window.titleBar.width.toInt - 6 * window.title.text.length)
  have halfY := Coord.two_mul_tdiv_two (window.titleBar.height.toInt - 10)
  have width := h.titleBar.toInt_width (by decide)
  have height := h.titleBar.toInt_height (by decide)
  rw [Rect.contains_iff_toInt]
  unfold titleColor? at on
  split at on
  · cases on
  rename_i shown
  have shown : window.titleBar.isEmpty = false := Bool.eq_false_iff.mpr shown
  have bar := h.titleBar_toInt shown
  have edges := Rect.isEmpty_eq_false_iff.mp shown
  split at on
  · rename_i ink
    have bounds := bounds_of_isInk ink
    have length : window.title.text.toList.length = window.title.text.length :=
      String.length_toList
    have narrow : 6 * (window.title.text.length : Int) ≤
        window.frame.right.toInt - window.frame.left.toInt := by
      split at wide <;> omega
    unfold titleLeft titleTop at bounds
    omega
  split at on
  · rename_i plate
    rw [onPlate, Bool.and_eq_true, decide_eq_true_iff] at plate
    obtain ⟨active, bounds⟩ := plate
    rw [if_pos active] at wide
    unfold titleLeft at bounds
    omega
  · cases on

end Window

/-! ## Painting -/

namespace Coord

variable {a b : Coord}

theorem add_ensures : Ensures (add a b) fun c => c.toInt = a.toInt + b.toInt :=
  fun _ eq => exact_eq_ok_iff.mp eq

theorem sub_ensures : Ensures (sub a b) fun c => c.toInt = a.toInt - b.toInt :=
  fun _ eq => exact_eq_ok_iff.mp eq

end Coord

namespace Canvas

variable {base painted : Canvas} {region : Point → Prop} {area : Rect} {color : UInt8}
  {window : Window}

section Steps

variable (clip : base.clip.OnScreen) (h : PaintedIn region base painted)
include clip h

theorem fill_paintedIn (inside : ∀ p, area.contains p = true → region p) (color : UInt8) :
    PaintedIn region base (painted.fill area color) :=
  h.fillWith clip inside

theorem outline_ensures (inside : ∀ p, area.contains p = true → region p) (color : UInt8) :
    Ensures (painted.outline area color) (PaintedIn region base) := by
  unfold outline
  split
  · exact .pure h
  rename_i shown
  have edges := Rect.isEmpty_eq_false_iff.mp (Bool.eq_false_iff.mpr shown)
  have one : (1 : Coord).toInt = 1 := rfl
  have side (part : Rect) (within : area.left.toInt ≤ part.left.toInt ∧
      part.right.toInt ≤ area.right.toInt ∧ area.top.toInt ≤ part.top.toInt ∧
        part.bottom.toInt ≤ area.bottom.toInt) {painted : Canvas}
      (h : PaintedIn region base painted) : PaintedIn region base (painted.fill part color) := by
    refine fill_paintedIn clip h (fun p covered => inside p ?_) color
    rw [Rect.contains_iff_toInt] at covered ⊢
    omega
  refine Coord.add_ensures.bind fun bottom bottomEq => ?_
  have h := side { area with bottom } (by dsimp only; omega) h
  refine Coord.sub_ensures.bind fun top topEq => ?_
  have h := side { area with top } (by dsimp only; omega) h
  refine Coord.add_ensures.bind fun right rightEq => ?_
  have h := side { area with right } (by dsimp only; omega) h
  refine Coord.sub_ensures.bind fun left leftEq => ?_
  exact .pure (side { area with left } (by dsimp only; omega) h)

theorem closeBox_ensures (inside : ∀ p, window.titleBar.contains p = true → region p) :
    Ensures (painted.closeBox window) (PaintedIn region base) := by
  unfold closeBox
  split
  · exact .pure h
  · rename_i box known
    have inside (p : Point) (covered : box.contains p = true) : region p :=
      inside p (Window.titleBar_of_closeBox known covered)
    exact outline_ensures clip (fill_paintedIn clip h inside _) inside _

omit clip h in
theorem growMark_ensures {box : Rect} : Ensures (growMark box) fun mark =>
    ∀ p, mark.contains p = true → box.contains p = true := by
  have three : (3 : Coord).toInt = 3 := rfl
  refine Coord.add_ensures.bind fun left leftEq => ?_
  refine Coord.add_ensures.bind fun top topEq => ?_
  refine Coord.sub_ensures.bind fun right rightEq => ?_
  refine Coord.sub_ensures.bind fun bottom bottomEq => .pure fun p covered => ?_
  rw [Rect.contains_iff_toInt] at covered ⊢
  dsimp only at covered
  omega

theorem growBox_ensures (inside : ∀ p, window.frame.inset.contains p = true → region p) :
    Ensures (painted.growBox window) (PaintedIn region base) := by
  unfold growBox
  split
  · exact .pure h
  · rename_i box known
    have inside (p : Point) (covered : box.contains p = true) : region p :=
      inside p (Window.inset_of_growBox known covered)
    refine (outline_ensures clip h inside _).bind fun painted h => ?_
    refine growMark_ensures.bind fun mark within => ?_
    exact outline_ensures clip h (fun p covered => inside p (within p covered)) _

end Steps

/-! ### The title -/

theorem glyph_ensures {corner : Point} : Ensures (glyph corner) fun cell =>
    ∀ p : Point, cell.contains p = true ↔
      (corner.x.toInt ≤ p.x.toInt ∧ p.x.toInt < corner.x.toInt + 5) ∧
        corner.y.toInt + 1 ≤ p.y.toInt ∧ p.y.toInt < corner.y.toInt + 8 := by
  have one : (1 : Coord).toInt = 1 := rfl
  have two : (2 : Coord).toInt = 2 := rfl
  have advance : Layout.glyphAdvance.toInt = 6 := rfl
  have height : Layout.glyphHeight.toInt = 10 := rfl
  refine Coord.add_ensures.bind fun top topEq => ?_
  refine Coord.add_ensures.bind fun far farEq => ?_
  refine Coord.sub_ensures.bind fun right rightEq => ?_
  refine Coord.add_ensures.bind fun low lowEq => ?_
  refine Coord.sub_ensures.bind fun bottom bottomEq => .pure fun p => ?_
  rw [Rect.contains_iff_toInt]
  dsimp only
  omega

/-- A line of text, pixel by pixel. -/
theorem textFrom_ensures {corner : Point} {chars : List Char} (clip : painted.clip.OnScreen)
    (short : corner.x.toInt + 6 * chars.length ≤ 32767) :
    Ensures (textFrom color corner chars painted) fun result => result.clip = painted.clip ∧
      ∀ p, result.pixel? p =
        if Window.isInk corner.x.toInt corner.y.toInt p chars = true ∧
          painted.clip.contains p = true then some (color &&& 0x0F) else painted.pixel? p := by
  induction chars generalizing corner painted with
  | nil => exact .pure ⟨rfl, fun p => by simp [Window.isInk]⟩
  | cons c rest ih =>
    have advance : Layout.glyphAdvance.toInt = 6 := rfl
    rw [List.length_cons] at short
    have next : (corner.x.addSat Layout.glyphAdvance).toInt = corner.x.toInt + 6 := by
      have := corner.x.toInt_bounds
      rw [Coord.toInt_addSat, advance]
      omega
    have later {painted : Canvas} (clip : painted.clip.OnScreen) :=
      @ih painted { corner with x := corner.x.addSat Layout.glyphAdvance } clip
        (by dsimp only; omega)
    dsimp only at later
    rw [next] at later
    unfold textFrom
    split
    · rename_i blank
      intro result eq
      obtain ⟨clip', pixels⟩ := later clip result eq
      refine ⟨clip', fun p => ?_⟩
      rw [pixels p, Window.isInk, blank]
      rfl
    · rename_i visible
      refine glyph_ensures.bind fun cell covers => ?_
      intro result eq
      have same : (painted.fill cell color).clip = painted.clip := clip_fillWith
      obtain ⟨clip', pixels⟩ := later (same ▸ clip) result eq
      refine ⟨clip'.trans same, fun p => ?_⟩
      have here := covers p
      rw [pixels p, same, fill, pixel?_fillWith clip, Window.isInk]
      grind

theorem centered_ensures (sound : window.Sound) :
    Ensures (centered window.titleBar (Layout.textWidth window.title.text)) fun corner =>
      corner.x.toInt = window.titleLeft ∧ corner.y.toInt = window.titleTop := by
  have width := Layout.toInt_textWidth (Nat.le_trans sound.title (by decide))
  have line : Layout.glyphHeight.toInt = 10 := rfl
  refine Coord.sub_ensures.bind fun roomX roomXEq => ?_
  refine Coord.add_ensures.bind fun x xEq => ?_
  refine Coord.sub_ensures.bind fun roomY roomYEq => ?_
  refine Coord.add_ensures.bind fun y yEq => .pure ?_
  rw [Coord.toInt_half_eq, roomXEq, width] at xEq
  rw [Coord.toInt_half_eq, roomYEq, line] at yEq
  exact ⟨xEq, yEq⟩

theorem titlePlate_ensures (sound : window.Sound) (active : window.isActive = true) {x : Coord}
    (start : x.toInt = window.titleLeft) :
    Ensures (titlePlate window.titleBar x (Layout.textWidth window.title.text)) fun plate =>
      ∀ p, plate.contains p = window.onPlate p := by
  have width := Layout.toInt_textWidth (Nat.le_trans sound.title (by decide))
  have one : (1 : Coord).toInt = 1 := rfl
  have four : (4 : Coord).toInt = 4 := rfl
  refine Coord.sub_ensures.bind fun left leftEq => ?_
  refine Coord.add_ensures.bind fun top topEq => ?_
  refine Coord.add_ensures.bind fun far farEq => ?_
  refine Coord.add_ensures.bind fun right rightEq => ?_
  refine Coord.sub_ensures.bind fun bottom bottomEq => .pure fun p => ?_
  rw [Bool.eq_iff_iff, Rect.contains_iff_toInt, Window.onPlate, active, Bool.true_and,
    decide_eq_true_iff]
  dsimp only
  omega

/-! ### All of a window -/

/-- On the way from one canvas to another, the pixels outside of a frame have got the colors that
are given for them, as far as they lie in the clip, and are otherwise as they were. -/
structure ShowsAround (frame : Rect) (color? : Point → Option UInt8) (canvas painted : Canvas) :
    Prop where
  clip : painted.clip = canvas.clip
  clipped : ∀ p, canvas.clip.contains p = false → painted.pixel? p = canvas.pixel? p
  around : ∀ p, canvas.clip.contains p = true → frame.contains p = false →
    painted.pixel? p = (color? p).or (canvas.pixel? p)

namespace ShowsAround

variable {frame : Rect} {color? : Point → Option UInt8} {painted' : Canvas}

theorem rfl : ShowsAround frame (fun _ => none) base base :=
  ⟨by rfl, fun _ _ => by rfl, fun _ _ _ => by rfl⟩

/-- Whatever is painted inside of the frame. -/
theorem inside (h : ShowsAround frame color? base painted)
    (more : PaintedIn (frame.contains · = true) painted painted') :
    ShowsAround frame color? base painted' := by
  refine ⟨more.clip.trans h.clip, fun p clipped => ?_, fun p shown outside => ?_⟩
  · rw [more.eq_of_clipped (h.clip ▸ clipped), h.clipped p clipped]
  · rw [more.eq_of_outside (Bool.eq_false_iff.mp outside), h.around p shown outside]

/-- Something is painted over it in one color. -/
theorem paintOver (h : ShowsAround frame color? base painted) {shape : Point → Bool}
    (clip : painted'.clip = painted.clip)
    (pixels : ∀ p, painted'.pixel? p = if shape p = true ∧ painted.clip.contains p = true then
      some color else painted.pixel? p) :
    ShowsAround frame (fun p => if shape p then some color else color? p) base painted' := by
  refine ⟨clip.trans h.clip, fun p clipped => ?_, fun p shown outside => ?_⟩
  · rw [pixels p, h.clip, clipped, h.clipped p clipped]
    simp
  · rw [pixels p, h.clip, shown, h.around p shown outside]
    cases shape p <;> simp

end ShowsAround

theorem titleBack_ensures (sound : window.Sound) (clip : base.clip.OnScreen)
    (h : ShowsAround window.frame (fun _ => none) base painted) {x : Coord}
    (start : x.toInt = window.titleLeft) : Ensures (painted.titleBack window x) <|
      ShowsAround window.frame (fun p => if window.onPlate p then some Palette.white else none)
        base := by
  have inBar (p : Point) (covered : window.titleBar.contains p = true) :
      window.frame.contains p = true := sound.frame_of_titleBar covered
  unfold titleBack
  split
  · rename_i active
    have stripes : PaintedIn (window.frame.contains · = true) painted
        (painted.fillWith window.titleBar stripe) := .fillWith .rfl (h.clip ▸ clip) inBar
    have striped := h.inside stripes
    refine (titlePlate_ensures sound active start).bind fun plate covers => .pure ?_
    refine striped.paintOver clip_fillWith fun p => ?_
    rw [← covers p]
    exact pixel?_fillWith (striped.clip ▸ clip)
  · rename_i idle
    have noPlate : (fun p => if window.onPlate p then some Palette.white else none) =
        fun _ => none := by
      funext p
      rw [Window.onPlate, Bool.eq_false_iff.mpr idle]
      rfl
    rw [noPlate]
    exact .pure (h.inside (fill_paintedIn (h.clip ▸ clip) .rfl inBar Palette.lightGray))

theorem titleFront_ensures (sound : window.Sound) (clip : base.clip.OnScreen)
    (shown : ¬ window.titleBar.isEmpty = true) {corner : Point}
    (start : corner.x.toInt = window.titleLeft ∧ corner.y.toInt = window.titleTop)
    (h : ShowsAround window.frame (fun p => if window.onPlate p then some Palette.white else none)
      base painted) :
    Ensures (painted.titleFront window corner)
      (ShowsAround window.frame window.titleColor? base) := by
  have inBar (p : Point) (covered : window.titleBar.contains p = true) :
      window.frame.contains p = true := sound.frame_of_titleBar covered
  have length : window.title.text.toList.length = window.title.text.length :=
    String.length_toList
  have ends := sound.titleLeft_add_le
  have near : corner.x.toInt + 6 * window.title.text.toList.length ≤ 32767 := by omega
  refine Ensures.bind (textFrom_ensures (h.clip ▸ clip) near) ?_
  rintro written ⟨clip', pixels⟩
  rw [start.1, start.2] at pixels
  have titled : ShowsAround window.frame window.titleColor? base written := by
    rw [Window.titleColor?_eq shown]
    exact h.paintOver clip' pixels
  have clip : written.clip.OnScreen := titled.clip ▸ clip
  -- what comes after the title keeps to the frame
  refine (outline_ensures clip .rfl inBar _).bind fun painted within => ?_
  refine Coord.add_ensures.bind fun below belowEq => ?_
  intro boxed eq
  refine titled.inside (closeBox_ensures clip (fill_paintedIn clip within ?_ _) inBar boxed eq)
  exact fun p => sound.frame_of_separator (Bool.eq_false_iff.mpr shown) belowEq

theorem titleBar_ensures (sound : window.Sound) (clip : base.clip.OnScreen)
    (h : ShowsAround window.frame (fun _ => none) base painted) :
    Ensures (painted.titleBar window) (ShowsAround window.frame window.titleColor? base) := by
  by_cases empty : window.titleBar.isEmpty = true
  · have blank : window.titleColor? = fun _ => none := funext fun p => if_pos empty
    rw [titleBar, if_pos empty, blank]
    exact .pure h
  · rw [titleBar_eq _ empty]
    refine (centered_ensures sound).bind fun corner start => ?_
    refine (titleBack_ensures sound clip h start.1).bind fun canvas shows => ?_
    exact titleFront_ensures sound clip empty start shows

theorem windowFrame_ensures (sound : window.Sound) (clip : base.clip.OnScreen) :
    Ensures (base.windowFrame window) (ShowsAround window.frame window.titleColor? base) := by
  have inset (p : Point) (covered : window.frame.inset.contains p = true) :
      window.frame.contains p = true := sound.frame.contains_of_inset covered
  refine (outline_ensures clip .rfl (fun _ covered => covered) _).bind fun bordered within => ?_
  refine (titleBar_ensures sound clip (ShowsAround.rfl.inside within)).bind fun titled shows => ?_
  intro painted eq
  have clip : titled.clip.OnScreen := shows.clip ▸ clip
  refine shows.inside (growBox_ensures clip (fill_paintedIn clip .rfl ?_ _) inset painted eq)
  exact fun p covered => inset p (sound.inset_of_content covered)

/-- Any window on any canvas, in any clip: it is painted, and that changes only pixels of its frame
in the clip. The only others are pixels of a title that does not fit. -/
theorem windowFrame_keeps_to_frame (canvas : Canvas) (clip : Rect) (id : WindowId) (frame : Rect)
    (title : String) (style : WindowStyle) (flags : WindowFlags) :
    Yields ((canvas.setClip clip).windowFrame (.create id frame title style flags)) <|
      PaintedIn (fun p => (Window.create id frame title style flags).frame.contains p = true ∨
        ¬ (Window.create id frame title style flags).TitleFits ∧
          ((Window.create id frame title style flags).titleColor? p).isSome = true)
        (canvas.setClip clip) := by
  have sound := Window.sound_create id frame title style flags
  generalize Window.create id frame title style flags = window at sound ⊢
  obtain ⟨painted, eq, -⟩ := windowFrame_yields (canvas.setClip clip) sound
  have shows := windowFrame_ensures sound clip.onScreen_clipTo painted eq
  refine ⟨painted, eq, shows.clip, fun p changed => ?_⟩
  cases inClip : (canvas.setClip clip).clip.contains p with
  | false => exact absurd (shows.clipped p inClip) changed
  | true =>
    refine ⟨rfl, ?_⟩
    cases inFrame : window.frame.contains p with
    | true => exact .inl rfl
    | false =>
      rw [shows.around p inClip inFrame] at changed
      cases color : window.titleColor? p with
      | none =>
        rw [color] at changed
        exact absurd rfl changed
      | some c =>
        refine .inr ⟨fun fits => ?_, rfl⟩
        have inside := sound.frame_of_titleColor? fits (p := p) (by rw [color]; rfl)
        cases inFrame.symm.trans inside

theorem pixel?_blank (onScreen : Layout.screen.contains p = true) :
    blank.pixel? p = some Palette.white := by
  rw [pixel?_eq onScreen (Frame.byteIndex_lt onScreen)]
  simp only [blank, Frame.white, Vector.getElem_replicate]
  cases Frame.isRight p <;> decide

/-- A window that is too narrow for its title. -/
def narrow : Window :=
  .create ⟨0⟩ ⟨40, 40, 80, 80⟩ "Calculator" .document .visible

/-- The first characters of the title are painted to the left of the window. -/
theorem narrow_title_sticks_out : ¬ Yields ((blank.setClip Layout.screen).windowFrame narrow)
    (PaintedIn (narrow.frame.contains · = true) (blank.setClip Layout.screen)) := by
  rintro ⟨painted, eq, within⟩
  have shows := windowFrame_ensures (Window.sound_create _ _ _ _ _) Layout.screen.onScreen_clipTo
    painted eq
  have black : painted.pixel? ⟨30, 46⟩ = some Palette.black :=
    shows.around ⟨30, 46⟩ (by decide) (by decide)
  have white : blank.pixel? ⟨30, 46⟩ = some Palette.white := pixel?_blank (by decide)
  have changed : painted.pixel? ⟨30, 46⟩ ≠ blank.pixel? ⟨30, 46⟩ := by
    rw [black, white]
    decide
  exact absurd (within.changed ⟨30, 46⟩ changed).2 (by decide)

end Canvas

end TwinDesk
