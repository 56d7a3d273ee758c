import TwinDesk.Compositor
import TwinDesk.Proofs.Paint.Pictures
import TwinDesk.Proofs.Window.Layers

/-!
# What a frame shows

For a painter that keeps to what the operations say, and for contents that keep to their windows, a
frame shows at every pixel what lies over the windows there, else the nearest layer, else the
desktop. Painting the damage makes this true of the damaged pixels and leaves the others alone.

* `Pictures.Faithful` — painters that keep to what the operations say.
* `Pictures.Honest` — contents that keep to their windows.
* `Compositor.ground`, `Compositor.above` — what a frame shows, below and above the windows' edge.
* `Compositor.paint_pixels` — what painting does to a pixel.
-/

namespace TwinDesk

variable {Color P : Type}

/-! ## Painters and contents -/

/-- The painter keeps to what the operations say. -/
structure Pictures.Faithful (pictures : Pictures Color) : Prop where
  /-- A pattern is opaque, and decided by the position alone. -/
  fill : ∀ (pattern : DesktopPattern) (p : Point), ∃ color : Color, ∀ area : Rect,
    area.contains p = true → pictures (.fillPattern area pattern) p = some color
  frame : ∀ (window : Window) (p : Point), window.frame.contains p = false →
    pictures (.windowFrame window) p = none
  title : ∀ (window : Window) (title : Title) (p : Point), window.titleBar.contains p = false →
    pictures (.windowFrame { window with title }) p = pictures (.windowFrame window) p
  menuBar : ∀ (menus : MenuBar) (p : Point),
    (pictures (.menuBar menus) p).isSome = Layout.menuBar.contains p
  dropdown : ∀ (menus : MenuBar) (p : Point), pictures (.dropdown menus) p ≠ none →
    ∃ area, menus.dropdownArea = .ok (some area) ∧ area.contains p = true
  cursor : ∀ position p : Point, pictures (.cursor position) p ≠ none →
    (Compositor.cursorRect position).contains p = true

/-- What a content paints in a window. -/
def Pictures.content [WindowContent P] (pictures : Pictures Color) (content : P) (window : Window) :
    Point → Option Color :=
  match WindowContent.draw content window with
  | .ok (_, ops) => pictures.overlay ops
  | .error _ => fun _ => none

/-- The contents keep to their windows, and tell when they change. -/
structure Pictures.Honest (P : Type) [WindowContent P] (pictures : Pictures Color) : Prop where
  /-- Drawing keeps the content and the clip. -/
  draw : ∀ (content : P) (window : Window), window.Sound → ∃ ops : List PaintOp,
    WindowContent.draw content window = .ok (content, ops) ∧ ∀ op ∈ ops, op.keepsClip = true
  inside : ∀ (content : P) (window : Window) (p : Point), window.content.contains p = false →
    pictures.content content window p = none
  title : ∀ (content : P) (window : Window) (title : Title) (p : Point),
    pictures.content content { window with title } p = pictures.content content window p
  click : ∀ (content content' : P) (window : Window) (p : Point),
    WindowContent.click content window p = .ok (content', false) → content' = content
  drag : ∀ (content content' : P) (window : Window) (p : Point),
    WindowContent.drag content window p = .ok (content', false) → content' = content

/-! ## Layers as pictures -/

/-- A content reaches no farther than its window. -/
theorem Window.Sound.frame_of_content {window : Window} {p : Point} (h : window.Sound)
    (inside : window.content.contains p = true) : window.frame.contains p = true := by
  obtain ⟨left, top, right, bottom⟩ := h.frame
  have bar := Window.Sound.barBottom h.frame
  have border : Layout.borderWidth.toInt = 1 := rfl
  have one : (1 : Coord).toInt = 1 := rfl
  rw [Window.content, h.decoration, Decoration.ofFrame] at inside
  rw [Rect.contains_iff_toInt] at inside ⊢
  split at inside
  · rw [Coord.toInt_addSat, bar, one] at inside
    simp only [Rect.inset, Coord.toInt_addSat, Coord.toInt_subSat, border] at inside
    omega
  · simp only [Rect.inset, Coord.toInt_addSat, Coord.toInt_subSat, border] at inside
    omega

variable [WindowContent P] {pictures : Pictures Color} {contents : SlotTable (Option P)}
  {window : Window} {p : Point}

namespace Pictures

/-- What a layer shows of itself: the content over the frame. -/
def look (pictures : Pictures Color) (layer : Window × Option P) (p : Point) : Option Color :=
  (layer.2.bind fun content => pictures.content content layer.1 p).or
    (pictures (.windowFrame layer.1) p)

/-- What layers show, each over the ones before. -/
def stack (pictures : Pictures Color) : List (Window × Option P) → Point → Option Color
  | [], _ => none
  | layer :: rest, p => (pictures.stack rest p).or (pictures.look layer p)

theorem frame_seenAt (faithful : pictures.Faithful) :
    pictures (.windowFrame (window.seenAt p)) p = pictures (.windowFrame window) p := by
  unfold Window.seenAt
  split
  · rfl
  · rename_i outside
    exact faithful.title window _ p (Bool.eq_false_iff.mpr outside)

theorem content_seenAt (honest : pictures.Honest P) (content : P) :
    pictures.content content (window.seenAt p) p = pictures.content content window p := by
  unfold Window.seenAt
  split
  · rfl
  · exact honest.title content window _ p

/-- A content shows nothing outside of its area. -/
theorem content_outside (honest : pictures.Honest P) (outside : window.content.contains p = false)
    (content? : Option P) :
    content?.bind (fun content => pictures.content content window p) = none := by
  cases content? with
  | none => rfl
  | some content => exact honest.inside content window p outside

/-- What is painted of a window is what its layer shows. -/
theorem look_layer (faithful : pictures.Faithful) (honest : pictures.Honest P)
    (sound : window.Sound) (visible : window.isVisible = true) :
    ((window.id.slot?.bind contents.get).bind fun content => pictures.content content window p).or
        (pictures (.windowFrame window) p) =
      (window.layer contents p).bind fun layer => pictures.look layer p := by
  by_cases reached : window.frame.contains p = true
  · rw [Window.layer, visible, reached, Bool.and_self, if_pos rfl, Option.bind_some, look,
      frame_seenAt faithful]
    simp only [content_seenAt honest]
    by_cases inside : window.content.contains p = true
    · rw [if_pos inside]
    · rw [if_neg inside, content_outside honest (Bool.eq_false_iff.mpr inside)]
      rfl
  · rw [Bool.not_eq_true] at reached
    have outside : window.content.contains p = false := by
      apply Bool.eq_false_iff.mpr
      intro inside
      rw [sound.frame_of_content inside] at reached
      cases reached
    rw [Window.layer_of_outside reached, content_outside honest outside,
      faithful.frame window p reached]
    rfl

/-- One window more, over the others. -/
theorem stack_cons (windows : List Window) :
    pictures.stack ((window :: windows).filterMap (Window.layer contents p)) p =
      (pictures.stack (windows.filterMap (Window.layer contents p)) p).or
        ((window.layer contents p).bind fun layer => pictures.look layer p) := by
  rw [List.filterMap_cons]
  cases window.layer contents p with
  | none => rw [Option.bind_none, Option.or_none]
  | some layer => rfl

end Pictures

/-! ## Painting -/

theorem SlotTable.set_get {α : Type} (table : SlotTable α) (slot : Slot) :
    table.set slot (table.get slot) = table := by
  obtain ⟨cells⟩ := table
  exact congrArg SlotTable.mk (Vector.set_getElem_self slot.isLt)

namespace Compositor

/-- Drawing a content leaves the contents as they are. -/
theorem drawContent_eq (contents : SlotTable (Option P)) (honest : pictures.Honest P)
    (sound : window.Sound) :
    ∃ ops : List PaintOp, drawContent contents window = .ok (ops, contents) ∧
      (∀ op ∈ ops, op.keepsClip = true) ∧
      pictures.overlay ops = fun p => (window.id.slot?.bind contents.get).bind fun content =>
        pictures.content content window p := by
  have nothing : ∀ op ∈ ([] : List PaintOp), op.keepsClip = true :=
    fun _ mem => absurd mem List.not_mem_nil
  unfold drawContent
  cases window.id.slot? with
  | none => exact ⟨[], rfl, nothing, rfl⟩
  | some slot =>
    dsimp only [Option.bind_some]
    cases known : contents.get slot with
    | none => exact ⟨[], rfl, nothing, rfl⟩
    | some content =>
      obtain ⟨ops, drawn, plain⟩ := honest.draw content window sound
      refine ⟨ops, ?_, plain, ?_⟩
      · have kept : contents.set slot (some content) = contents := by
          rw [← known, contents.set_get]
        show (WindowContent.draw content window >>= _) = _
        rw [drawn]
        show Except.ok (ops, contents.set slot (some content)) = _
        rw [kept]
      · funext p
        rw [Option.bind_some, Pictures.content, drawn]

/-- The windows that meet a clip are painted as the layers of its pixels. -/
theorem drawWindows_eq (contents : SlotTable (Option P)) (faithful : pictures.Faithful)
    (honest : pictures.Honest P) (clip : Rect) {windows : List Window}
    (sound : ∀ window ∈ windows, window.Sound) :
    ∃ ops : List PaintOp, drawWindows clip windows contents = .ok (ops, contents) ∧
      (∀ op ∈ ops, op.keepsClip = true) ∧ ∀ p, clip.contains p = true →
        pictures.overlay ops p =
          pictures.stack (windows.filterMap (Window.layer contents p)) p := by
  induction windows with
  | nil => exact ⟨[], rfl, fun _ mem => absurd mem List.not_mem_nil, fun _ _ => rfl⟩
  | cons window rest ih =>
    obtain ⟨here, later⟩ := List.forall_mem_cons.mp sound
    obtain ⟨ops, painted, plain, shown⟩ := ih later
    unfold drawWindows
    by_cases met : (window.isVisible && window.frame.intersects clip) = true
    · rw [if_pos met]
      obtain ⟨inside, drawn, plain', laid⟩ := drawContent_eq contents honest here
      refine ⟨.windowFrame window :: inside ++ ops, ?_, ?_, fun p contained => ?_⟩
      · show (drawContent contents window >>= _) = _
        rw [drawn]
        show (drawWindows clip rest contents >>= _) = _
        rw [painted]
        rfl
      · exact List.forall_mem_cons.mpr ⟨rfl, List.forall_mem_append.mpr ⟨plain', plain⟩⟩
      · have visible : window.isVisible = true := (Bool.and_eq_true_iff.mp met).1
        rw [List.cons_append, Pictures.overlay, Pictures.overlay_append, shown p contained, laid,
          Option.or_assoc, Pictures.look_layer faithful honest here visible,
          Pictures.stack_cons]
    · rw [if_neg met]
      refine ⟨ops, painted, plain, fun p contained => ?_⟩
      -- a window that is passed over has no layer within the clip
      have unseen : window.layer contents p = none := by
        refine Window.layer_eq_none_iff.mpr (Bool.eq_false_iff.mpr fun seen => met ?_)
        obtain ⟨visible, reached⟩ := Bool.and_eq_true_iff.mp seen
        rw [visible, Rect.intersects_of_contains reached contained]
        rfl
      rw [shown p contained, Pictures.stack_cons, unseen, Option.bind_none, Option.or_none]

/-! ### Frames -/

variable {c : Compositor P}

/-- What a pixel shows below the overlays: the layers of its windows over the desktop. -/
def ground (pictures : Pictures Color) (c : Compositor P) (p : Point) : Option Color :=
  (pictures.stack (c.windows.layers c.contents p) p).or
    (pictures (.fillPattern Layout.screen c.pattern) p)

/-- The drawing operations of what lies over all windows. -/
def overlaid (c : Compositor P) : List PaintOp :=
  .menuBar c.menus :: (if c.menus.isTracking then [.dropdown c.menus] else []) ++
    (if c.cursorVisible then [.cursor c.cursor] else [])

/-- What a pixel shows of what lies over all windows. -/
def above (pictures : Pictures Color) (c : Compositor P) (p : Point) : Option Color :=
  pictures.overlay c.overlaid p

omit [WindowContent P] in
theorem overlays_eq : c.overlays = .resetClip :: c.overlaid := rfl

omit [WindowContent P] in
theorem overlaid_plain : ∀ op ∈ c.overlaid, op.keepsClip = true := by
  intro op mem
  unfold overlaid at mem
  cases c.menus.isTracking <;> cases c.cursorVisible <;> simp at mem <;> grind [PaintOp.keepsClip]

omit [WindowContent P] in
/-- A repaired rectangle: the desktop under the clip, and a picture over it. -/
theorem pixels_repaired (faithful : pictures.Faithful) (sheet : Sheet Color) (clip : Rect)
    (pattern : DesktopPattern) (picture : Point → Option Color)
    (visible : Layout.screen.contains p = true) :
    some ((({ sheet with clip }.lay (pictures (.fillPattern clip pattern))).lay picture).pixels p) =
      if clip.contains p then (picture p).or (pictures (.fillPattern Layout.screen pattern) p)
      else some (sheet.pixels p) := by
  obtain ⟨color, filled⟩ := faithful.fill pattern p
  let bare : Sheet Color := { sheet with clip }
  let desk : Sheet Color := bare.lay (pictures (.fillPattern clip pattern))
  show some ((desk.lay picture).pixels p) = _
  by_cases inside : clip.contains p = true
  · have under : desk.pixels p = (pictures (.fillPattern clip pattern) p).getD (bare.pixels p) :=
      Sheet.pixels_lay_inside inside
    have upper : (desk.lay picture).pixels p = (picture p).getD (desk.pixels p) :=
      Sheet.pixels_lay_inside inside
    rw [if_pos inside, upper, under, filled clip inside, filled Layout.screen visible]
    cases picture p <;> rfl
  · have outside : clip.contains p = false := Bool.eq_false_iff.mpr inside
    have under : desk.pixels p = sheet.pixels p := Sheet.pixels_lay_outside outside
    have upper : (desk.lay picture).pixels p = desk.pixels p := Sheet.pixels_lay_outside outside
    rw [if_neg inside, upper, under]

/-- Repairing rectangles makes their pixels show the ground. -/
theorem drawRects_eq (contents : SlotTable (Option P)) (faithful : pictures.Faithful)
    (honest : pictures.Honest P) (pattern : DesktopPattern) {windows : List Window}
    (rects : List Rect)
    (sound : ∀ window ∈ windows, window.Sound) :
    ∃ ops : List PaintOp, drawRects pattern windows rects contents = .ok (ops, contents) ∧
      ∀ (sheet : Sheet Color) (p : Point), Layout.screen.contains p = true →
        some ((sheet.paintAll pictures ops).pixels p) =
          if rects.any (·.contains p) then
            (pictures.stack (windows.filterMap (Window.layer contents p)) p).or
              (pictures (.fillPattern Layout.screen pattern) p)
          else some (sheet.pixels p) := by
  induction rects with
  | nil => exact ⟨[], rfl, fun _ _ _ => rfl⟩
  | cons clip rest ih =>
    obtain ⟨later, painted, shown⟩ := ih
    obtain ⟨inside, drawn, plain, laid⟩ :=
      drawWindows_eq contents faithful honest clip sound
    refine ⟨.setClip clip :: .fillPattern clip pattern :: inside ++ later, ?_, ?_⟩
    · show (drawWindows clip windows contents >>= _) = _
      rw [drawn]
      show (drawRects pattern windows rest contents >>= _) = _
      rw [painted]
      rfl
    · intro sheet p visible
      have begun : sheet.paintAll pictures (.setClip clip :: .fillPattern clip pattern :: inside ++
          later) = (({ sheet with clip }.lay (pictures (.fillPattern clip pattern))).lay
            (pictures.overlay inside)).paintAll pictures later := by
        rw [← Sheet.paintAll_plain plain, ← Sheet.paintAll_append]
        rfl
      rw [begun, shown _ p visible, pixels_repaired faithful sheet clip pattern _ visible,
        List.any_cons]
      -- a point in several rectangles is painted several times, each time with the same result
      by_cases contained : clip.contains p = true
      · rw [laid p contained, contained, Bool.true_or, if_pos rfl, ite_self]
      · rw [Bool.not_eq_true] at contained
        rw [contained, Bool.false_or]
        rfl

/-- Painting shows the ground at the damaged pixels and the overlays everywhere, and leaves all
other pixels alone. -/
theorem paint_pixels (faithful : pictures.Faithful) (honest : pictures.Honest P)
    (sound : c.windows.Sound) :
    ∃ ops : List PaintOp, c.paint = .ok (ops, { c with windows := c.windows.endUpdate }) ∧
      ∀ (sheet : Sheet Color) (p : Point), Layout.screen.contains p = true →
        some ((sheet.paintAll pictures ops).pixels p) =
          (c.above pictures p).or
            (if c.windows.damage.covers p then c.ground pictures p else some (sheet.pixels p)) := by
  obtain ⟨ops, drawn, shown⟩ := drawRects_eq c.contents faithful honest c.pattern
    c.windows.damage.rects fun window mem => sound.of_mem_backToFront mem
  refine ⟨ops ++ c.overlays, ?_, fun sheet p visible => ?_⟩
  · show (drawRects c.pattern c.windows.backToFront c.windows.damage.rects c.contents >>= _) = _
    rw [drawn]
    rfl
  · let repaired : Sheet Color := { sheet.paintAll pictures ops with clip := Layout.screen }
    have last : sheet.paintAll pictures (ops ++ c.overlays) = repaired.lay (c.above pictures) := by
      rw [Sheet.paintAll_append, overlays_eq]
      exact Sheet.paintAll_plain overlaid_plain
    have upper : (repaired.lay (c.above pictures)).pixels p =
        (c.above pictures p).getD (repaired.pixels p) := Sheet.pixels_lay_inside visible
    rw [last, upper]
    cases c.above pictures p with
    | none => exact shown sheet p visible
    | some color => rfl

end Compositor

end TwinDesk
