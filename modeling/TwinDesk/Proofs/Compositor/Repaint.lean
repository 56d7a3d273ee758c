import TwinDesk.Proofs.Compositor.Operations
import TwinDesk.Proofs.Compositor.Painting

/-!
# Repairing the damage is enough

Between two frames anything may happen to the compositor, in any order. Whatever changes on the
screen is reported as damage, so that a frame that repairs the damage shows what a frame painted
from scratch would show.

* `Compositor.Edit` — what may happen between two frames.
* `Compositor.Shown` — what holds of the screen at all times.
* `Compositor.Edit.reported` — every edit reports what it changes.
* `incremental_repaint_eq_full_repaint` — the screen after every frame.
-/

namespace TwinDesk

namespace Compositor

variable {Color P : Type}

/-! ## Edits -/

/-- What may happen to the compositor between two frames. Menus are built while none is open. -/
inductive Edit (P : Type) where
  | windows (edit : Pool.Edit)
  | openWindow (frame : Rect) (title : String) (style : WindowStyle) (flags : WindowFlags)
  | closeWindow (id : WindowId)
  | attach (id : WindowId) (content : P)
  | click (id : WindowId) (p : Point)
  | drag (id : WindowId) (p : Point)
  | moveCursor (p : Point)
  | setCursorVisible (visible : Bool)
  | setPattern (pattern : DesktopPattern)
  | menuMouseDown (p : Point)
  | menuMouseMove (p : Point)
  | menuMouseUp
  | buildMenus (menus : MenuBar)
  | reset

/-- The compositor after an edit, whatever the edit answers. -/
def edit [WindowContent P] (c : Compositor P) : Edit P → Checked (Compositor P)
  | .windows edit => .ok { c with windows := edit.run c.windows }
  | .openWindow frame title style flags => .ok (c.openWindow frame title style flags).2
  | .closeWindow id => .ok (c.closeWindow id).2
  | .attach id content => .ok (c.attach id content).2
  | .click id p => (c.click id p).map (·.2)
  | .drag id p => (c.drag id p).map (·.2)
  | .moveCursor p => .ok (c.moveCursor p)
  | .setCursorVisible visible => .ok (c.setCursorVisible visible)
  | .setPattern pattern => .ok (c.setPattern pattern)
  | .menuMouseDown p => (c.menuMouseDown p).map (·.2)
  | .menuMouseMove p => c.menuMouseMove p
  | .menuMouseUp => c.menuMouseUp.map (·.2)
  | .buildMenus menus => .ok (if c.menus.isTracking then c else { c with menus := menus.close })
  | .reset => .ok .initial

/-- What holds of the windows at all times. -/
structure Regular (c : Compositor P) : Prop where
  sound : c.windows.Sound
  order : c.windows.order.WellFormed

theorem regular_initial : (initial : Compositor P).Regular :=
  ⟨Pool.sound_empty.of_slots rfl, .empty⟩

theorem Regular.of_leadsTo {c c' : Compositor P} (h : c.Regular)
    (leads : c.windows.LeadsTo c'.windows) : c'.Regular :=
  ⟨leads.sound h.sound, leads.wellFormed h.order⟩

/-! ## What an edit has to report -/

variable [WindowContent P] {pictures : Pictures Color} {c c' : Compositor P} {p : Point}

omit [WindowContent P] in
/-- A pixel shows nothing of the overlays if none of them paints it. -/
theorem above_eq_none_iff : c.above pictures p = none ↔
    pictures (.menuBar c.menus) p = none ∧
      (c.menus.isTracking = true → pictures (.dropdown c.menus) p = none) ∧
      (c.cursorVisible = true → pictures (.cursor c.cursor) p = none) := by
  unfold above overlaid
  cases c.menus.isTracking <;> cases c.cursorVisible <;>
    simp [Pictures.overlay, and_assoc, and_comm]

/-- A pixel that the next frame leaves to what is on the screen shows what it showed before. -/
def Reported (pictures : Pictures Color) (c c' : Compositor P) : Prop :=
  ∀ p, Layout.screen.contains p = true → c'.windows.damage.covers p = false →
    c'.above pictures p = none →
      c.windows.damage.covers p = false ∧ c.above pictures p = none ∧
        c'.ground pictures p = c.ground pictures p

theorem Reported.rfl : Reported pictures c c :=
  fun _ _ clean bare => ⟨clean, bare, by rfl⟩

theorem ground_invalidate (rect : Rect) :
    (c.invalidate rect).ground pictures p = c.ground pictures p := by
  rw [invalidate, ground, Pool.layers_invalidate, ground]

omit [WindowContent P] in
theorem above_invalidate (rect : Rect) :
    (c.invalidate rect).above pictures p = c.above pictures p := by
  rw [invalidate, above, overlaid, above, overlaid]

/-- Reporting a rectangle settles the pixels inside of it. -/
theorem reported_invalidate {rect : Rect}
    (same : ∀ p, Layout.screen.contains p = true → rect.contains p = false →
      c'.windows.damage.covers p = false → c'.above pictures p = none →
        c.windows.damage.covers p = false ∧ c.above pictures p = none ∧
          c'.ground pictures p = c.ground pictures p) :
    Reported pictures c (c'.invalidate rect) := by
  intro p visible clean bare
  rw [above_invalidate] at bare
  rw [ground_invalidate]
  rw [invalidate] at clean
  obtain ⟨clean, outside⟩ := Pool.clean_invalidate visible clean
  exact same p visible outside clean bare

/-- Edits of the windows alone. -/
theorem reported_windows {windows : Pool}
    (spared : ∀ p, Layout.screen.contains p = true →
      Pool.Spared c.contents p c.windows windows) :
    Reported pictures c { c with windows } := by
  intro p visible clean bare
  obtain ⟨clean, same⟩ := spared p visible clean
  refine ⟨clean, bare, ?_⟩
  show (pictures.stack (windows.layers c.contents p) p).or _ = _
  rw [same]
  rfl

/-- Edits of one content, where it does not reach the pixels that are left alone. -/
theorem ground_withContent (regular : c.Regular) {slot : Slot} (value : Option P)
    (apart : ∀ window, c.windows.slots.get slot = some window →
      window.frame.contains p = true → window.content.contains p = false) :
    { c with contents := c.contents.set slot value }.ground pictures p = c.ground pictures p := by
  have same : c.windows.layers (c.contents.set slot value) p = c.windows.layers c.contents p := by
    apply Pool.layers_contents regular.sound
    intro other window known reached inside
    apply SlotTable.get_set_of_ne
    rintro rfl
    rw [apart window known reached] at inside
    cases inside
  show (pictures.stack (c.windows.layers (c.contents.set slot value) p) p).or _ = _
  rw [same]
  rfl

/-! ### Windows and contents -/

theorem reported_closeWindow (regular : c.Regular) (id : WindowId) :
    Reported pictures c (c.closeWindow id).2 := by
  have freed : Reported pictures c { c with windows := (c.windows.free id).2 } :=
    reported_windows fun p visible => Pool.spared_free visible regular.order id
  have sound := regular.sound.free id
  have order := Pool.wellFormed_free regular.order id
  unfold closeWindow
  rcases eq : c.windows.free id with ⟨_ | ⟨⟨⟩⟩, windows⟩
  · rw [eq] at freed
    exact freed
  · rw [eq] at freed
    rw [eq] at sound order
    cases named : id.slot? with
    | none => exact freed
    | some slot =>
      have regular' : Regular { c with windows } := ⟨sound, order⟩
      intro p visible clean bare
      obtain ⟨clean, bare', same⟩ := freed p visible clean bare
      refine ⟨clean, bare', Eq.trans (ground_withContent regular' none ?_) same⟩
      intro window known
      have gone : windows.slots.get slot = none := Pool.get_free named eq
      have known : windows.slots.get slot = some window := known
      rw [gone] at known
      cases known

theorem reported_attach (regular : c.Regular) (id : WindowId) (content : P) :
    Reported pictures c (c.attach id content).2 := by
  unfold attach
  split
  · exact .rfl
  · rename_i slot window found
    have known := (Pool.find?_eq_some_iff.mp found).2
    refine reported_invalidate fun p _ outside clean bare => ⟨clean, bare, ?_⟩
    apply ground_withContent regular
    intro other known' reached
    obtain rfl := Option.some.inj (known.symm.trans known')
    rw [outside] at reached
    cases reached

/-- Input for a content, which tells whether it has changed. -/
theorem reported_forward (regular : c.Regular) {id : WindowId}
    {input : P → Window → Checked (P × Bool)} {result : Except DesktopError Bool}
    (honest : ∀ content content' window, input content window = .ok (content', false) →
      content' = content) (eq : c.forward id input = .ok (result, c')) :
    Reported pictures c c' := by
  unfold forward at eq
  split at eq
  · cases eq
    exact .rfl
  · rename_i slot window found
    have known := (Pool.find?_eq_some_iff.mp found).2
    split at eq
    · cases eq
      exact .rfl
    · rename_i content attached
      obtain ⟨⟨content', changed⟩, handled, eq⟩ := Checked.bind_eq_ok_iff.mp eq
      cases eq
      cases changed with
      | false =>
        have kept : c.contents.set slot (some content') = c.contents := by
          rw [honest content content' window handled, ← attached, SlotTable.set_get]
        rw [kept]
        exact .rfl
      | true =>
        refine reported_invalidate fun p _ outside clean bare => ⟨clean, bare, ?_⟩
        apply ground_withContent regular
        intro other known' _
        obtain rfl := Option.some.inj (known.symm.trans known')
        exact outside

/-! ### Cursor, desktop and menus -/

omit [WindowContent P] in
theorem cursor_eq_none (faithful : pictures.Faithful) {position : Point}
    (outside : (cursorRect position).contains p = false) :
    pictures (.cursor position) p = none := by
  by_contra painted
  rw [faithful.cursor position p painted] at outside
  cases outside

theorem reported_moveCursor (faithful : pictures.Faithful) (position : Point) :
    Reported pictures c (c.moveCursor position) := by
  apply reported_invalidate
  intro p visible _ clean bare
  have moved :
      Reported pictures c ({ c with cursor := position }.invalidate (cursorRect c.cursor)) := by
    refine reported_invalidate fun p _ outside clean bare => ⟨clean, ?_, by rfl⟩
    obtain ⟨bar, dropdown, -⟩ := above_eq_none_iff.mp bare
    exact above_eq_none_iff.mpr ⟨bar, dropdown, fun _ => cursor_eq_none faithful outside⟩
  exact moved p visible clean bare

theorem reported_setCursorVisible (faithful : pictures.Faithful) (shown : Bool) :
    Reported pictures c (c.setCursorVisible shown) := by
  unfold setCursorVisible
  split
  · exact .rfl
  · refine reported_invalidate fun p _ outside clean bare => ⟨clean, ?_, by rfl⟩
    obtain ⟨bar, dropdown, -⟩ := above_eq_none_iff.mp bare
    exact above_eq_none_iff.mpr ⟨bar, dropdown, fun _ => cursor_eq_none faithful outside⟩

omit [WindowContent P] in
/-- The menu bar hides the rest of the screen's band. -/
theorem desktop_of_bare (faithful : pictures.Faithful) {menus : MenuBar}
    (visible : Layout.screen.contains p = true) (bare : pictures (.menuBar menus) p = none) :
    Layout.desktop.contains p = true := by
  have outside := faithful.menuBar menus p
  rw [bare, Option.isSome_none] at outside
  have outside : ¬ Layout.menuBar.contains p = true := Bool.eq_false_iff.mp outside.symm
  rw [Rect.contains_iff_toInt] at visible outside ⊢
  have height : Layout.menuBar.bottom.toInt = Layout.desktop.top.toInt := rfl
  obtain ⟨left, right, top, bottom⟩ := visible
  refine ⟨left, right, ?_, bottom⟩
  by_contra above
  exact outside ⟨left, right, top, by omega⟩

theorem reported_setPattern (faithful : pictures.Faithful) (pattern : DesktopPattern) :
    Reported pictures c (c.setPattern pattern) := by
  unfold setPattern
  split
  · exact .rfl
  · apply reported_invalidate
    intro p visible outside _ bare
    rw [desktop_of_bare faithful visible (above_eq_none_iff.mp bare).1] at outside
    cases outside

omit [WindowContent P] in
/-- Whether the menu bar reaches a pixel does not depend on the menus. -/
theorem menuBar_eq_none_iff (faithful : pictures.Faithful) (menus menus' : MenuBar) :
    pictures (.menuBar menus) p = none ↔ pictures (.menuBar menus') p = none := by
  rw [← Option.isNone_iff_eq_none, ← Option.isNone_iff_eq_none, ← Option.not_isSome,
    ← Option.not_isSome, faithful.menuBar, faithful.menuBar]

/-- The dropdown before and after a tracking step is reported. -/
theorem reported_trackMenu (faithful : pictures.Faithful) {α : Type} {result : α}
    {step : MenuBar → Checked (α × MenuBar)} (eq : c.trackMenu step = .ok (result, c')) :
    Reported pictures c c' := by
  obtain ⟨before, area, eq⟩ := Checked.bind_eq_ok_iff.mp eq
  obtain ⟨⟨result', menus⟩, stepped, eq⟩ := Checked.bind_eq_ok_iff.mp eq
  obtain ⟨after, area', eq⟩ := Checked.bind_eq_ok_iff.mp eq
  cases eq
  intro p visible clean bare
  obtain ⟨clean, outside⟩ := Damage.not_covers_foldl_invalidate visible clean
  obtain ⟨bar, -, cursor⟩ := above_eq_none_iff.mp bare
  refine ⟨clean, above_eq_none_iff.mpr ⟨?_, fun _ => ?_, cursor⟩, by rfl⟩
  · exact (menuBar_eq_none_iff faithful _ _).mp bar
  · by_contra painted
    obtain ⟨rect, opened, inside⟩ := faithful.dropdown c.menus p painted
    obtain rfl : before = some rect := Except.ok.inj (area.symm.trans opened)
    have outside := outside rect
      (List.mem_filterMap.mpr ⟨some rect, List.mem_cons_self .., rfl⟩)
    rw [outside] at inside
    cases inside

theorem reported_buildMenus (faithful : pictures.Faithful) (closed : c.menus.isTracking = false)
    (menus : MenuBar) : Reported pictures c { c with menus := menus.close } := by
  intro p visible clean bare
  obtain ⟨bar, -, cursor⟩ := above_eq_none_iff.mp bare
  refine ⟨clean, above_eq_none_iff.mpr ⟨?_, fun opened => ?_, cursor⟩, by rfl⟩
  · exact (menuBar_eq_none_iff faithful _ _).mp bar
  · rw [closed] at opened
    cases opened

/-! ### All edits -/

/-- Every edit reports what it changes. -/
theorem Edit.reported (faithful : pictures.Faithful) (honest : pictures.Honest P)
    (regular : c.Regular) (e : Edit P) (eq : c.edit e = .ok c') : Reported pictures c c' := by
  cases e with
  | windows edit =>
    cases eq
    exact reported_windows fun p visible => edit.spared visible regular.order
  | openWindow frame title style flags =>
    cases eq
    exact reported_windows fun p visible =>
      Pool.spared_allocate visible regular.order frame title style flags
  | closeWindow id =>
    cases eq
    exact reported_closeWindow regular id
  | attach id content =>
    cases eq
    exact reported_attach regular id content
  | click id p =>
    obtain ⟨⟨result, c''⟩, done, rfl⟩ := Checked.map_eq_ok_iff.mp eq
    exact reported_forward regular (fun _ _ _ => honest.click _ _ _ p) done
  | drag id p =>
    obtain ⟨⟨result, c''⟩, done, rfl⟩ := Checked.map_eq_ok_iff.mp eq
    exact reported_forward regular (fun _ _ _ => honest.drag _ _ _ p) done
  | moveCursor p =>
    cases eq
    exact reported_moveCursor faithful p
  | setCursorVisible shown =>
    cases eq
    exact reported_setCursorVisible faithful shown
  | setPattern pattern =>
    cases eq
    exact reported_setPattern faithful pattern
  | menuMouseDown p =>
    obtain ⟨⟨result, c''⟩, done, rfl⟩ := Checked.map_eq_ok_iff.mp eq
    exact reported_trackMenu faithful done
  | menuMouseMove p =>
    obtain ⟨⟨result, c''⟩, tracked, eq⟩ := Checked.bind_eq_ok_iff.mp eq
    cases eq
    exact reported_trackMenu faithful tracked
  | menuMouseUp =>
    obtain ⟨⟨result, c''⟩, done, rfl⟩ := Checked.map_eq_ok_iff.mp eq
    exact reported_trackMenu faithful done
  | buildMenus menus =>
    cases eq
    split
    · exact .rfl
    · rename_i closed
      exact reported_buildMenus faithful (Bool.eq_false_iff.mpr closed) menus
  | reset =>
    cases eq
    intro p visible clean
    -- the whole screen is marked
    obtain ⟨-, outside⟩ := Pool.clean_invalidate visible clean
    rw [visible] at outside
    cases outside

/-- Whatever an edit does, it changes the windows by operations of the pool. -/
theorem Edit.leadsTo (e : Edit P) (edited : c.edit e = .ok c') :
    c.windows.LeadsTo c'.windows := by
  cases e with
  | windows edit =>
    cases edited
    exact .edit edit
  | openWindow frame title style flags =>
    cases edited
    exact leadsTo_openWindow frame title style flags
  | closeWindow id =>
    cases edited
    exact leadsTo_closeWindow id
  | attach id content =>
    cases edited
    exact leadsTo_attach id content
  | click id p =>
    obtain ⟨result, clicked, rfl⟩ := Checked.map_eq_ok_iff.mp edited
    exact leadsTo_forward id _ result clicked
  | drag id p =>
    obtain ⟨result, dragged, rfl⟩ := Checked.map_eq_ok_iff.mp edited
    exact leadsTo_forward id _ result dragged
  | moveCursor p =>
    cases edited
    exact leadsTo_moveCursor p
  | setCursorVisible visible =>
    cases edited
    exact leadsTo_setCursorVisible visible
  | setPattern pattern =>
    cases edited
    exact leadsTo_setPattern pattern
  | menuMouseDown p =>
    obtain ⟨result, tracked, rfl⟩ := Checked.map_eq_ok_iff.mp edited
    exact leadsTo_trackMenu _ result tracked
  | menuMouseMove p => exact leadsTo_menuMouseMove p c' edited
  | menuMouseUp =>
    obtain ⟨result, tracked, rfl⟩ := Checked.map_eq_ok_iff.mp edited
    exact leadsTo_trackMenu _ result tracked
  | buildMenus menus =>
    cases edited
    split
    · exact .rfl
    · exact .rfl
  | reset =>
    cases edited
    exact ⟨[.perform .clear, .perform (.edit (.invalidate Layout.screen))], rfl⟩

/-- Every edit keeps the windows regular. -/
theorem Edit.regular (e : Edit P) (regular : c.Regular) (edited : c.edit e = .ok c') :
    c'.Regular :=
  regular.of_leadsTo (e.leadsTo edited)

/-! ## Histories -/

/-- The compositor and the screen after any edits and frames, from any screen on. -/
inductive Reached (pictures : Pictures Color) : Compositor P → (Point → Color) → Prop where
  | start (pixels : Point → Color) : Reached pictures .initial pixels
  | edit {c c' : Compositor P} {pixels : Point → Color} (e : Edit P)
    (before : Reached pictures c pixels) (edited : c.edit e = .ok c') : Reached pictures c' pixels
  | paint {c c' : Compositor P} {sheet : Sheet Color} {ops : List PaintOp}
    (before : Reached pictures c sheet.pixels) (painted : c.paint = .ok (ops, c')) :
    Reached pictures c' (sheet.paintAll pictures ops).pixels

/-- A pixel that is neither damaged nor painted by an overlay shows the ground. -/
def Shown (pictures : Pictures Color) (c : Compositor P) (pixels : Point → Color) : Prop :=
  ∀ p, Layout.screen.contains p = true → c.windows.damage.covers p = false →
    c.above pictures p = none → some (pixels p) = c.ground pictures p

/-- The compositor with the whole screen damaged. -/
def damaged (c : Compositor P) : Compositor P :=
  { c with windows.damage := ⟨[Layout.screen], true⟩ }

/-- A frame shows the overlays over the ground. -/
theorem Shown.painted (faithful : pictures.Faithful) (honest : pictures.Honest P)
    (regular : c.Regular) {sheet : Sheet Color} (shown : Shown pictures c sheet.pixels) :
    ∃ ops : List PaintOp, c.paint = .ok (ops, { c with windows := c.windows.endUpdate }) ∧
      ∀ p, Layout.screen.contains p = true →
        some ((sheet.paintAll pictures ops).pixels p) =
          (c.above pictures p).or (c.ground pictures p) := by
  obtain ⟨ops, painted, pixels⟩ := paint_pixels faithful honest regular.sound
  refine ⟨ops, painted, fun p visible => ?_⟩
  rw [pixels sheet p visible]
  cases covered : c.windows.damage.covers p with
  | true => rfl
  | false =>
    cases bare : c.above pictures p with
    | none => exact shown p visible covered bare
    | some color => rfl

/-- Whatever has happened, the screen shows what it should outside of the damage. -/
theorem Reached.shown (faithful : pictures.Faithful) (honest : pictures.Honest P)
    {pixels : Point → Color} (reached : Reached pictures c pixels) :
    c.Regular ∧ Shown pictures c pixels := by
  induction reached with
  | start pixels =>
    refine ⟨regular_initial, fun p visible clean => ?_⟩
    obtain ⟨-, outside⟩ := Pool.clean_invalidate visible clean
    rw [visible] at outside
    cases outside
  | edit e before edited ih =>
    obtain ⟨regular, shown⟩ := ih
    refine ⟨e.regular regular edited, fun p visible clean bare => ?_⟩
    obtain ⟨clean, bare, same⟩ := e.reported faithful honest regular edited p visible clean bare
    rw [same]
    exact shown p visible clean bare
  | @paint c c' sheet ops before painted ih =>
    obtain ⟨regular, shown⟩ := ih
    obtain ⟨ops', painted', pixels⟩ := shown.painted faithful honest regular
    rw [painted] at painted'
    cases painted'
    refine ⟨⟨regular.sound.of_slots rfl, regular.order⟩, fun p visible _ bare => ?_⟩
    have bare : c.above pictures p = none := bare
    rw [pixels p visible, bare]
    rfl

/-- After any edits and frames, the next frame, which repairs the damage only, shows what a frame
shows that is painted from scratch on any other screen. -/
theorem incremental_repaint_eq_full_repaint (faithful : pictures.Faithful)
    (honest : pictures.Honest P) {sheet : Sheet Color}
    (reached : Reached pictures c sheet.pixels) :
    ∃ ops c' full c'', c.paint = .ok (ops, c') ∧ c.damaged.paint = .ok (full, c'') ∧
      ∀ (other : Sheet Color) (p : Point), Layout.screen.contains p = true →
        (sheet.paintAll pictures ops).pixels p = (other.paintAll pictures full).pixels p := by
  obtain ⟨regular, shown⟩ := reached.shown faithful honest
  obtain ⟨ops, painted, pixels⟩ := shown.painted faithful honest regular
  have sound : c.damaged.windows.Sound := regular.sound.of_slots (by rfl)
  obtain ⟨full, repainted, pixels'⟩ := paint_pixels faithful honest sound
  refine ⟨ops, _, full, _, painted, repainted, fun other p visible => Option.some.inj ?_⟩
  have covered : c.damaged.windows.damage.covers p = true := by
    rw [Damage.covers_iff]
    exact ⟨Layout.screen, List.mem_singleton_self _, visible⟩
  rw [pixels p visible, pixels' other p visible, covered]
  rfl

end Compositor

/-! ## A painter in black and white -/

/-- A content that fills its window, and is switched by clicks. -/
structure Lamp where
  lit : Bool

instance : WindowContent Lamp where
  draw lamp window :=
    .ok (lamp, [.fillRect window.content (if lamp.lit then .white else .black)])
  click lamp _ _ := .ok (⟨!lamp.lit⟩, true)
  drag lamp _ _ := .ok (lamp, false)

namespace Pictures

/-- The pixels of an area, all of one color. -/
def plate (area : Rect) (color : Bool) (p : Point) : Option Bool :=
  if area.contains p then some color else none

/-- Every operation as a plate. -/
def plates : Pictures Bool
  | .fillPattern area pattern, p => plate area (pattern.isSet p.x p.y) p
  | .fillRect area shade, p => plate area (shade == .black) p
  | .windowFrame window, p => plate window.frame window.isActive p
  | .menuBar _, p => plate Layout.menuBar false p
  | .dropdown menus, p =>
    match menus.dropdownArea with
    | .ok (some area) => plate area true p
    | _ => none
  | .cursor position, p => plate (Compositor.cursorRect position) true p
  | .text _ _, _ | .setClip _, _ | .resetClip, _ => none

theorem plate_outside {area : Rect} {p : Point} (outside : area.contains p = false) (color : Bool) :
    plate area color p = none :=
  if_neg (Bool.eq_false_iff.mp outside)

theorem contains_of_plate {area : Rect} {p : Point} {color : Bool}
    (painted : plate area color p ≠ none) : area.contains p = true := by
  by_contra outside
  exact painted (if_neg outside)

theorem plates_faithful : plates.Faithful where
  fill pattern p := ⟨pattern.isSet p.x p.y, fun _ inside => if_pos inside⟩
  frame _ _ outside := plate_outside outside _
  title _ _ _ _ := rfl
  menuBar menus p := by
    show (plate Layout.menuBar false p).isSome = Layout.menuBar.contains p
    unfold plate
    cases Layout.menuBar.contains p <;> rfl
  dropdown menus p painted := by
    rw [plates] at painted
    split at painted
    · rename_i area eq
      exact ⟨area, eq, contains_of_plate painted⟩
    · exact absurd rfl painted
  cursor _ _ painted := contains_of_plate painted

theorem plates_honest : Pictures.Honest Lamp plates where
  draw lamp window _ := by
    refine ⟨_, rfl, fun op mem => ?_⟩
    rw [List.mem_singleton.mp mem]
    rfl
  inside lamp window p outside := plate_outside outside _
  title _ _ _ _ := rfl
  click _ _ _ _ eq := by cases eq
  drag _ _ _ _ eq := by
    cases eq
    rfl

end Pictures

namespace Compositor

/-- A lamp is opened, painted and covered by the cursor. -/
theorem incremental_repaint_eq_full_repaint_lamp :
    ∃ (c : Compositor Lamp) (sheet : Sheet Bool), Reached Pictures.plates c sheet.pixels ∧
      ∃ ops c' full c'', c.paint = .ok (ops, c') ∧ c.damaged.paint = .ok (full, c'') ∧
        ∀ (other : Sheet Bool) (p : Point), Layout.screen.contains p = true →
          (sheet.paintAll Pictures.plates ops).pixels p =
            (other.paintAll Pictures.plates full).pixels p := by
  let sheet : Sheet Bool := ⟨fun _ => true, Layout.screen⟩
  have begun : Reached Pictures.plates (initial : Compositor Lamp) sheet.pixels := .start _
  have opened := Reached.edit (.openWindow ⟨40, 50, 140, 150⟩ "Lamp" .document .visible) begun rfl
  have attached := Reached.edit (.attach ⟨0⟩ ⟨true⟩) opened rfl
  obtain ⟨regular, shown⟩ := attached.shown Pictures.plates_faithful Pictures.plates_honest
  obtain ⟨ops, painted, -⟩ := shown.painted Pictures.plates_faithful Pictures.plates_honest regular
  have covered := Reached.edit (.moveCursor ⟨60, 80⟩) (attached.paint painted) rfl
  exact ⟨_, sheet.paintAll Pictures.plates ops, covered,
    incremental_repaint_eq_full_repaint Pictures.plates_faithful Pictures.plates_honest covered⟩

end Compositor

end TwinDesk
