import TwinDesk.Desktop.Desktop
import TwinDesk.Proofs.Compositor.Sound

/-!
# A sound desktop

No operation on the desktop faults, whatever coordinates and ids come from outside: the stand-in
applications keep their dots and texts small, so that the invariant of the compositor applies.

* `StandIn.Good`, `StandIn.keepsGood` — dots close to the content area, short captions.
* `Desktop.Sound`, `Desktop.pointerEvent_yields`, `Desktop.fresh_yields` — the invariant of the
  desktop, for every pointer event, and at the start.
-/

namespace TwinDesk

/-! ## Stand-in applications -/

/-- What holds of the contents of the stand-in applications at all times. -/
def StandIn.Good : StandIn → Prop
  | .sketch s => ∀ dot ∈ s.dots,
      (0 ≤ dot.x.toInt ∧ dot.x.toInt ≤ 700) ∧ 0 ≤ dot.y.toInt ∧ dot.y.toInt ≤ 700
  | .caption s => s.text.length ≤ 100

namespace Sketch

/-- The square is made of the pixels around the dot. -/
theorem square_yields {corner dot : Point} (near : corner.Within 321)
    (small : (0 ≤ dot.x.toInt ∧ dot.x.toInt ≤ 700) ∧ 0 ≤ dot.y.toInt ∧ dot.y.toInt ≤ 700) :
    Yields (square corner dot) fun area =>
      (area.left.toInt = corner.x.toInt + dot.x.toInt - 1 ∧
        area.top.toInt = corner.y.toInt + dot.y.toInt - 1) ∧
      area.right.toInt = corner.x.toInt + dot.x.toInt + 2 ∧
        area.bottom.toInt = corner.y.toInt + dot.y.toInt + 2 := by
  obtain ⟨⟨left, right⟩, low, high⟩ := near
  have one : (1 : Coord).toInt = 1 := rfl
  have two : (2 : Coord).toInt = 2 := rfl
  refine (Coord.add_yields (by omega) (by omega)).bind ?_
  intro x eqX
  refine (Coord.add_yields (by omega) (by omega)).bind ?_
  intro y eqY
  refine (Coord.sub_yields (by omega) (by omega)).bind ?_
  intro l eqL
  refine (Coord.sub_yields (by omega) (by omega)).bind ?_
  intro t eqT
  refine (Coord.add_yields (by omega) (by omega)).bind ?_
  intro r eqR
  refine (Coord.add_yields (by omega) (by omega)).bind ?_
  intro b eqB
  rw [one] at eqL eqT
  rw [two] at eqR eqB
  exact .pure ⟨⟨eqL.trans (by rw [eqX]), eqT.trans (by rw [eqY])⟩,
    eqR.trans (by rw [eqX]), eqB.trans (by rw [eqY])⟩

theorem addDot_yields {sketch : Sketch} {window : Window} (p : Point)
    (good : StandIn.Good (.sketch sketch)) (sound : window.Sound) :
    Yields (addDot sketch window p) fun result => StandIn.Good (.sketch result.1) := by
  obtain ⟨left, top, right, bottom⟩ := sound.content
  unfold Coord.Within at left top right bottom
  unfold addDot
  split
  · exact .pure good
  · rename_i inside
    simp only [Bool.or_eq_true, Bool.not_eq_true', decide_eq_true_eq, not_or,
      Bool.not_eq_false, Rect.contains_iff, Int16.le_iff_toInt_le, Int16.lt_iff_toInt_lt] at inside
    refine (Coord.sub_yields (by omega) (by omega)).bind ?_
    intro x eqX
    refine (Coord.sub_yields (by omega) (by omega)).bind fun y eqY => .pure ?_
    intro dot mem
    rcases List.mem_append.mp mem with old | new
    · exact good dot old
    · obtain rfl := List.mem_singleton.mp new
      show (0 ≤ x.toInt ∧ x.toInt ≤ 700) ∧ 0 ≤ y.toInt ∧ y.toInt ≤ 700
      omega

theorem draw_yields {sketch : Sketch} {window : Window} (good : StandIn.Good (.sketch sketch))
    (sound : window.Sound) :
    Yields (WindowContent.draw sketch window) fun result =>
      result.1 = sketch ∧ ∀ op ∈ result.2, op.Sound := by
  have corner := Point.within_mk sound.content.left sound.content.top
  have squares := Yields.mapM fun dot mem =>
    (square_yields corner (good dot mem)).mono fun _ _ => trivial
  refine squares.bind fun areas _ => .pure ⟨rfl, fun op mem => ?_⟩
  obtain ⟨area, -, rfl⟩ := List.mem_map.mp mem
  trivial

end Sketch

theorem Caption.draw_yields {caption : Caption} {window : Window}
    (good : StandIn.Good (.caption caption)) (sound : window.Sound) :
    Yields (WindowContent.draw caption window) fun result =>
      result.1 = caption ∧ ∀ op ∈ result.2, op.Sound := by
  obtain ⟨left, top, -, -⟩ := sound.content
  unfold Coord.Within at left top
  have margin : (8 : Coord).toInt = 8 := rfl
  refine (Coord.add_yields (by omega) (by omega)).bind ?_
  intro x _
  refine (Coord.add_yields (by omega) (by omega)).bind fun y _ => .pure ⟨rfl, fun op mem => ?_⟩
  obtain rfl := List.mem_singleton.mp mem
  exact ⟨Point.within_mk ⟨by omega, by omega⟩ ⟨by omega, by omega⟩, good⟩

namespace StandIn

theorem keepsGood : KeepsGood StandIn Good where
  draw {content window} good sound := by
    cases content with
    | sketch s =>
      refine (Sketch.draw_yields good sound).bind fun result known => .pure ?_
      exact ⟨known.1.symm ▸ good, known.2⟩
    | caption s =>
      refine (Caption.draw_yields good sound).bind fun result known => .pure ?_
      exact ⟨known.1.symm ▸ good, known.2⟩
  click {content window} p good sound := by
    cases content with
    | sketch s => exact (Sketch.addDot_yields p good sound).bind fun _ good => .pure good
    | caption s => exact .pure good
  drag {content window} p good sound := by
    cases content with
    | sketch s => exact (Sketch.addDot_yields p good sound).bind fun _ good => .pure good
    | caption s => exact .pure good

theorem good_ofApp (app : App) : (ofApp app).Good := by
  cases app with
  | paint => exact fun dot none => absurd none List.not_mem_nil
  | calculator =>
    show App.calculator.name.length ≤ 100
    decide
  | notepad =>
    show App.notepad.name.length ≤ 100
    decide

end StandIn

/-! ## Pointer routing -/

namespace Router

variable {P α : Type} {Good : P → Prop} {c : Compositor P} (router : Router)

theorem onWindows_sound (h : c.Sound Good) (operation : Pool → Except DesktopError α × Pool)
    (keeps : (operation c.windows).2.Sound) : (router.onWindows c operation).2.2.Sound Good :=
  ⟨keeps, h.menus, h.contents⟩

theorem pressFrame_sound (h : c.Sound Good) (id : WindowId) (p : Point) :
    (router.pressFrame c id p).2.2.Sound Good := by
  have selected := router.onWindows_sound h (·.select id) (h.windows.select id)
  unfold pressFrame
  generalize router.onWindows c (·.select id) = outcome at selected ⊢
  obtain ⟨e | ⟨⟨⟩⟩, router, c⟩ := outcome
  · exact selected
  · dsimp only
    split
    · exact selected
    · exact selected

variable [WindowContent P] (keeps : KeepsGood P Good)
include keeps

theorem pressContent_yields (h : c.Sound Good) (id : WindowId) (p : Point) :
    Yields (router.pressContent c id p) fun outcome => outcome.2.2.Sound Good := by
  have selected := router.onWindows_sound h (·.select id) (h.windows.select id)
  unfold pressContent
  generalize router.onWindows c (·.select id) = outcome at selected ⊢
  obtain ⟨e | ⟨⟨⟩⟩, router, c⟩ := outcome
  · exact .pure selected
  · refine Yields.bind (Compositor.Sound.forward_yields selected id fun good sound =>
      keeps.click p good sound) fun result sound => .pure sound

theorem press_yields (h : c.Sound Good) (p : Point) :
    Yields (router.press c p) fun outcome => outcome.2.2.Sound Good := by
  unfold press
  split
  · exact router.pressContent_yields keeps h _ p
  · exact .pure (router.pressFrame_sound h _ p)
  · exact .pure (h.closeWindow _)
  · exact (h.menuMouseDown_yields p).bind fun result sound => .pure sound
  · exact .pure h

theorem drag_yields (h : c.Sound Good) (p : Point) :
    Yields (router.drag c p) fun outcome => outcome.2.2.Sound Good := by
  unfold drag
  split
  · exact (h.menuMouseMove_yields p).bind fun result sound => .pure sound
  split
  · rename_i grab _
    dsimp only
    generalize p.x.subSat grab.offset.x = x
    generalize max (p.y.subSat grab.offset.y) Layout.menuBarHeight = y
    have moved := router.onWindows_sound h (·.moveTo grab.window x y) (h.windows.moveTo _ _ _)
    generalize router.onWindows c (·.moveTo grab.window x y) = outcome at moved ⊢
    obtain ⟨e | ⟨⟨⟩⟩, router, c⟩ := outcome
    · exact .pure moved
    · exact .pure moved
  · split
    · exact .pure h
    · exact Yields.bind (h.forward_yields _ fun good sound => keeps.drag p good sound)
        fun result sound => .pure sound

/-- Every pointer event is routed, wherever the pointer is. -/
theorem route_yields (h : c.Sound Good) (event : PointerEvent) :
    Yields (router.route c event) fun outcome => outcome.2.2.Sound Good := by
  have moved := h.moveCursor event.pos
  unfold route
  dsimp only
  split
  · exact .pure moved
  · exact (router.press_yields keeps moved event.pos).bind fun outcome sound => .pure sound
  · split
    · exact (moved.menuMouseMove_yields event.pos).bind fun result sound => .pure sound
    · exact .pure moved
  · exact (router.drag_yields keeps moved event.pos).bind fun outcome sound => .pure sound
  · split
    · exact moved.menuMouseUp_yields.bind fun result sound => .pure sound
    · exact .pure moved

end Router

/-! ## The desktop -/

namespace Launcher

theorem launch_sound (launcher : Launcher) (app : App) {c : Compositor StandIn}
    (h : c.Sound StandIn.Good) : (launcher.launch app c).2.Sound StandIn.Good := by
  cases launcher with
  | none => exact h
  | standIns launched =>
    have opened := h.openWindow app.homeFrame app.name .document .visible
    unfold launch
    generalize c.openWindow app.homeFrame app.name .document .visible = outcome at opened ⊢
    obtain ⟨e | id, c⟩ := outcome
    · exact opened
    · have attached := opened.attach id (StandIn.good_ofApp app)
      dsimp only at attached ⊢
      generalize c.attach id (.ofApp app) = outcome at attached ⊢
      obtain ⟨e | ⟨⟨⟩⟩, c⟩ := outcome
      · exact attached
      · exact attached

end Launcher

namespace Desktop

/-- What holds of the desktop at all times. -/
def Sound (desktop : Desktop) : Prop :=
  desktop.compositor.Sound StandIn.Good

variable {desktop : Desktop} (h : desktop.Sound)
include h

theorem openWindow_sound (frame : Rect) : (desktop.openWindow frame).2.Sound :=
  Compositor.Sound.openWindow h _ _ _ _

theorem closeWindow_sound (id : WindowId) : (desktop.closeWindow id).2.Sound :=
  Compositor.Sound.closeWindow h id

theorem moveWindow_sound (id : WindowId) (x y : Coord) : (desktop.moveWindow id x y).2.Sound :=
  ⟨h.windows.moveTo id x y, h.menus, h.contents⟩

theorem newDocument_sound : desktop.newDocument.2.Sound :=
  Compositor.Sound.openWindow h _ _ _ _

theorem menuCommand_sound (launcher : Launcher) (id : UInt16) :
    (desktop.menuCommand launcher id).1.Sound := by
  unfold menuCommand
  split
  · exact newDocument_sound h
  · split
    · exact closeWindow_sound h _
    · exact h
  · exact launcher.launch_sound _ h
  · exact h

/-- Every pointer event is handled, wherever the pointer is and whatever it hits. -/
theorem pointerEvent_yields (launcher : Launcher) (event : PointerEvent) :
    Yields (desktop.pointerEvent launcher event) fun result => result.1.Sound := by
  refine (desktop.router.route_yields StandIn.keepsGood h event).bind ?_
  intro outcome sound
  obtain ⟨e | (_ | selection), router, compositor⟩ := outcome
  · exact .pure sound
  · exact .pure sound
  · have routed : Sound { desktop with router, compositor } := sound
    exact .pure (menuCommand_sound routed launcher selection.command)

omit h in
theorem fresh_eq {bar : MenuBar} (eq : MenuBar.empty.installDefaults = .ok (.ok (), bar)) :
    fresh =
      .ok (.ok (), { initial with compositor := { Compositor.initial with menus := bar } }) := by
  have same : (Compositor.initial : Compositor StandIn).menus = MenuBar.empty := by rfl
  unfold fresh
  dsimp only
  rw [same, eq]
  rfl

omit h in
/-- A fresh desktop has its default menus. -/
theorem fresh_yields : Yields fresh fun result => result.1 = .ok () ∧ result.2.Sound := by
  have menus : (MenuBar.empty.installDefaults.toOption.any fun result => result.1.isOk &&
      decide (∀ menu ∈ result.2.menus, menu.Sound) && result.2.tracking.isNone) = true := by
    decide +kernel
  rcases eq : MenuBar.empty.installDefaults with e | ⟨e | ⟨⟩, bar⟩
  · rw [eq] at menus
    cases menus
  · rw [eq] at menus
    cases menus
  · rw [eq] at menus
    simp only [Except.toOption, Option.any_some, Except.isOk, Except.toBool, Bool.true_and,
      Bool.and_eq_true, decide_eq_true_eq, Option.isNone_iff_eq_none] at menus
    have sound : bar.Sound := by
      refine ⟨menus.1, fun tracking mem => ?_⟩
      rw [menus.2] at mem
      cases mem
    refine ⟨_, fresh_eq eq, rfl, Pool.sound_empty.of_slots (by rfl), sound, ?_⟩
    intro slot content known
    cases (SlotTable.get_replicate _ slot).symm.trans known

end Desktop

end TwinDesk
