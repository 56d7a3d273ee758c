import TwinDesk.Desktop.Desktop
import TwinDesk.Proofs.Compositor.Operations

/-!
# Where the cursor is

Routing moves the cursor to the position of an event before anything else, and nothing that the
event leads to moves it again: what is done to windows and their contents leaves the rest of the
screen as it is, and the windows change by operations of the pool alone. Painting leaves the cursor
where it is.

* `Compositor.WindowsOnly`, `Compositor.Operated` — changes of windows and contents alone.
* `Compositor.Reaction` — all that an event does after the cursor is where the pointer is.
* `Router.route_reaction` — the router, whatever it finds under the pointer.
* `Desktop.pointerEvent_reaction`, `Desktop.pointerEvent_cursor` — the desktop, with the menu command
  that the event may choose.
-/

namespace TwinDesk

/-! ## The compositor -/

namespace Compositor

variable {P : Type} {c c' c'' : Compositor P}

/-- Nothing changes but windows, contents and damage. -/
structure WindowsOnly (c c' : Compositor P) : Prop where
  menus : c'.menus = c.menus
  cursor : c'.cursor = c.cursor
  cursorVisible : c'.cursorVisible = c.cursorVisible
  pattern : c'.pattern = c.pattern

namespace WindowsOnly

theorem rfl : WindowsOnly c c :=
  ⟨by rfl, by rfl, by rfl, by rfl⟩

theorem trans (first : WindowsOnly c c') (second : WindowsOnly c' c'') : WindowsOnly c c'' where
  menus := second.menus.trans first.menus
  cursor := second.cursor.trans first.cursor
  cursorVisible := second.cursorVisible.trans first.cursorVisible
  pattern := second.pattern.trans first.pattern

end WindowsOnly

theorem windowsOnly_windows (windows : Pool) : WindowsOnly c { c with windows } :=
  ⟨rfl, rfl, rfl, rfl⟩

/-- The cursor moves without a change to the menus. -/
theorem menus_moveCursor (p : Point) : (c.moveCursor p).menus = c.menus := by
  unfold moveCursor invalidate
  rfl

theorem windowsOnly_closeWindow (id : WindowId) : WindowsOnly c (c.closeWindow id).2 := by
  unfold closeWindow
  split
  · exact ⟨rfl, rfl, rfl, rfl⟩
  · exact windowsOnly_windows _

theorem windowsOnly_attach (id : WindowId) (content : P) :
    WindowsOnly c (c.attach id content).2 := by
  unfold attach
  split
  · exact .rfl
  · exact ⟨rfl, rfl, rfl, rfl⟩

theorem windowsOnly_forward (id : WindowId) (input : P → Window → Checked (P × Bool)) :
    Ensures (c.forward id input) fun result => WindowsOnly c result.2 := by
  unfold forward
  split
  · exact .pure .rfl
  · split
    · exact .pure .rfl
    · refine (Ensures.any _).bind fun result _ => .pure ?_
      show WindowsOnly c (if result.2 then _ else _)
      split
      · exact ⟨rfl, rfl, rfl, rfl⟩
      · exact ⟨rfl, rfl, rfl, rfl⟩

/-- Nothing changes but windows, contents and damage, and the windows change by operations of the
pool. -/
structure Operated (c c' : Compositor P) : Prop extends WindowsOnly c c' where
  leads : c.windows.LeadsTo c'.windows

namespace Operated

theorem rfl : Operated c c :=
  ⟨.rfl, .rfl⟩

theorem trans (first : Operated c c') (second : Operated c' c'') : Operated c c'' :=
  ⟨first.toWindowsOnly.trans second.toWindowsOnly, first.leads.trans second.leads⟩

end Operated

theorem operated_openWindow (frame : Rect) (title : String) (style : WindowStyle)
    (flags : WindowFlags) : Operated c (c.openWindow frame title style flags).2 :=
  ⟨windowsOnly_windows _, leadsTo_openWindow frame title style flags⟩

theorem operated_closeWindow (id : WindowId) : Operated c (c.closeWindow id).2 :=
  ⟨windowsOnly_closeWindow id, leadsTo_closeWindow id⟩

theorem operated_attach (id : WindowId) (content : P) : Operated c (c.attach id content).2 :=
  ⟨windowsOnly_attach id content, leadsTo_attach id content⟩

theorem operated_forward (id : WindowId) (input : P → Window → Checked (P × Bool)) :
    Ensures (c.forward id input) fun result => Operated c result.2 :=
  fun result eq => ⟨windowsOnly_forward id input result eq, leadsTo_forward id input result eq⟩

/-- What input does: the cursor stays where it is, and windows change by operations of the pool. -/
structure Reaction (c c' : Compositor P) : Prop where
  cursor : c'.cursor = c.cursor
  leads : c.windows.LeadsTo c'.windows

theorem Operated.reaction (operated : Operated c c') : Reaction c c' :=
  ⟨operated.cursor, operated.leads⟩

namespace Reaction

theorem rfl : Reaction c c :=
  Operated.rfl.reaction

theorem trans (first : Reaction c c') (second : Reaction c' c'') : Reaction c c'' :=
  ⟨second.cursor.trans first.cursor, first.leads.trans second.leads⟩

end Reaction

theorem reaction_trackMenu {α : Type} (step : MenuBar → Checked (α × MenuBar)) :
    Ensures (c.trackMenu step) fun result => Reaction c result.2 :=
  (Ensures.any _).bind fun _ _ => (Ensures.any _).bind fun _ _ => (Ensures.any _).bind fun _ _ =>
    .pure ⟨by rfl, Pool.leadsTo_reports _ _⟩

theorem reaction_menuMouseMove (p : Point) :
    Ensures (c.menuMouseMove p) fun c' => Reaction c c' :=
  (reaction_trackMenu _).bind fun _ reaction => .pure reaction

theorem paint_cursor [WindowContent P] (c : Compositor P) :
    Ensures c.paint fun result => result.2.cursor = c.cursor :=
  (Ensures.any _).bind fun _ _ => .pure rfl

end Compositor

/-! ## Pointer routing -/

namespace Router

open Compositor

variable {P α : Type} (router : Router) (c : Compositor P)

/-- What is done to the windows by an operation of the pool. -/
theorem operated_onWindows {operation : Pool → Except DesktopError α × Pool}
    (leads : c.windows.LeadsTo (operation c.windows).2) :
    Operated c (router.onWindows c operation).2.2 :=
  ⟨windowsOnly_windows _, leads⟩

theorem operated_pressFrame (id : WindowId) (p : Point) :
    Operated c (router.pressFrame c id p).2.2 := by
  have selected : Operated c (router.onWindows c (·.select id)).2.2 :=
    router.operated_onWindows c (.edit (.select id))
  unfold pressFrame
  generalize router.onWindows c (·.select id) = outcome at selected ⊢
  obtain ⟨e | ⟨⟨⟩⟩, router, c⟩ := outcome
  · exact selected
  · dsimp only
    split
    · exact selected
    · exact selected

variable [WindowContent P]

theorem operated_pressContent (id : WindowId) (p : Point) :
    Ensures (router.pressContent c id p) fun outcome => Operated c outcome.2.2 := by
  have selected : Operated c (router.onWindows c (·.select id)).2.2 :=
    router.operated_onWindows c (.edit (.select id))
  unfold pressContent
  generalize router.onWindows c (·.select id) = outcome at selected ⊢
  obtain ⟨e | ⟨⟨⟩⟩, router, c⟩ := outcome
  · exact .pure selected
  · exact (operated_forward id _).bind fun _ clicked => .pure (selected.trans clicked)

/-- A press in the menu bar goes to the menus. -/
theorem press_of_above {p : Point} (above : p.y < Layout.menuBarHeight) :
    router.press c p = do
      let (_, c) ← c.menuMouseDown p
      return (.ok (), router, c) := by
  have hit : c.windows.hitTest p = ⟨.menuBar, none⟩ := by
    rw [Pool.hitTest, if_pos above]
  rw [press, hit]

/-- A press below the menu bar goes to the windows. -/
theorem press_of_below {p : Point} (below : ¬p.y < Layout.menuBarHeight) :
    Ensures (router.press c p) fun outcome => Operated c outcome.2.2 := by
  unfold press
  split
  · exact router.operated_pressContent c _ p
  · exact .pure (router.operated_pressFrame c _ p)
  · exact .pure (operated_closeWindow _)
  · rename_i hit
    rw [Pool.hitTest, if_neg below] at hit
    split at hit
    · rename_i window _
      have part : window.partAt p = .menuBar := congrArg Hit.part hit
      unfold Window.partAt at part
      grind
    · cases hit
  · exact .pure .rfl

/-- A drag that no menu follows goes to the windows. -/
theorem drag_of_closed (closed : c.menus.isTracking = false) (p : Point) :
    Ensures (router.drag c p) fun outcome => Operated c outcome.2.2 := by
  unfold drag
  rw [if_neg (Bool.eq_false_iff.mp closed)]
  split
  · rename_i grab _
    dsimp only
    generalize p.x.subSat grab.offset.x = x
    generalize max (p.y.subSat grab.offset.y) Layout.menuBarHeight = y
    have moved : Operated c (router.onWindows c (·.moveTo grab.window x y)).2.2 :=
      router.operated_onWindows c (.edit (.moveTo grab.window x y))
    generalize router.onWindows c (·.moveTo grab.window x y) = outcome at moved ⊢
    obtain ⟨e | ⟨⟨⟩⟩, router, c⟩ := outcome
    · exact .pure moved
    · exact .pure moved
  · split
    · exact .pure .rfl
    · exact (operated_forward _ _).bind fun _ dragged => .pure dragged

theorem press_reaction (p : Point) :
    Ensures (router.press c p) fun outcome => Reaction c outcome.2.2 := by
  by_cases above : p.y < Layout.menuBarHeight
  · rw [press_of_above router c above]
    exact (reaction_trackMenu _).bind fun _ reaction => .pure reaction
  · exact fun _ eq => (router.press_of_below c above _ eq).reaction

theorem drag_reaction (p : Point) :
    Ensures (router.drag c p) fun outcome => Reaction c outcome.2.2 := by
  cases tracking : c.menus.isTracking with
  | true =>
    rw [drag, tracking]
    exact (reaction_menuMouseMove p).bind fun _ reaction => .pure reaction
  | false => exact fun _ eq => (router.drag_of_closed c tracking p _ eq).reaction

/-- Wherever an event goes, the cursor is there first. -/
theorem route_reaction (event : PointerEvent) : Ensures (router.route c event) fun outcome =>
    Reaction (c.moveCursor event.pos) outcome.2.2 := by
  unfold route
  dsimp only
  split
  · exact .pure .rfl
  · exact (router.press_reaction _ event.pos).bind fun _ reaction => .pure reaction
  · split
    · exact (reaction_menuMouseMove event.pos).bind fun _ reaction => .pure reaction
    · exact .pure .rfl
  · exact (router.drag_reaction _ event.pos).bind fun _ reaction => .pure reaction
  · split
    · exact (reaction_trackMenu _).bind fun _ reaction => .pure reaction
    · exact .pure .rfl

end Router

/-! ## The desktop -/

namespace Desktop

open Compositor

theorem operated_launch (launcher : Launcher) (app : App) (c : Compositor StandIn) :
    Operated c (launcher.launch app c).2 := by
  cases launcher with
  | none => exact .rfl
  | standIns launched =>
    have opened : Operated c (c.openWindow app.homeFrame app.name .document .visible).2 :=
      operated_openWindow _ _ _ _
    unfold Launcher.launch
    generalize c.openWindow app.homeFrame app.name .document .visible = outcome at opened ⊢
    obtain ⟨e | id, c⟩ := outcome
    · exact opened
    · have attached := opened.trans (operated_attach id (.ofApp app))
      dsimp only at attached ⊢
      generalize c.attach id (.ofApp app) = outcome at attached ⊢
      obtain ⟨e | ⟨⟨⟩⟩, c⟩ := outcome
      · exact attached
      · exact attached

/-- The cursor of a fresh desktop is in the middle of the screen. -/
theorem fresh_cursor : Ensures fresh fun result => result.2.compositor.cursor = Layout.center :=
  (Ensures.any _).bind fun _ _ => .pure rfl

variable (desktop : Desktop) (launcher : Launcher)

theorem operated_menuCommand (id : UInt16) :
    Operated desktop.compositor (desktop.menuCommand launcher id).1.compositor := by
  unfold menuCommand
  split
  · exact operated_openWindow _ _ _ _
  · split
    · exact operated_closeWindow _
    · exact .rfl
  · exact operated_launch launcher _ desktop.compositor
  · exact .rfl

/-- A pointer event moves the cursor, and what it does after that leaves the cursor there. -/
theorem pointerEvent_reaction (event : PointerEvent) :
    Ensures (desktop.pointerEvent launcher event) fun result =>
      Reaction (desktop.compositor.moveCursor event.pos) result.1.compositor := by
  refine (desktop.router.route_reaction desktop.compositor event).bind ?_
  intro outcome routed
  obtain ⟨e | (_ | selection), router, compositor⟩ := outcome
  · exact .pure routed
  · exact .pure routed
  · have chosen := { desktop with router, compositor }.operated_menuCommand launcher selection.command
    exact .pure (routed.trans chosen.reaction)

/-- After a pointer event the cursor is where the event was. -/
theorem pointerEvent_cursor (event : PointerEvent) :
    Ensures (desktop.pointerEvent launcher event) fun result =>
      result.1.compositor.cursor = event.pos :=
  fun result eq => (desktop.pointerEvent_reaction launcher event result eq).cursor

end Desktop

end TwinDesk
