import TwinDesk.Proofs.Compositor.Tidy
import TwinDesk.Proofs.Desktop.Sound

/-!
# Closed windows leave nothing behind

An id is a slot, and a slot is used again as soon as its window is closed. A ledger tells the
windows apart that come and go in one slot: it notes when each was opened, for which of them the
content in a slot was attached, and which one the pointer took hold of. Whatever is done to the
desktop, a content belongs to the window that is open in its slot, the window that is dragged is
the one that was taken hold of, and routing an event is never refused.

* `Router.route_handled` — what routing an event does to the windows.
* `Ledger.note` — the ledger after an operation.
* `Desktop.History.Settled.step` — the ledger keeps up with the desktop.
* `Desktop.History.no_stale_reference` — the three facts, after any operations.
-/

namespace TwinDesk

/-! ## Routing -/

namespace Compositor

variable {P : Type} {c c' : Compositor P}

/-- The window whose title bar or border lies under a point. -/
def frameAt? (c : Compositor P) (p : Point) : Option WindowId :=
  match c.windows.hitTest p with
  | ⟨.drag, some id⟩ => some id
  | _ => none

end Compositor

namespace Router

variable {P : Type} {α β : Type} {c c' : Compositor P} {router router' : Router}

/-- Only an open window is dragged. -/
def Holds (router : Router) (c : Compositor P) : Prop :=
  ∀ id ∈ router.dragging?, c.windows.isLive id = true

theorem holds_idle : idle.Holds c := by
  intro id none
  cases none

theorem dragging?_forget {id other : WindowId} (mem : other ∈ (router.forget id).dragging?) :
    other ∈ router.dragging? ∧ other ≠ id := by
  unfold forget at mem
  split at mem
  · cases mem
  · rename_i ne
    refine ⟨mem, ?_⟩
    rintro rfl
    exact ne mem

/-- What comes of an event: it is not refused, it opens no window, and the pointer has hold of
nothing but the open window `grab`. -/
structure Handled (grab : Option WindowId) (c : Compositor P) (outcome : Outcome P α) : Prop where
  answer : ∃ value, outcome.1 = .ok value
  tidy : outcome.2.2.Tidy
  holds : outcome.2.1.Holds outcome.2.2
  grabbed : ∀ id ∈ outcome.2.1.dragging?, grab = some id
  shrinks : ∀ slot, (outcome.2.2.windows.slots.get slot).isSome →
    (c.windows.slots.get slot).isSome

/-- What is open stays open, and the pointer keeps its hold. -/
theorem Handled.kept {value : α} (tidy : c'.Tidy) (holds : router.Holds c)
    (same : ∀ slot, (c'.windows.slots.get slot).isSome = (c.windows.slots.get slot).isSome) :
    Handled router.dragging? c ((.ok value, router, c') : Outcome P α) where
  answer := ⟨value, rfl⟩
  tidy := tidy
  holds id mem := (Pool.isLive_congr same).trans (holds id mem)
  grabbed _ mem := mem
  shrinks slot occupied := by
    rwa [same] at occupied

/-- What is open stays open, and the pointer lets go. -/
theorem Handled.released {grab : Option WindowId} {value : α} (tidy : c'.Tidy)
    (still : Compositor.Still c c') :
    Handled grab c ((.ok value, idle, c') : Outcome P α) where
  answer := ⟨value, rfl⟩
  tidy := tidy
  holds := holds_idle
  grabbed _ none := by
    cases none
  shrinks slot occupied := by
    rwa [still.slots] at occupied

/-- A change of the answer, and of the compositor before. -/
theorem Handled.of_still {grab : Option WindowId} {answer : Except DesktopError α}
    {c'' : Compositor P} (h : Handled grab c' ((answer, router, c'') : Outcome P α))
    (still : Compositor.Still c c') (f : α → β) :
    Handled grab c ((answer.map f, router, c'') : Outcome P β) where
  answer := by
    obtain ⟨value, rfl⟩ := h.answer
    exact ⟨f value, rfl⟩
  tidy := h.tidy
  holds := h.holds
  grabbed := h.grabbed
  shrinks slot occupied := by
    rw [← still.slots]
    exact h.shrinks slot occupied

theorem onWindows_ok {value : α} {operation : Pool → Except DesktopError α × Pool}
    (answer : (operation c.windows).1 = .ok value) :
    router.onWindows c operation =
      (.ok value, router, { c with windows := (operation c.windows).2 }) := by
  rw [← answer]
  rfl

/-! ### Presses -/

theorem pressFrame_handled (tidy : c.Tidy) {id : WindowId} (live : c.windows.isLive id = true)
    (p : Point) : Handled (some id) c (router.pressFrame c id p) := by
  have same (slot : Slot) : ((c.windows.select id).2.slots.get slot).isSome =
      (c.windows.slots.get slot).isSome := Pool.isSome_get_select id
  have live' : (c.windows.select id).2.isLive id = true := (Pool.isLive_congr same).trans live
  obtain ⟨slot, window, found⟩ := Pool.find?_of_isLive live'
  unfold pressFrame
  rw [onWindows_ok (Pool.select_fst live)]
  dsimp only
  rw [Pool.get?, found, Option.map_some]
  refine ⟨⟨(), rfl⟩, tidy.select id, fun other mem => ?_, fun other mem => mem, fun slot => ?_⟩
  · obtain rfl := Option.some.inj mem
    exact live'
  · rw [same]
    exact fun occupied => occupied

/-- The pointer lets go of a window that closes, and the others stay open. -/
theorem pressClose_handled (tidy : c.Tidy) (holds : router.Holds c) {id : WindowId}
    (live : c.windows.isLive id = true) :
    Handled router.dragging? c (router.pressClose c id) where
  answer := ⟨(), Compositor.closeWindow_fst live⟩
  tidy := tidy.closeWindow id
  holds other mem := by
    obtain ⟨mem, ne⟩ := dragging?_forget mem
    exact Compositor.isLive_closeWindow ne (holds other mem)
  grabbed other mem := (dragging?_forget mem).1
  shrinks slot := Compositor.isSome_of_closeWindow

variable [WindowContent P]

theorem pressContent_handled (tidy : c.Tidy) (holds : router.Holds c) {id : WindowId}
    (live : c.windows.isLive id = true) {p : Point} {outcome : Outcome P Unit}
    (eq : router.pressContent c id p = .ok outcome) : Handled router.dragging? c outcome := by
  have same (slot : Slot) : ((c.windows.select id).2.slots.get slot).isSome =
      (c.windows.slots.get slot).isSome := Pool.isSome_get_select id
  have live' : { c with windows := (c.windows.select id).2 }.windows.isLive id = true :=
    (Pool.isLive_congr same).trans live
  unfold pressContent at eq
  rw [onWindows_ok (Pool.select_fst live)] at eq
  obtain ⟨⟨answer, clicked⟩, handled, eq⟩ := Checked.bind_eq_ok_iff.mp eq
  obtain ⟨changed, rfl⟩ := Compositor.forward_ok live' handled
  cases eq
  refine Handled.kept ((tidy.select id).forward handled) holds fun slot => ?_
  rw [Compositor.slots_forward handled]
  exact same slot

theorem press_handled (tidy : c.Tidy) (holds : router.Holds c) {p : Point}
    {outcome : Outcome P Unit} (eq : router.press c p = .ok outcome) :
    Handled ((c.frameAt? p).or router.dragging?) c outcome := by
  have live {part : Part} {id : WindowId} (hit : c.windows.hitTest p = ⟨part, some id⟩) :
      c.windows.isLive id = true := Pool.isLive_of_hitTest tidy.sound hit
  unfold press at eq
  unfold Compositor.frameAt?
  split at eq
  · rename_i id hit
    rw [hit]
    exact pressContent_handled tidy holds (live hit) eq
  · rename_i id hit
    cases eq
    rw [hit]
    exact pressFrame_handled tidy (live hit) p
  · rename_i id hit
    cases eq
    rw [hit]
    exact pressClose_handled tidy holds (live hit)
  · rename_i window hit
    obtain ⟨⟨opened, tracked⟩, eq', eq⟩ := Checked.bind_eq_ok_iff.mp eq
    have still := Compositor.still_trackMenu eq'
    cases eq
    rw [hit]
    refine Handled.kept (tidy.of_still still) holds fun slot => ?_
    rw [still.slots]
  · rename_i notFrame _ _
    cases eq
    split
    · rename_i id hit
      exact absurd hit (notFrame id)
    · exact Handled.kept tidy holds fun slot => rfl

/-! ### Drags -/

theorem drag_handled (tidy : c.Tidy) (holds : router.Holds c) {p : Point}
    {outcome : Outcome P Unit} (eq : router.drag c p = .ok outcome) :
    Handled router.dragging? c outcome := by
  unfold drag at eq
  -- a drag goes to an open menu, else to the window that is held, else to the active window
  split at eq
  · obtain ⟨tracked, eq', eq⟩ := Checked.bind_eq_ok_iff.mp eq
    have still := Compositor.still_menuMouseMove eq'
    cases eq
    refine Handled.kept (tidy.of_still still) holds fun slot => ?_
    rw [still.slots]
  · split at eq
    · rename_i grab held
      have live : c.windows.isLive grab.window = true := by
        apply holds
        rw [dragging?, held]
        rfl
      dsimp only at eq
      rw [onWindows_ok (Pool.reframe_fst live _)] at eq
      cases eq
      exact Handled.kept (tidy.reframe _ _) holds fun slot => Pool.isSome_get_reframe _ _
    · split at eq
      · cases eq
        exact Handled.kept tidy holds fun slot => rfl
      · rename_i active known
        obtain ⟨slot, alive, rfl⟩ := Option.map_eq_some_iff.mp known
        have live : c.windows.isLive slot.id = true := by
          rw [Pool.isLive_id]
          exact tidy.windows.alive slot alive
        obtain ⟨⟨answer, dragged⟩, handled, eq⟩ := Checked.bind_eq_ok_iff.mp eq
        obtain ⟨changed, rfl⟩ := Compositor.forward_ok live handled
        cases eq
        refine Handled.kept (tidy.forward handled) holds fun slot => ?_
        rw [Compositor.slots_forward handled]

/-! ### Events -/

/-- The window whose title bar or border is pressed by an event. -/
def pressed? (c : Compositor P) (event : PointerEvent) : Option WindowId :=
  match event.kind with
  | .down => c.frameAt? event.pos
  | _ => none

omit [WindowContent P] in
theorem isLive_of_pressed? (tidy : c.Tidy) {event : PointerEvent} {id : WindowId}
    (pressed : pressed? c event = some id) : c.windows.isLive id = true := by
  unfold pressed? Compositor.frameAt? at pressed
  split at pressed
  · split at pressed
    · rename_i hit
      cases pressed
      exact Pool.isLive_of_hitTest tidy.sound hit
    · cases pressed
  · cases pressed

/-- Routing an event is never refused. The pointer has hold of the window whose title bar or border
is pressed, or of the one it had hold of before. -/
theorem route_handled (tidy : c.Tidy) (holds : router.Holds c) {event : PointerEvent}
    {outcome : Outcome P (Option MenuSelection)} (eq : router.route c event = .ok outcome) :
    Handled ((pressed? c event).or router.dragging?) c outcome := by
  -- every event moves the cursor first, which opens and closes nothing
  have moved : Compositor.Still c (c.moveCursor event.pos) := Compositor.still_moveCursor event.pos
  have tidy' := tidy.of_still moved
  have holds' : router.Holds (c.moveCursor event.pos) := by
    intro id mem
    refine (Pool.isLive_congr fun slot => ?_).trans (holds id mem)
    rw [moved.slots]
  unfold pressed?
  unfold route at eq
  dsimp only at eq
  split at eq
  · rename_i kind
    cases eq
    rw [kind]
    refine Handled.kept tidy' holds fun slot => ?_
    rw [moved.slots]
  · rename_i kind
    obtain ⟨⟨answer, router', c'⟩, pressed, eq⟩ := Checked.bind_eq_ok_iff.mp eq
    cases eq
    have handled := press_handled tidy' holds' pressed
    unfold Compositor.frameAt? at handled
    rw [Compositor.hitTest_of_still moved] at handled
    rw [kind]
    exact handled.of_still moved _
  · rename_i kind
    rw [kind]
    split at eq
    · obtain ⟨tracked, eq', eq⟩ := Checked.bind_eq_ok_iff.mp eq
      have still := moved.trans (Compositor.still_menuMouseMove eq')
      cases eq
      refine Handled.kept (tidy.of_still still) holds fun slot => ?_
      rw [still.slots]
    · cases eq
      refine Handled.kept tidy' holds fun slot => ?_
      rw [moved.slots]
  · rename_i kind
    obtain ⟨⟨answer, router', c'⟩, dragged, eq⟩ := Checked.bind_eq_ok_iff.mp eq
    cases eq
    rw [kind]
    exact (drag_handled tidy' holds' dragged).of_still moved _
  · rename_i kind
    rw [kind]
    split at eq
    · obtain ⟨⟨selection, tracked⟩, eq', eq⟩ := Checked.bind_eq_ok_iff.mp eq
      have still := moved.trans (Compositor.still_trackMenu eq')
      cases eq
      exact Handled.released (tidy.of_still still) still
    · cases eq
      exact Handled.released tidy' moved

/-- A menu item is chosen by an event that does nothing else. -/
theorem still_of_chosen {event : PointerEvent} {selection : MenuSelection}
    (eq : router.route c event = .ok (.ok (some selection), router', c')) :
    Compositor.Still c c' := by
  have moved : Compositor.Still c (c.moveCursor event.pos) := Compositor.still_moveCursor event.pos
  unfold route at eq
  dsimp only at eq
  split at eq
  · cases eq
  · obtain ⟨⟨answer, released⟩, -, eq⟩ := Checked.bind_eq_ok_iff.mp eq
    rcases answer with e | value <;> cases eq
  · split at eq
    · obtain ⟨tracked, -, eq⟩ := Checked.bind_eq_ok_iff.mp eq
      cases eq
    · cases eq
  · obtain ⟨⟨answer, released⟩, -, eq⟩ := Checked.bind_eq_ok_iff.mp eq
    rcases answer with e | value <;> cases eq
  · split at eq
    · obtain ⟨⟨selection, tracked⟩, eq', eq⟩ := Checked.bind_eq_ok_iff.mp eq
      cases eq
      exact moved.trans (Compositor.still_trackMenu eq')
    · cases eq

end Router

/-! ## The ledger -/

/-- A window from its opening to its closing. -/
structure Opening where
  slot : Slot
  /-- When it was opened. -/
  moment : Nat
  deriving DecidableEq, Repr

/-- What an observer of the desktop notes, who sees it before and after every operation. -/
structure Ledger where
  /-- The number of operations so far. -/
  moment : Nat
  /-- The window in each slot. -/
  openings : Slot → Option Opening
  /-- The window that the content in each slot was attached to. -/
  owners : Slot → Option Opening
  /-- The window whose title bar or border was pressed last. -/
  held : Option Opening

namespace Desktop

/-- An operation on the desktop. -/
inductive Act where
  | init
  | openWindow (frame : Rect)
  | closeWindow (id : WindowId)
  | moveWindow (id : WindowId) (x y : Coord)
  | pointerEvent (event : PointerEvent)
  | menuCommand (id : UInt16)

/-- The desktop and the launcher after an operation, whatever it answers. -/
def Act.run (desktop : Desktop) (launcher : Launcher) : Act → Checked (Desktop × Launcher)
  | .init => do
    let (_, desktop) ← fresh
    return (desktop, launcher)
  | .openWindow frame => return ((desktop.openWindow frame).2, launcher)
  | .closeWindow id => return ((desktop.closeWindow id).2, launcher)
  | .moveWindow id x y => return ((desktop.moveWindow id x y).2, launcher)
  | .pointerEvent event => desktop.pointerEvent launcher event
  | .menuCommand id => return desktop.menuCommand launcher id

/-- The window whose title bar or border an operation presses. -/
def Act.pressed? (c : Compositor StandIn) : Act → Option WindowId
  | .pointerEvent event => Router.pressed? c event
  | _ => none

theorem Act.isLive_of_pressed? {c : Compositor StandIn} (tidy : c.Tidy) {act : Act}
    {id : WindowId} (pressed : act.pressed? c = some id) : c.windows.isLive id = true := by
  cases act with
  | pointerEvent event => exact Router.isLive_of_pressed? tidy pressed
  | _ => cases pressed

end Desktop

namespace Ledger

/-- The ledger before anything happens. -/
def blank : Ledger := ⟨0, fun _ => none, fun _ => none, none⟩

/-- The windows after an operation: those that stay, and those that appear. -/
def openingsAfter (ledger : Ledger) (before after : Compositor StandIn) (slot : Slot) :
    Option Opening :=
  if (after.windows.slots.get slot).isSome then
    if (before.windows.slots.get slot).isSome then ledger.openings slot
    else some ⟨slot, ledger.moment⟩
  else none

/-- The ledger after an operation. A content that appears is noted for the window in its slot, and
one that stays keeps its window, whatever has become of that. -/
def note (ledger : Ledger) (act : Desktop.Act) (before after : Compositor StandIn) : Ledger where
  moment := ledger.moment + 1
  openings := ledger.openingsAfter before after
  owners slot :=
    if (before.contents.get slot).isSome then ledger.owners slot
    else ledger.openingsAfter before after slot
  held :=
    match act.pressed? before with
    | some id => id.slot?.bind ledger.openings
    | none => ledger.held

variable {ledger : Ledger} {act : Desktop.Act} {before after : Compositor StandIn} {slot : Slot}

theorem held_note_of_pressed {id : WindowId} (pressed : act.pressed? before = some id) :
    (ledger.note act before after).held = id.slot?.bind ledger.openings := by
  rw [note, pressed]

theorem held_note_of_not_pressed (pressed : act.pressed? before = none) :
    (ledger.note act before after).held = ledger.held := by
  rw [note, pressed]

/-- The window of a content is the one in its slot, if it is so for a content that stays. -/
theorem owners_note (stays : (before.contents.get slot).isSome →
      ledger.owners slot = ledger.openingsAfter before after slot) :
    (ledger.note act before after).owners slot = (ledger.note act before after).openings slot := by
  rw [note]
  dsimp only
  split
  · exact stays ‹_›
  · rfl

/-- A window that stays keeps its opening. -/
theorem openingsAfter_of_stays (occupied : (before.windows.slots.get slot).isSome)
    (occupied' : (after.windows.slots.get slot).isSome) :
    ledger.openingsAfter before after slot = ledger.openings slot := by
  rw [openingsAfter, if_pos occupied', if_pos occupied]

theorem isSome_openingsAfter (known : (ledger.openings slot).isSome =
    (before.windows.slots.get slot).isSome) :
    (ledger.openingsAfter before after slot).isSome =
      (after.windows.slots.get slot).isSome := by
  unfold openingsAfter
  split
  · rename_i occupied
    rw [occupied]
    split
    · rename_i stays
      rw [known, stays]
    · rfl
  · rename_i vacant
    rw [Bool.eq_false_iff.mpr vacant]
    rfl

end Ledger

namespace Desktop

/-- The desktop, its launcher and what has been noted so far. -/
structure History where
  desktop : Desktop
  launcher : Launcher
  ledger : Ledger

namespace History

/-- A desktop without menus, before anything happens. -/
def start (launcher : Launcher) : History := ⟨.initial, launcher, .blank⟩

/-- The history after one more operation. -/
def step (h : History) (act : Act) : Checked History := do
  let (desktop, launcher) ← act.run h.desktop h.launcher
  return ⟨desktop, launcher, h.ledger.note act h.desktop.compositor desktop.compositor⟩

/-- Nothing that belongs to a closed window has an effect any more. -/
structure NoStaleReference (h : History) : Prop where
  /-- The ledger knows the open windows. -/
  openings : ∀ slot, (h.ledger.openings slot).isSome = h.desktop.compositor.windows.isLive slot.id
  /-- A content belongs to the window in its slot. -/
  contents : ∀ slot, (h.desktop.compositor.contents.get slot).isSome →
    ∃ opening, h.ledger.openings slot = some opening ∧ h.ledger.owners slot = some opening
  /-- The window that is dragged is the one that was pressed. -/
  dragged : ∀ id ∈ h.desktop.router.dragging?, ∃ slot opening, id.slot? = some slot ∧
    h.ledger.openings slot = some opening ∧ h.ledger.held = some opening
  /-- Every event can be routed. -/
  routed : ∀ event, ∃ selection router compositor,
    h.desktop.router.route h.desktop.compositor event = .ok (.ok selection, router, compositor)
  /-- No operation opens a window and closes one, which would escape the ledger. -/
  oneWay : ∀ act, Yields (h.step act) fun next =>
    (∀ id, h.desktop.compositor.windows.isLive id = true →
      next.desktop.compositor.windows.isLive id = true) ∨
    (∀ id, next.desktop.compositor.windows.isLive id = true →
      h.desktop.compositor.windows.isLive id = true)

end History

/-! ## One operation -/

variable {desktop desktop' : Desktop} {launcher : Launcher} {grab : Option WindowId}

/-- What one operation does to the windows: it closes windows or opens some, but not both, and the
pointer has hold of nothing but the open window `grab`. -/
structure Changed (grab : Option WindowId) (desktop desktop' : Desktop) : Prop where
  tidy : desktop'.compositor.Tidy
  holds : desktop'.router.Holds desktop'.compositor
  grabbed : ∀ id ∈ desktop'.router.dragging?, grab = some id
  oneWay :
    (∀ slot, (desktop.compositor.windows.slots.get slot).isSome →
      (desktop'.compositor.windows.slots.get slot).isSome) ∨
    (∀ slot, (desktop'.compositor.windows.slots.get slot).isSome →
      (desktop.compositor.windows.slots.get slot).isSome)

/-- An operation that closes no window, and that the pointer takes no part in. -/
theorem changed_of_grows {compositor : Compositor StandIn} {documents : UInt8}
    (holds : desktop.router.Holds desktop.compositor) (tidy : compositor.Tidy)
    (grows : ∀ slot, (desktop.compositor.windows.slots.get slot).isSome →
      (compositor.windows.slots.get slot).isSome) :
    Changed desktop.router.dragging? desktop { desktop with compositor, documents } where
  tidy := tidy
  holds id mem := by
    obtain ⟨slot, named, occupied⟩ := Pool.isLive_iff.mp (holds id mem)
    exact Pool.isLive_iff.mpr ⟨slot, named, grows slot occupied⟩
  grabbed _ mem := mem
  oneWay := .inl grows

theorem changed_closeWindow (tidy : desktop.compositor.Tidy)
    (holds : desktop.router.Holds desktop.compositor) (id : WindowId) :
    Changed desktop.router.dragging? desktop (desktop.closeWindow id).2 := by
  refine ⟨tidy.closeWindow id, fun other mem => ?_, fun other mem => ?_, .inr fun slot => ?_⟩
  · obtain ⟨mem, ne⟩ := Router.dragging?_forget mem
    exact Compositor.isLive_closeWindow ne (holds other mem)
  · exact (Router.dragging?_forget mem).1
  · exact Compositor.isSome_of_closeWindow

theorem changed_moveWindow (tidy : desktop.compositor.Tidy)
    (holds : desktop.router.Holds desktop.compositor) (id : WindowId) (x y : Coord) :
    Changed desktop.router.dragging? desktop (desktop.moveWindow id x y).2 := by
  have moved : { desktop.compositor with
      windows := (desktop.compositor.windows.moveTo id x y).2 }.Tidy := tidy.reframe id _
  have same (slot : Slot) :
      ((desktop.compositor.windows.moveTo id x y).2.slots.get slot).isSome =
        (desktop.compositor.windows.slots.get slot).isSome := Pool.isSome_get_reframe id _
  exact changed_of_grows holds moved fun slot occupied => (same slot).trans occupied

/-- Starting an application opens its window, or nothing. -/
theorem launch_grows (launcher : Launcher) (app : App) {c : Compositor StandIn} (tidy : c.Tidy) :
    (launcher.launch app c).2.Tidy ∧ ∀ slot, (c.windows.slots.get slot).isSome →
      ((launcher.launch app c).2.windows.slots.get slot).isSome := by
  cases launcher with
  | none => exact ⟨tidy, fun slot occupied => occupied⟩
  | standIns launched =>
    have opened := tidy.openWindow app.homeFrame app.name .document .visible
    have grows (slot : Slot) (occupied : (c.windows.slots.get slot).isSome) :
        ((c.openWindow app.homeFrame app.name .document .visible).2.windows.slots.get
          slot).isSome := Pool.isSome_get_allocate _ _ _ _ occupied
    unfold Launcher.launch
    generalize c.openWindow app.homeFrame app.name .document .visible = outcome at opened grows ⊢
    obtain ⟨e | id, c'⟩ := outcome
    · exact ⟨opened, grows⟩
    · have attached := opened.attach id (.ofApp app)
      have slots : (c'.attach id (.ofApp app)).2.windows.slots = c'.windows.slots :=
        Compositor.slots_attach id _
      dsimp only at attached ⊢
      generalize c'.attach id (.ofApp app) = outcome at attached slots ⊢
      obtain ⟨e | ⟨⟨⟩⟩, c''⟩ := outcome
      · refine ⟨attached, fun slot occupied => ?_⟩
        exact slots ▸ grows slot occupied
      · refine ⟨attached, fun slot occupied => ?_⟩
        exact slots ▸ grows slot occupied

theorem changed_menuCommand (launcher : Launcher) (tidy : desktop.compositor.Tidy)
    (holds : desktop.router.Holds desktop.compositor) (id : UInt16) :
    Changed desktop.router.dragging? desktop (desktop.menuCommand launcher id).1 := by
  unfold menuCommand
  split
  · exact changed_of_grows holds (tidy.openWindow _ _ _ _) fun slot =>
      Pool.isSome_get_allocate _ _ _ _
  · split
    · exact changed_closeWindow tidy holds _
    · exact changed_of_grows holds tidy fun slot occupied => occupied
  · rename_i app _
    obtain ⟨launched, grows⟩ := launch_grows launcher app tidy
    exact changed_of_grows holds launched grows
  · exact changed_of_grows holds tidy fun slot occupied => occupied

theorem changed_pointerEvent (tidy : desktop.compositor.Tidy)
    (holds : desktop.router.Holds desktop.compositor) {event : PointerEvent}
    {result : Desktop × Launcher} (eq : desktop.pointerEvent launcher event = .ok result) :
    Changed ((Router.pressed? desktop.compositor event).or desktop.router.dragging?) desktop
      result.1 := by
  obtain ⟨⟨answer, router, compositor⟩, routed, eq⟩ := Checked.bind_eq_ok_iff.mp eq
  have handled := Router.route_handled tidy holds routed
  rcases answer with e | _ | selection
  · cases eq
    exact ⟨handled.tidy, handled.holds, handled.grabbed, .inr handled.shrinks⟩
  · cases eq
    exact ⟨handled.tidy, handled.holds, handled.grabbed, .inr handled.shrinks⟩
  · -- what is chosen is carried out on the windows as they were
    cases eq
    have still := Router.still_of_chosen routed
    let released : Desktop := { desktop with router, compositor }
    have tidy' : released.compositor.Tidy := handled.tidy
    have holds' : released.router.Holds released.compositor := handled.holds
    have changed := changed_menuCommand launcher tidy' holds' selection.command
    refine ⟨changed.tidy, changed.holds, fun id mem => ?_, ?_⟩
    · exact handled.grabbed id (changed.grabbed id mem)
    · rw [← still.slots]
      exact changed.oneWay

theorem changed_fresh {result : Except DesktopError Unit} (eq : fresh = .ok (result, desktop')) :
    Changed desktop.router.dragging? desktop desktop' := by
  obtain ⟨⟨answer, menus⟩, -, eq⟩ := Checked.bind_eq_ok_iff.mp eq
  cases eq
  have still : Compositor.Still (.initial : Compositor StandIn)
      { Compositor.initial with menus } := ⟨rfl, rfl, rfl, rfl⟩
  refine ⟨Compositor.tidy_initial.of_still still, Router.holds_idle, fun id none => ?_, .inr ?_⟩
  · cases none
  · intro slot occupied
    have vacant : Pool.empty.slots.get slot = none := SlotTable.get_replicate _ slot
    have occupied : (Pool.empty.slots.get slot).isSome := occupied
    rw [vacant] at occupied
    cases occupied

/-- Every operation can be carried out. -/
theorem Act.run_yields (sound : desktop.Sound) (tidy : desktop.compositor.Tidy)
    (holds : desktop.router.Holds desktop.compositor) (act : Act) :
    Yields (act.run desktop launcher) fun result => result.1.Sound ∧
      Changed ((act.pressed? desktop.compositor).or desktop.router.dragging?) desktop
        result.1 := by
  cases act with
  | init =>
    obtain ⟨⟨result, desktop'⟩, eq, -, sound'⟩ := fresh_yields
    refine ⟨(desktop', launcher), ?_, sound', changed_fresh eq⟩
    rw [run, eq]
    rfl
  | openWindow frame =>
    exact .pure ⟨openWindow_sound sound frame,
      changed_of_grows holds (tidy.openWindow _ _ _ _) fun slot =>
        Pool.isSome_get_allocate _ _ _ _⟩
  | closeWindow id =>
    exact .pure ⟨closeWindow_sound sound id, changed_closeWindow tidy holds id⟩
  | moveWindow id x y =>
    exact .pure ⟨moveWindow_sound sound id x y, changed_moveWindow tidy holds id x y⟩
  | pointerEvent event =>
    obtain ⟨result, eq, sound'⟩ := pointerEvent_yields sound launcher event
    exact ⟨result, eq, sound', changed_pointerEvent tidy holds eq⟩
  | menuCommand id =>
    exact .pure ⟨menuCommand_sound sound launcher id, changed_menuCommand launcher tidy holds id⟩

theorem sound_initial : initial.Sound where
  windows := Pool.sound_empty.invalidate _
  menus := ⟨fun _ none => absurd none List.not_mem_nil, fun _ none => by cases none⟩
  contents slot content known := by
    cases (SlotTable.get_replicate _ slot).symm.trans known

/-! ## All operations -/

namespace History

/-- What holds of desktop and ledger at all times. -/
structure Settled (h : History) : Prop where
  sound : h.desktop.Sound
  tidy : h.desktop.compositor.Tidy
  /-- Only an open window is dragged, and it is the one that was pressed. -/
  held : ∀ id ∈ h.desktop.router.dragging?, ∃ slot, id = slot.id ∧
    (h.desktop.compositor.windows.slots.get slot).isSome ∧ h.ledger.held = h.ledger.openings slot
  openings : ∀ slot, (h.ledger.openings slot).isSome =
    (h.desktop.compositor.windows.slots.get slot).isSome
  owners : ∀ slot, (h.desktop.compositor.contents.get slot).isSome →
    h.ledger.owners slot = h.ledger.openings slot

variable {h : History}

theorem settled_start (launcher : Launcher) : (start launcher).Settled where
  sound := sound_initial
  tidy := Compositor.tidy_initial
  held id none := by
    cases none
  openings slot := by
    have vacant : Pool.empty.slots.get slot = none := SlotTable.get_replicate _ slot
    show false = (Pool.empty.slots.get slot).isSome
    rw [vacant]
    rfl
  owners _ _ := rfl

theorem Settled.holds (settled : h.Settled) : h.desktop.router.Holds h.desktop.compositor := by
  intro id mem
  obtain ⟨slot, rfl, occupied, -⟩ := settled.held id mem
  rw [Pool.isLive_id]
  exact occupied

/-- The step lemma: the ledger keeps up with the desktop. -/
theorem Settled.step (settled : h.Settled) (act : Act) : Yields (h.step act) Settled := by
  refine (act.run_yields settled.sound settled.tidy settled.holds).bind ?_
  rintro ⟨desktop, launcher⟩ ⟨sound, changed⟩
  have noted (slot : Slot) :
      (h.ledger.openingsAfter h.desktop.compositor desktop.compositor slot).isSome =
        (desktop.compositor.windows.slots.get slot).isSome :=
    Ledger.isSome_openingsAfter (settled.openings slot)
  refine .pure ⟨sound, changed.tidy, fun id mem => ?_, noted, fun slot attached => ?_⟩
  · have live := changed.holds id mem
    obtain ⟨slot, named, occupied⟩ := Pool.isLive_iff.mp live
    refine ⟨slot, (Slot.id_of_slot? named).symm, occupied, ?_⟩
    -- either the window has just been pressed, or the pointer had hold of it before
    cases pressed : act.pressed? h.desktop.compositor with
    | some id' =>
      have grab := changed.grabbed id mem
      rw [pressed] at grab
      obtain rfl := Option.some.inj grab
      have before := act.isLive_of_pressed? settled.tidy pressed
      rw [← Slot.id_of_slot? named, Pool.isLive_id] at before
      rw [Ledger.held_note_of_pressed pressed, named]
      exact (Ledger.openingsAfter_of_stays before occupied).symm
    | none =>
      have grab := changed.grabbed id mem
      rw [pressed, Option.none_or] at grab
      obtain ⟨slot', rfl, before, held⟩ := settled.held id grab
      obtain rfl : slot' = slot := Option.some.inj (slot'.slot?_id.symm.trans named)
      rw [Ledger.held_note_of_not_pressed pressed]
      exact held.trans (Ledger.openingsAfter_of_stays before occupied).symm
  · have occupied := changed.tidy.contents slot attached
    apply Ledger.owners_note
    intro before
    rw [Ledger.openingsAfter_of_stays (settled.tidy.contents slot before) occupied]
    exact settled.owners slot before

/-- The history after any operations. -/
def run (launcher : Launcher) (acts : List Act) : Checked History :=
  acts.foldlM step (start launcher)

theorem Settled.noStaleReference (settled : h.Settled) : h.NoStaleReference where
  openings slot := by
    rw [Pool.isLive_id]
    exact settled.openings slot
  contents slot attached := by
    have known := settled.openings slot
    rw [settled.tidy.contents slot attached] at known
    obtain ⟨opening, known⟩ := Option.isSome_iff_exists.mp known
    exact ⟨opening, known, (settled.owners slot attached).trans known⟩
  dragged id mem := by
    obtain ⟨slot, rfl, occupied, held⟩ := settled.held id mem
    have known := settled.openings slot
    rw [occupied] at known
    obtain ⟨opening, known⟩ := Option.isSome_iff_exists.mp known
    exact ⟨slot, opening, slot.slot?_id, known, held.trans known⟩
  routed event := by
    obtain ⟨⟨answer, router, compositor⟩, eq, -⟩ :=
      h.desktop.router.route_yields StandIn.keepsGood settled.sound event
    obtain ⟨selection, rfl⟩ := (Router.route_handled settled.tidy settled.holds eq).answer
    exact ⟨selection, router, compositor, eq⟩
  oneWay act := by
    refine (act.run_yields settled.sound settled.tidy settled.holds).bind ?_
    rintro ⟨desktop, launcher⟩ ⟨-, changed⟩
    have lift {c c' : Compositor StandIn} (keeps : ∀ slot, (c.windows.slots.get slot).isSome →
        (c'.windows.slots.get slot).isSome) (id : WindowId) (live : c.windows.isLive id = true) :
        c'.windows.isLive id = true := by
      obtain ⟨slot, named, occupied⟩ := Pool.isLive_iff.mp live
      exact Pool.isLive_iff.mpr ⟨slot, named, keeps slot occupied⟩
    exact .pure (changed.oneWay.imp lift lift)

/-- Whatever is done to the desktop, with the stand-in applications or without any: a content
belongs to the window that is open in its slot, the pointer drags the very window that it took hold
of, and no event is refused. -/
theorem no_stale_reference (launcher : Launcher) (acts : List Act) :
    Yields (run launcher acts) NoStaleReference := by
  have settled : Yields (run launcher acts) Settled :=
    Yields.foldlM (settled_start launcher) fun h act _ settled => settled.step act
  exact settled.mono fun h settled => settled.noStaleReference

end History

end Desktop

end TwinDesk
