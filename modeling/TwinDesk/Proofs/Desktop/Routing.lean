import Mathlib.Data.List.Induction
import TwinDesk.Proofs.Desktop.Cursor
import TwinDesk.Proofs.Desktop.Sound

/-!
# Menus and windows under the pointer

A menu opens by a press on its title, follows the pointer, and closes by a release; a window is
taken hold of by a press below the menu bar, and let go by a release. Neither asks for the other:
while a button is held, the press of a second one on the other side of the bar's edge is a press
like any other, and does not close the menu that is open.

* `Turn`, `Router.route_turn` — what one event does to the menu bar and to the hold on a window.
* `Routed` — events that are routed one after the other.
* `Routed.pressed_bar`, `Routed.pressed_below` — what an open menu and a held window tell of the
  presses so far.
* `Routed.exclusive_of_oneSided` — no window is held while a menu is open, as long as all presses
  are on one side of the edge.
* `second_button_keeps_menu` — presses on both sides.
-/

namespace TwinDesk

/-! ## The menu bar and one event -/

namespace MenuBar

/-- Whether the open menu follows an event, or is opened by it. -/
def follows (bar : MenuBar) (event : PointerEvent) : Bool :=
  match event.kind with
  | .down => event.pos.y < Layout.menuBarHeight &&
      (titleAt event.pos.x bar.menus).toOption.join.isSome
  | .move | .drag => bar.isTracking
  | .up | .none => false

end MenuBar

/-- What an event makes of the router and of the menu bar. -/
inductive Turn (event : PointerEvent) (router : Router) (bar : MenuBar) :
    Router → MenuBar → Prop where
  /-- The event concerns no menu. -/
  | elsewhere {router' : Router} (unfollowed : bar.follows event = false)
    (hold : router' = router ∨ router' = .idle ∨
      event.kind = .down ∧ Layout.menuBarHeight ≤ event.pos.y)
    (released : event.kind = .up → bar.isTracking = false ∧ router' = .idle) :
    Turn event router bar router' bar
  | opened {menu : Nat} (kind : event.kind = .down) (above : event.pos.y < Layout.menuBarHeight)
    (titled : MenuBar.titleAt event.pos.x bar.menus = .ok (some menu))
    (laid : Succeeds { bar with tracking := some ⟨menu, none⟩ }.dropdownArea) :
    Turn event router bar router { bar with tracking := some ⟨menu, none⟩ }
  | moved {bar' : MenuBar} (kind : event.kind = .move ∨ event.kind = .drag)
    (tracking : bar.isTracking = true) (moved : bar.mouseMove event.pos = .ok bar')
    (laid : Succeeds bar'.dropdownArea) : Turn event router bar router bar'
  | closed (kind : event.kind = .up) (tracking : bar.isTracking = true) :
    Turn event router bar .idle bar.close

namespace Compositor

variable {P α : Type} {c c' : Compositor P}

/-- A tracking step is a step of the menu bar, and the dropdown has its place afterwards. -/
theorem menus_trackMenu {step : MenuBar → Checked (α × MenuBar)} {result : α}
    (eq : c.trackMenu step = .ok (result, c')) :
    step c.menus = .ok (result, c'.menus) ∧ Succeeds c'.menus.dropdownArea := by
  obtain ⟨before, -, eq⟩ := Checked.bind_eq_ok_iff.mp eq
  obtain ⟨⟨result', menus⟩, stepped, eq⟩ := Checked.bind_eq_ok_iff.mp eq
  obtain ⟨after, laid, eq⟩ := Checked.bind_eq_ok_iff.mp eq
  cases eq
  exact ⟨stepped, after, laid, trivial⟩

/-- A tracking step goes through where the dropdown has a place before and after it. -/
theorem trackMenu_yields_of_laid {step : MenuBar → Checked (α × MenuBar)} {Q : α → Prop}
    (before : Succeeds c.menus.dropdownArea)
    (stepped : Yields (step c.menus) fun result => Q result.1 ∧ Succeeds result.2.dropdownArea) :
    Yields (c.trackMenu step) fun result => Q result.1 := by
  refine before.bind fun _ _ => stepped.bind ?_
  rintro ⟨result, menus⟩ ⟨holds, after⟩
  exact after.bind fun _ _ => .pure holds

theorem menus_menuMouseMove {p : Point} (eq : c.menuMouseMove p = .ok c') :
    c.menus.mouseMove p = .ok c'.menus ∧ Succeeds c'.menus.dropdownArea := by
  obtain ⟨⟨⟨⟩, tracked⟩, eq, same⟩ := Checked.bind_eq_ok_iff.mp eq
  cases same
  obtain ⟨moved, laid⟩ := menus_trackMenu eq
  obtain ⟨bar, moved, same⟩ := Checked.bind_eq_ok_iff.mp moved
  obtain ⟨-, rfl⟩ := Prod.mk.inj (Except.ok.inj same)
  exact ⟨moved, laid⟩

end Compositor

namespace MenuBar

variable {bar bar' : MenuBar}

theorem not_follows_of_below {event : PointerEvent} (kind : event.kind = .down)
    (below : ¬event.pos.y < Layout.menuBarHeight) : bar.follows event = false := by
  rw [follows, kind]
  dsimp only
  rw [decide_eq_false below, Bool.false_and]

theorem follows_of_moved {event : PointerEvent}
    (moved : event.kind = .move ∨ event.kind = .drag) : bar.follows event = bar.isTracking := by
  unfold follows
  rcases moved with kind | kind
  · rw [kind]
  · rw [kind]

theorem mouseUp_snd {choice : Option MenuSelection} (eq : bar.mouseUp = .ok (choice, bar'))
    (tracking : bar.isTracking = true) : bar' = bar.close := by
  unfold mouseUp at eq
  split at eq
  · rename_i none
    rw [isTracking, none] at tracking
    cases tracking
  · split at eq
    · cases eq
      rfl
    · obtain ⟨menu, -, eq⟩ := Checked.bind_eq_ok_iff.mp eq
      split at eq
      · cases eq
      · cases eq
        rfl

end MenuBar

/-! ## Routing an event -/

namespace Router

variable {P α : Type} [WindowContent P] {c c' : Compositor P} {router router' : Router}
  {event : PointerEvent}

/-- A drag takes hold of nothing. -/
theorem drag_router (router : Router) (c : Compositor P) (p : Point) :
    Ensures (router.drag c p) fun outcome => outcome.2.1 = router ∨ outcome.2.1 = .idle := by
  unfold drag
  split
  · exact (Ensures.any _).bind fun _ _ => .pure (.inl rfl)
  · split
    · rename_i grab _
      dsimp only
      generalize p.x.subSat grab.offset.x = x
      generalize max (p.y.subSat grab.offset.y) Layout.menuBarHeight = y
      have same : (router.onWindows c (·.moveTo grab.window x y)).2.1 = router := rfl
      generalize router.onWindows c (·.moveTo grab.window x y) = outcome at same ⊢
      obtain ⟨e | ⟨⟨⟩⟩, router', c'⟩ := outcome
      · exact .pure (.inr rfl)
      · exact .pure (.inl same)
    · split
      · exact .pure (.inl rfl)
      · exact (Ensures.any _).bind fun _ _ => .pure (.inl rfl)

theorem press_turn {answer : Except DesktopError Unit} (kind : event.kind = .down)
    (eq : router.press c event.pos = .ok (answer, router', c')) :
    Turn event router c.menus router' c'.menus := by
  by_cases above : event.pos.y < Layout.menuBarHeight
  · rw [press_of_above router c above] at eq
    obtain ⟨⟨opened, tracked⟩, pressed, eq⟩ := Checked.bind_eq_ok_iff.mp eq
    cases eq
    obtain ⟨pressed, laid⟩ := Compositor.menus_trackMenu pressed
    rw [MenuBar.mouseDown, if_neg (Int16.not_le.mpr above)] at pressed
    obtain ⟨found, titled, pressed⟩ := Checked.bind_eq_ok_iff.mp pressed
    cases found with
    | some menu =>
      obtain ⟨-, same⟩ := Prod.mk.inj (Except.ok.inj pressed)
      rw [← same] at laid ⊢
      exact .opened kind above titled laid
    | none =>
      obtain ⟨-, same⟩ := Prod.mk.inj (Except.ok.inj pressed)
      rw [← same]
      refine .elsewhere ?_ (.inl rfl) fun up => ?_
      · rw [MenuBar.follows, kind]
        dsimp only
        rw [titled, Bool.and_eq_false_iff]
        exact .inr rfl
      · cases kind.symm.trans up
  · rw [(press_of_below router c above _ eq).menus]
    refine .elsewhere (MenuBar.not_follows_of_below kind above) ?_ fun up => ?_
    · exact .inr (.inr ⟨kind, Int16.not_lt.mp above⟩)
    · cases kind.symm.trans up

theorem drag_turn {answer : Except DesktopError Unit} (kind : event.kind = .drag)
    (eq : router.drag c event.pos = .ok (answer, router', c')) :
    Turn event router c.menus router' c'.menus := by
  cases tracking : c.menus.isTracking with
  | true =>
    rw [drag, tracking] at eq
    obtain ⟨tracked, followed, eq⟩ := Checked.bind_eq_ok_iff.mp eq
    cases eq
    obtain ⟨moved, laid⟩ := Compositor.menus_menuMouseMove followed
    exact .moved (.inr kind) tracking moved laid
  | false =>
    rw [(drag_of_closed router c tracking _ _ eq).menus]
    refine .elsewhere ?_ ?_ fun up => ?_
    · rw [MenuBar.follows_of_moved (.inr kind)]
      exact tracking
    · rcases drag_router router c _ _ eq with same | idle
      · exact .inl same
      · exact .inr (.inl idle)
    · cases kind.symm.trans up

/-- What routing an event makes of the router and of the menu bar. -/
theorem route_turn {answer : Except DesktopError (Option MenuSelection)}
    (eq : router.route c event = .ok (answer, router', c')) :
    Turn event router c.menus router' c'.menus := by
  unfold route at eq
  dsimp only at eq
  rw [← Compositor.menus_moveCursor event.pos]
  split at eq
  · rename_i kind
    cases eq
    refine .elsewhere ?_ (.inl rfl) fun up => ?_
    · rw [MenuBar.follows, kind]
    · cases kind.symm.trans up
  · rename_i kind
    obtain ⟨⟨answer, router', c'⟩, pressed, eq⟩ := Checked.bind_eq_ok_iff.mp eq
    cases eq
    exact press_turn kind pressed
  · rename_i kind
    split at eq
    · rename_i tracking
      obtain ⟨tracked, followed, eq⟩ := Checked.bind_eq_ok_iff.mp eq
      cases eq
      obtain ⟨moved, laid⟩ := Compositor.menus_menuMouseMove followed
      exact .moved (.inl kind) tracking moved laid
    · rename_i closed
      cases eq
      refine .elsewhere ?_ (.inl rfl) fun up => ?_
      · rw [MenuBar.follows_of_moved (.inl kind)]
        exact Bool.eq_false_iff.mpr closed
      · cases kind.symm.trans up
  · rename_i kind
    obtain ⟨⟨answer, router', c'⟩, dragged, eq⟩ := Checked.bind_eq_ok_iff.mp eq
    cases eq
    exact drag_turn kind dragged
  · rename_i kind
    split at eq
    · rename_i tracking
      obtain ⟨⟨choice, tracked⟩, released, eq⟩ := Checked.bind_eq_ok_iff.mp eq
      cases eq
      rw [MenuBar.mouseUp_snd (Compositor.menus_trackMenu released).1 tracking]
      exact .closed kind tracking
    · rename_i closed
      cases eq
      refine .elsewhere ?_ (.inr (.inl rfl)) fun _ => ⟨Bool.eq_false_iff.mpr closed, rfl⟩
      rw [MenuBar.follows, kind]

end Router

/-! ## Presses -/

namespace PointerEvent

/-- A press in the menu bar. -/
def PressesBar (event : PointerEvent) : Prop :=
  event.kind = .down ∧ event.pos.y < Layout.menuBarHeight

/-- A press below the menu bar. -/
def PressesBelow (event : PointerEvent) : Prop :=
  event.kind = .down ∧ Layout.menuBarHeight ≤ event.pos.y

instance (event : PointerEvent) : Decidable event.PressesBar :=
  inferInstanceAs (Decidable (_ ∧ _))

instance (event : PointerEvent) : Decidable event.PressesBelow :=
  inferInstanceAs (Decidable (_ ∧ _))

end PointerEvent

namespace Turn

variable {event : PointerEvent} {router router' : Router} {bar bar' : MenuBar}

/-- A release leaves no menu open and no window held. -/
theorem released (turn : Turn event router bar router' bar') (up : event.kind = .up) :
    bar'.isTracking = false ∧ router' = .idle := by
  cases turn with
  | elsewhere _ _ released => exact released up
  | opened kind => cases kind.symm.trans up
  | moved kind => rcases kind with kind | kind <;> cases kind.symm.trans up
  | closed => exact ⟨rfl, rfl⟩

/-- A menu is open because it was so before, or because of a press in the menu bar. -/
theorem isTracking (turn : Turn event router bar router' bar') (tracking : bar'.isTracking = true) :
    bar.isTracking = true ∨ event.PressesBar := by
  cases turn with
  | elsewhere => exact .inl tracking
  | opened kind above => exact .inr ⟨kind, above⟩
  | moved _ before => exact .inl before
  | closed => cases tracking

/-- A window is held because it was so before, or because of a press below the menu bar. -/
theorem isHeld (turn : Turn event router bar router' bar')
    (held : router'.dragging?.isSome = true) :
    router.dragging?.isSome = true ∨ event.PressesBelow := by
  cases turn with
  | elsewhere _ hold =>
    rcases hold with rfl | rfl | pressed
    · exact .inl held
    · cases held
    · exact .inr pressed
  | opened => exact .inl held
  | moved => exact .inl held
  | closed => cases held

end Turn

/-! ## Events one after the other -/

/-- What events leave behind. -/
structure Routing (P : Type) where
  router : Router
  compositor : Compositor P
  /-- Where the pointer was at the last event that the open menu followed. -/
  seen : Option Point

section Runs

variable {P : Type} [WindowContent P] {start : Compositor P} {events : List PointerEvent}
  {s : Routing P}

/-- Events are routed one after the other, the first of them while no window is held. -/
inductive Routed (start : Compositor P) : List PointerEvent → Routing P → Prop where
  | start : Routed start [] ⟨.idle, start, none⟩
  | event {events : List PointerEvent} {s : Routing P} {event : PointerEvent}
    {answer : Except DesktopError (Option MenuSelection)} {router : Router} {c : Compositor P}
    (before : Routed start events s)
    (routed : s.router.route s.compositor event = .ok (answer, router, c)) :
    Routed start (events ++ [event])
      ⟨router, c, if s.compositor.menus.follows event then some event.pos else s.seen⟩

/-- A sound compositor gets through all events. -/
theorem exists_routed {Good : P → Prop} (keeps : KeepsGood P Good) (sound : start.Sound Good)
    (events : List PointerEvent) : ∃ s, Routed start events s ∧ s.compositor.Sound Good := by
  induction events using List.reverseRecOn with
  | nil => exact ⟨_, .start, sound⟩
  | append_singleton events event ih =>
    obtain ⟨s, routed, sound⟩ := ih
    obtain ⟨⟨answer, router, c⟩, eq, sound⟩ := s.router.route_yields keeps sound event
    exact ⟨_, .event routed eq, sound⟩

/-- The events since the last release, the newest first. -/
def sinceRelease (events : List PointerEvent) : List PointerEvent :=
  events.reverse.takeWhile fun event => event.kind ≠ .up

theorem sinceRelease_concat {event : PointerEvent} (held : event.kind ≠ .up) :
    sinceRelease (events ++ [event]) = event :: sinceRelease events := by
  rw [sinceRelease, List.reverse_concat, List.takeWhile_cons_of_pos (by simpa using held)]
  rfl

/-- What only a certain kind of press brings about, and what no release leaves, tells of such a
press since the last release. -/
theorem Routed.exists_press (Holds : Router → MenuBar → Prop) {Press : PointerEvent → Prop}
    (begins : ¬Holds .idle start.menus)
    (step : ∀ {event router bar router' bar'}, Turn event router bar router' bar' →
      Holds router' bar' → event.kind ≠ .up ∧ (Holds router bar ∨ Press event))
    (routed : Routed start events s) (holds : Holds s.router s.compositor.menus) :
    ∃ event ∈ sinceRelease events, Press event := by
  induction routed with
  | start => exact absurd holds begins
  | event before routed ih =>
    obtain ⟨kind, earlier | pressed⟩ := step (Router.route_turn routed) holds
    · obtain ⟨press, mem, pressed⟩ := ih earlier
      rw [sinceRelease_concat kind]
      exact ⟨press, List.mem_cons_of_mem _ mem, pressed⟩
    · rw [sinceRelease_concat kind]
      exact ⟨_, List.mem_cons_self, pressed⟩

/-- A menu that is open was opened by a press in the menu bar. -/
theorem Routed.pressed_bar (closed : start.menus.isTracking = false) (routed : Routed start events s)
    (opened : s.compositor.menus.isTracking = true) :
    ∃ event ∈ sinceRelease events, event.PressesBar := by
  refine Routed.exists_press (fun _ bar => bar.isTracking = true) (Bool.eq_false_iff.mp closed)
    (fun turn tracking => ⟨fun up => ?_, turn.isTracking tracking⟩) routed opened
  rw [(turn.released up).1] at tracking
  cases tracking

/-- A window that is held was taken hold of by a press below the menu bar. -/
theorem Routed.pressed_below (routed : Routed start events s)
    (held : s.router.dragging?.isSome = true) :
    ∃ event ∈ sinceRelease events, event.PressesBelow := by
  refine Routed.exists_press (fun router _ => router.dragging?.isSome = true) Bool.false_ne_true
    (fun turn held => ⟨fun up => ?_, turn.isHeld held⟩) routed held
  rw [(turn.released up).2] at held
  cases held

/-! ## Exclusion -/

/-- Menus and windows exclude each other: a press below the menu bar leaves no menu open, and no
window is held while a menu is open. -/
structure Exclusive (events : List PointerEvent) (s : Routing P) : Prop where
  below : ∀ event ∈ events.getLast?, event.PressesBelow → s.compositor.menus.isTracking = false
  apart : ¬(s.compositor.menus.isTracking = true ∧ s.router.dragging?.isSome = true)

/-- All presses are on one side of the edge of the menu bar. -/
def OneSided (events : List PointerEvent) : Prop :=
  (∀ event ∈ events, ¬event.PressesBar) ∨ ∀ event ∈ events, ¬event.PressesBelow

/-- Events that are routed from a state without an open menu: what is open or held, tells of presses
since the last release, so that menus and windows exclude each other as long as all of these presses
are on one side of the edge of the menu bar. A sound compositor gets through all events. -/
theorem Routed.exclusive_of_oneSided (closed : start.menus.isTracking = false) :
    (∀ (events : List PointerEvent) (s : Routing P), Routed start events s →
      (s.compositor.menus.isTracking = true → ∃ event ∈ sinceRelease events, event.PressesBar) ∧
      (s.router.dragging?.isSome = true → ∃ event ∈ sinceRelease events, event.PressesBelow) ∧
      (OneSided (sinceRelease events) → Exclusive events s)) ∧
    ∀ Good : P → Prop, KeepsGood P Good → start.Sound Good →
      ∀ events : List PointerEvent, ∃ s, Routed start events s := by
  refine ⟨fun events s routed => ?_, fun Good keeps sound events => ?_⟩
  · have opened := routed.pressed_bar closed
    have held := routed.pressed_below
    refine ⟨opened, held, fun oneSided => ⟨fun event last pressed => ?_, fun ⟨tracking, hold⟩ => ?_⟩⟩
    · -- the press itself is one below the bar, so that none of the others was in the bar
      obtain ⟨earlier, rfl⟩ := List.getLast?_eq_some_iff.mp last
      have kind : event.kind ≠ .up := by
        rw [pressed.1]
        decide
      rw [sinceRelease_concat kind] at opened oneSided
      rcases oneSided with noneAbove | noneBelow
      · apply Bool.eq_false_iff.mpr
        intro tracking
        obtain ⟨press, mem, above⟩ := opened tracking
        exact noneAbove press mem above
      · exact absurd pressed (noneBelow event List.mem_cons_self)
    · obtain ⟨press, mem, above⟩ := opened tracking
      obtain ⟨press', mem', below⟩ := held hold
      rcases oneSided with noneAbove | noneBelow
      · exact noneAbove press mem above
      · exact noneBelow press' mem' below
  · obtain ⟨s, routed, -⟩ := exists_routed keeps sound events
    exact ⟨s, routed⟩

end Runs

/-- A desktop with one menu and one window. -/
def menuDesk : Compositor StandIn :=
  let c : Compositor StandIn := .initial
  let c := (c.openWindow ⟨100, 60, 200, 160⟩ "Doc" .document .visible).2
  { c with menus := ⟨[⟨"File", 10, 32, [⟨"New", .none, 257⟩]⟩], none⟩ }

/-- A press on the title of the menu, and a drag to its item. -/
theorem exclusive_of_oneSided_title : ∃ s,
    Routed menuDesk [⟨.down, .left, ⟨20, 5⟩, 0⟩, ⟨.drag, .left, ⟨30, 25⟩, 0⟩] s ∧
      s.compositor.menus.isTracking = true ∧
      Exclusive [⟨.down, .left, ⟨20, 5⟩, 0⟩, ⟨.drag, .left, ⟨30, 25⟩, 0⟩] s := by
  have closed : menuDesk.menus.isTracking = false := rfl
  have routed : Routed menuDesk [⟨.down, .left, ⟨20, 5⟩, 0⟩, ⟨.drag, .left, ⟨30, 25⟩, 0⟩] _ :=
    .event (.event .start rfl) rfl
  exact ⟨_, routed, rfl,
    ((Routed.exclusive_of_oneSided closed).1 _ _ routed).2.2 (.inr (by decide))⟩

/-- While the menu is open, a second button takes hold of the window below it: the menu stays
open. -/
theorem second_button_keeps_menu : ∃ s,
    Routed menuDesk [⟨.down, .left, ⟨20, 5⟩, 0⟩, ⟨.down, .ofBits 3, ⟨150, 65⟩, 0⟩] s ∧
      s.compositor.menus.isTracking = true ∧ s.router.dragging? = some ⟨0⟩ ∧
      ¬Exclusive [⟨.down, .left, ⟨20, 5⟩, 0⟩, ⟨.down, .ofBits 3, ⟨150, 65⟩, 0⟩] s := by
  have routed : Routed menuDesk [⟨.down, .left, ⟨20, 5⟩, 0⟩, ⟨.down, .ofBits 3, ⟨150, 65⟩, 0⟩] _ :=
    .event (.event .start rfl) rfl
  exact ⟨_, routed, rfl, rfl, fun exclusive => exclusive.apart ⟨rfl, rfl⟩⟩

end TwinDesk
