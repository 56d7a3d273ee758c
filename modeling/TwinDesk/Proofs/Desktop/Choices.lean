import TwinDesk.Proofs.Desktop.Routing
import TwinDesk.Proofs.Menu.Rows

/-!
# What a release chooses

While a menu is open, it highlights the item under the pointer with every event that it follows. A
release chooses what is highlighted, wherever the pointer is by then: its own position does not
count. So the choice is the item at the release where the pointer has been there before, and may be
another one where motion and release come as one event.

* `Routed.highlights` — the highlight, after any events.
* `Routing.ReleaseChoosesAt` — a release chooses the item at a point.
* `Routing.release_yields` — it chooses what is highlighted.
* `Routed.release_chooses_followed` — the point is that of the last event that the menu followed.
* `release_elsewhere_chooses` — a release away from the menu that chooses an item all the same.
-/

namespace TwinDesk

/-! ## The highlight after an event -/

namespace Turn

variable {event : PointerEvent} {router router' : Router} {bar bar' : MenuBar}

/-- A menu that follows an event highlights what is under the pointer, and one that does not keeps
its highlight. -/
theorem highlights (turn : Turn event router bar router' bar') {seen : Option Point}
    (before : bar.Highlights seen) :
    bar'.Highlights (if bar.follows event then some event.pos else seen) := by
  cases turn with
  | elsewhere unfollowed =>
    rw [unfollowed]
    exact before
  | opened kind above titled laid =>
    have followed : bar.follows event = true := by
      rw [MenuBar.follows, kind]
      dsimp only
      rw [titled, decide_eq_true above]
      rfl
    rw [followed]
    exact MenuBar.highlights_of_above above rfl laid
  | moved kind tracking moved laid =>
    rw [MenuBar.follows_of_moved kind, tracking]
    exact MenuBar.highlights_mouseMove tracking moved laid
  | closed => exact MenuBar.highlights_of_closed rfl _

end Turn

section Runs

variable {P : Type} [WindowContent P] {start : Compositor P} {events : List PointerEvent}
  {s : Routing P}

/-- After any events, the open menu highlights the item that can be chosen where the pointer was at
the last event that it followed. -/
theorem Routed.highlights (closed : start.menus.isTracking = false)
    (routed : Routed start events s) : s.compositor.menus.Highlights s.seen := by
  induction routed with
  | start => exact MenuBar.highlights_of_closed closed _
  | event before routed ih => exact (Router.route_turn routed).highlights ih

/-- A menu that is open after a move or a drag has followed it. -/
theorem Routed.seen_of_moved (routed : Routed start events s)
    (tracking : s.compositor.menus.isTracking = true) :
    ∀ event ∈ events.getLast?, event.kind = .move ∨ event.kind = .drag → s.seen = some event.pos := by
  intro event last moved
  cases routed with
  | start => cases last
  | event before routed =>
    rw [List.getLast?_concat] at last
    cases last
    rcases (Router.route_turn routed).isTracking tracking with earlier | ⟨pressed, -⟩
    · exact if_pos ((MenuBar.follows_of_moved moved).trans earlier)
    · rw [pressed] at moved
      rcases moved with kind | kind <;> cases kind

/-! ## The choice -/

/-- A release is routed, and chooses from the open menu what can be chosen at a point. -/
def Routing.ReleaseChoosesAt (s : Routing P) (release : PointerEvent) (p : Point) : Prop :=
  ∀ tracking ∈ s.compositor.menus.tracking, ∃ menu,
    s.compositor.menus.menus[tracking.menu]? = some menu ∧
    Yields (s.router.route s.compositor release) fun outcome =>
      ∃ choice, outcome.1 = .ok choice ∧ menu.Chooses tracking.menu p choice

/-- A release is routed whatever its position, and chooses what the open menu highlights. -/
theorem Routing.release_yields (highlights : s.compositor.menus.Highlights s.seen)
    (opened : s.compositor.menus.isTracking = true) {release : PointerEvent}
    (up : release.kind = .up) : ∃ p, s.seen = some p ∧ s.ReleaseChoosesAt release p := by
  obtain ⟨tracking, known⟩ := Option.isSome_iff_exists.mp opened
  obtain ⟨menu, p, found, seen, chosen⟩ := highlights.mouseUp_yields known
  -- the cursor moves first, which changes nothing about the menus
  have menus : (s.compositor.moveCursor release.pos).menus = s.compositor.menus :=
    Compositor.menus_moveCursor release.pos
  have laid : Succeeds (s.compositor.moveCursor release.pos).menus.dropdownArea := by
    rw [menus]
    exact highlights.laid
  have stepped : Yields (s.compositor.moveCursor release.pos).menus.mouseUp fun result =>
      menu.Chooses tracking.menu p result.1 ∧ Succeeds result.2.dropdownArea := by
    rw [menus]
    apply chosen.mono
    rintro ⟨choice, bar⟩ ⟨rfl, chooses⟩
    exact ⟨chooses, .pure trivial⟩
  have released : Yields (s.compositor.moveCursor release.pos).menuMouseUp fun result =>
      menu.Chooses tracking.menu p result.1 :=
    Compositor.trackMenu_yields_of_laid laid stepped
  refine ⟨p, seen, fun tracking' known' => ?_⟩
  cases known.symm.trans known'
  refine ⟨menu, found, ?_⟩
  unfold Router.route
  rw [up]
  dsimp only
  rw [menus, if_pos opened]
  exact released.bind fun result chooses => .pure ⟨result.1, rfl, chooses⟩

/-- Whatever events came before, a release chooses the item at the place of the last event that the
open menu followed. That is the place of the release, if the pointer has moved or dragged there
before. -/
theorem Routed.release_chooses_followed (closed : start.menus.isTracking = false)
    (routed : Routed start events s) (opened : s.compositor.menus.isTracking = true)
    {release : PointerEvent} (up : release.kind = .up) :
    ∃ p, s.seen = some p ∧ s.ReleaseChoosesAt release p ∧
      ((∃ event ∈ events.getLast?, (event.kind = .move ∨ event.kind = .drag) ∧
        event.pos = release.pos) → s.ReleaseChoosesAt release release.pos) := by
  obtain ⟨p, seen, chooses⟩ := s.release_yields (routed.highlights closed) opened up
  refine ⟨p, seen, chooses, ?_⟩
  rintro ⟨event, last, kind, same⟩
  have here := routed.seen_of_moved opened event last kind
  rw [← same, ← Option.some.inj (seen.symm.trans here)]
  exact chooses

end Runs

/-- A press on the title, a drag to the item and a release there. -/
theorem release_chooses_followed_item : ∃ s,
    Routed menuDesk [⟨.down, .left, ⟨20, 5⟩, 0⟩, ⟨.drag, .left, ⟨30, 25⟩, 0⟩] s ∧
      s.ReleaseChoosesAt ⟨.up, .none, ⟨30, 25⟩, 0⟩ ⟨30, 25⟩ := by
  have routed : Routed menuDesk [⟨.down, .left, ⟨20, 5⟩, 0⟩, ⟨.drag, .left, ⟨30, 25⟩, 0⟩] _ :=
    .event (.event .start rfl) rfl
  have up : (⟨.up, .none, ⟨30, 25⟩, 0⟩ : PointerEvent).kind = .up := rfl
  obtain ⟨p, -, -, here⟩ := Routed.release_chooses_followed rfl routed rfl up
  exact ⟨_, routed, here ⟨⟨.drag, .left, ⟨30, 25⟩, 0⟩, rfl, .inr rfl, rfl⟩⟩

/-- The same with the release far away: the item is chosen, though there is none at that place. -/
theorem release_elsewhere_chooses : ∃ s,
    Routed menuDesk [⟨.down, .left, ⟨20, 5⟩, 0⟩, ⟨.drag, .left, ⟨30, 25⟩, 0⟩] s ∧
      s.compositor.menus.isTracking = true ∧
      ¬s.ReleaseChoosesAt ⟨.up, .none, ⟨250, 150⟩, 0⟩ ⟨250, 150⟩ := by
  have routed : Routed menuDesk [⟨.down, .left, ⟨20, 5⟩, 0⟩, ⟨.drag, .left, ⟨30, 25⟩, 0⟩] _ :=
    .event (.event .start rfl) rfl
  refine ⟨_, routed, rfl, fun chooses => ?_⟩
  obtain ⟨menu, found, outcome, released, choice, answer, chosen⟩ := chooses _ rfl
  cases found
  cases released
  cases answer
  obtain ⟨-, item, ⟨⟨⟨drop, laid, left, right⟩, -⟩, -⟩, -⟩ := (chosen ⟨0, 0, 257⟩).mp rfl
  cases laid
  revert right
  decide

end TwinDesk
