import Mathlib.Data.List.Infix
import Mathlib.Data.List.ReduceOption
import TwinDesk.Main.FrameLoop
import TwinDesk.Proofs.Geometry.Bounds

/-!
# What the pointer has done

The pointer device is read once per round of the frame loop. The tracker adds the readings up, and
makes an event of every reading that tells anything new.

* `Tracker.after`, `Tracker.eventAt` — the tracker after so many readings, and the event that one of
  them makes.
* `Tracker.isSome_eventAt_iff` — which readings make an event.
* `Tracker.pos_after_succ` — the pointer moves by events alone.
* `Tracker.inOrder_events` — a move is made with no button held, a drag only after a press.
-/

namespace TwinDesk

/-! ## Single events -/

namespace PointerEvent

variable {pos : Point} {buttons previous : Buttons} {dx dy : Coord} {event : PointerEvent}

theorem isSome_classify?_iff :
    (classify? pos buttons previous dx dy).isSome = true ↔
      buttons ≠ previous ∨ dx ≠ 0 ∨ dy ≠ 0 := by
  unfold classify?
  split
  case isTrue changed => simp [changed]
  case isFalse same =>
    split
    case isTrue motion => simp [motion]
    case isFalse still => simp [same, still]

/-- The event was made when these buttons had been held before it. -/
def Made (previous : Buttons) (event : PointerEvent) : Prop :=
  ∃ dx dy, classify? event.pos event.buttons previous dx dy = some event

theorem made_of_classify? (eq : classify? pos buttons previous dx dy = some event) :
    event.pos = pos ∧ event.buttons = buttons ∧ event.Made previous := by
  have same : event.pos = pos ∧ event.buttons = buttons := by
    unfold classify? at eq
    split at eq
    · cases eq
      exact ⟨rfl, rfl⟩
    · split at eq
      · cases eq
        exact ⟨rfl, rfl⟩
      · cases eq
  obtain ⟨rfl, rfl⟩ := same
  exact ⟨rfl, rfl, dx, dy, eq⟩

/-- What an event is, is told by the buttons before and after it. -/
theorem Made.cases (made : event.Made previous) :
    (event.buttons ≠ previous ∧
      event.kind = if (event.buttons.newlyPressed previous).isEmpty then .up else .down) ∨
    (event.buttons = previous ∧ event.kind = if event.buttons.isEmpty then .move else .drag) := by
  obtain ⟨dx, dy, eq⟩ := made
  unfold classify? at eq
  split at eq
  case isTrue changed =>
    exact .inl ⟨changed, (congrArg kind (Option.some.inj eq)).symm⟩
  case isFalse same =>
    split at eq
    · exact .inr ⟨Decidable.not_not.mp same, (congrArg kind (Option.some.inj eq)).symm⟩
    · cases eq

namespace Made

variable (made : event.Made previous)
include made

theorem not_held_of_move (move : event.kind = .move) : event.buttons.isEmpty = true := by
  rcases made.cases with ⟨-, kind⟩ | ⟨-, kind⟩
  · rw [move] at kind
    split at kind <;> cases kind
  · by_contra held
    rw [if_neg held, move] at kind
    cases kind

theorem held_of_drag (drag : event.kind = .drag) :
    event.buttons.isEmpty = false ∧ previous.isEmpty = false := by
  rcases made.cases with ⟨-, kind⟩ | ⟨same, kind⟩
  · rw [drag] at kind
    split at kind <;> cases kind
  · rw [← same, and_self]
    by_contra none
    rw [if_pos (Bool.not_eq_false _ ▸ none), drag] at kind
    cases kind

/-- Buttons are still held after an event only if they were before it, or if it is a press. -/
theorem held_before (held : event.buttons.isEmpty = false) (other : event.kind ≠ .down) :
    previous.isEmpty = false := by
  rcases made.cases with ⟨-, kind⟩ | ⟨same, -⟩
  · by_contra none
    -- where no button was held, all that are held now are new
    have clear : previous.bits = 0 := by simpa [Buttons.isEmpty] using none
    have new : event.buttons.newlyPressed previous = event.buttons := by
      simp [Buttons.newlyPressed, clear]
    rw [new, held] at kind
    exact other kind
  · rw [← same]
    exact held

end Made

end PointerEvent

namespace Tracker

/-- A motion that is cut off is a motion still. -/
theorem limit_eq_zero_iff {delta : Coord} : limit delta = 0 ↔ delta = 0 := by
  have value : (limit delta).toInt = min (max delta.toInt (-255)) 255 := delta.toInt_clamp _ _
  rw [← Int16.toInt_inj, ← Int16.toInt_inj, value]
  show _ = (0 : Int) ↔ delta.toInt = (0 : Int)
  omega

/-- Without motion a pointer on the screen stays where it is. -/
theorem moved_zero {pos : Point} (inside : Layout.screen.contains pos = true) :
    moved pos 0 0 = pos := by
  have still {x : Coord} {size : Int} (bound : Coord) (high : bound.toInt = size - 1)
      (low : 0 ≤ x.toInt) (lt : x.toInt < size) : (x.addSat 0).clamp 0 bound = x := by
    have range := x.toInt_bounds
    rw [← Int16.toInt_inj, Coord.toInt_clamp, Coord.toInt_addSat, high]
    show min (max (max (-32768) (min 32767 (x.toInt + 0))) 0) (size - 1) = x.toInt
    omega
  obtain ⟨left, right, top, bottom⟩ := Rect.contains_iff.mp inside
  rw [Int16.le_iff_toInt_le] at left top
  rw [Int16.lt_iff_toInt_lt] at right bottom
  rw [moved, still _ rfl left right, still _ rfl top bottom]

/-- A sample leaves a tracker on the screen as it is, or makes an event that tells all that the
tracker knows afterwards. -/
theorem update_cases {tracker : Tracker} (inside : Layout.screen.contains tracker.pos = true)
    (sample : PointerSample) :
    ((tracker.update sample).1 = none ∧ (tracker.update sample).2 = tracker) ∨
    ∃ event, (tracker.update sample).1 = some event ∧
      (tracker.update sample).2 = ⟨event.pos, event.buttons⟩ ∧ event.Made tracker.buttons := by
  cases made : (tracker.update sample).1 with
  | some event =>
    obtain ⟨pos, buttons, made⟩ := PointerEvent.made_of_classify? made
    exact .inr ⟨event, rfl, by rw [pos, buttons]; rfl, made⟩
  | none =>
    have quiet : ¬ _ := PointerEvent.isSome_classify?_iff.not.mp
      (Option.not_isSome_iff_eq_none.mpr made)
    simp only [not_or, Decidable.not_not] at quiet
    obtain ⟨buttons, dx, dy⟩ := quiet
    have same : (tracker.update sample).2 =
        ⟨moved tracker.pos (limit sample.dx) (limit sample.dy), sample.buttons⟩ := rfl
    rw [same, dx, dy, buttons, moved_zero inside]
    exact .inl ⟨rfl, rfl⟩

end Tracker

/-! ## Streams of events -/

namespace PointerEvent

variable {event : PointerEvent}

/-- A button was pressed, and some button is held ever since. -/
def Pressed (events : List PointerEvent) : Prop :=
  ∃ earlier down later, events = earlier ++ down :: later ∧ down.kind = .down ∧
    ∀ event ∈ down :: later, event.buttons.isEmpty = false

/-- Whether an event may follow the ones before it: no button is held during a move, and a drag
needs a press first. -/
structure MayFollow (before : List PointerEvent) (event : PointerEvent) : Prop where
  move : event.kind = .move → event.buttons.isEmpty = true
  drag : event.kind = .drag → event.buttons.isEmpty = false ∧ Pressed before

/-- Every event may follow the ones before it. -/
def InOrder (events : List PointerEvent) : Prop :=
  ∀ before event, before ++ [event] <+: events → MayFollow before event

theorem Pressed.of_down {events : List PointerEvent} (down : event.kind = .down)
    (held : event.buttons.isEmpty = false) : Pressed (events ++ [event]) :=
  ⟨events, event, [], rfl, down, List.forall_mem_singleton.mpr held⟩

theorem Pressed.concat {events : List PointerEvent} (pressed : Pressed events)
    (held : event.buttons.isEmpty = false) : Pressed (events ++ [event]) := by
  obtain ⟨earlier, down, later, rfl, kind, since⟩ := pressed
  refine ⟨earlier, down, later ++ [event], by simp, kind, ?_⟩
  rw [← List.cons_append]
  exact List.forall_mem_append.mpr ⟨since, List.forall_mem_singleton.mpr held⟩

namespace InOrder

theorem nil : InOrder [] := by
  intro before event none
  simp at none

theorem concat {events : List PointerEvent} (inOrder : InOrder events)
    (next : MayFollow events event) : InOrder (events ++ [event]) := by
  intro before last starts
  rcases List.prefix_concat_iff.mp starts with same | earlier
  · obtain ⟨rfl, single⟩ := List.append_inj' same rfl
    cases single
    exact next
  · exact inOrder before last earlier

theorem of_prefix {events events' : List PointerEvent} (inOrder : InOrder events')
    (starts : events <+: events') : InOrder events :=
  fun before event earlier => inOrder before event (earlier.trans starts)

end InOrder

end PointerEvent

/-! ## Readings one after the other -/

namespace Tracker

variable (samples : List (Option PointerSample))

/-- The reading of round number `k`, counted from zero, if there is one. -/
def reading? (k : Nat) : Option PointerSample :=
  samples[k]?.join

/-- The tracker after so many rounds. -/
def after : Nat → Tracker
  | 0 => .initial
  | k + 1 =>
    match reading? samples k with
    | none => after k
    | some sample => ((after k).update sample).2

/-- The event that the reading of round number `k` makes. -/
def eventAt (k : Nat) : Option PointerEvent :=
  (reading? samples k).bind fun sample => ((after samples k).update sample).1

/-- The events that the readings of so many rounds make. -/
def events (rounds : Nat) : List PointerEvent :=
  (List.range rounds).filterMap (eventAt samples)

/-- The buttons that were held at the last reading before round number `k`. -/
def heldBefore (k : Nat) : Buttons :=
  ((samples.take k).reduceOption.getLast?.map (·.buttons)).getD .none

/-- A reading tells something new: other buttons are held than before, or the pointer has moved. -/
def Stirs (k : Nat) : Prop :=
  ∃ sample, reading? samples k = some sample ∧
    (sample.buttons ≠ heldBefore samples k ∨ sample.dx ≠ 0 ∨ sample.dy ≠ 0)

variable {samples} {k : Nat}

theorem after_of_none (missing : reading? samples k = none) :
    after samples (k + 1) = after samples k ∧ eventAt samples k = none := by
  simp [after, eventAt, missing]

theorem after_of_some {sample : PointerSample} (read : reading? samples k = some sample) :
    (eventAt samples k, after samples (k + 1)) = (after samples k).update sample := by
  simp [after, eventAt, read]

variable (samples) in
theorem events_succ (k : Nat) :
    events samples (k + 1) = events samples k ++ (eventAt samples k).toList := by
  unfold events
  rw [List.range_succ, List.filterMap_append]
  cases event : eventAt samples k with
  | none => simp [event]
  | some event => simp [event]

theorem heldBefore_succ : heldBefore samples (k + 1) =
    ((reading? samples k).map (·.buttons)).getD (heldBefore samples k) := by
  unfold heldBefore reading?
  rw [List.take_add_one]
  rcases samples[k]? with _ | _ | sample
  · simp
  · simp [List.reduceOption_append]
  · simp [List.reduceOption_append]

theorem buttons_after : (after samples k).buttons = heldBefore samples k := by
  induction k with
  | zero => rfl
  | succ k ih =>
    rw [heldBefore_succ]
    cases read : reading? samples k with
    | none =>
      rw [(after_of_none read).1]
      exact ih
    | some sample => exact congrArg (fun next => next.2.buttons) (after_of_some read)

/-- The pointer never leaves the screen. -/
theorem contains_after : Layout.screen.contains (after samples k).pos = true := by
  induction k with
  | zero =>
    have begins : Layout.screen.contains Tracker.initial.pos = true := by decide
    exact begins
  | succ k ih =>
    cases read : reading? samples k with
    | none =>
      rw [(after_of_none read).1]
      exact ih
    | some sample =>
      rw [(Prod.mk.inj (after_of_some read)).2]
      exact contains_moved _ _ _

/-- A reading makes an event exactly when it tells something new. -/
theorem isSome_eventAt_iff : (eventAt samples k).isSome = true ↔ Stirs samples k := by
  unfold Stirs
  cases read : reading? samples k with
  | none => simp [eventAt, read]
  | some sample =>
    rw [(Prod.mk.inj (after_of_some read)).1]
    show (PointerEvent.classify? _ _ _ _ _).isSome = true ↔ _
    rw [PointerEvent.isSome_classify?_iff, buttons_after, Ne, Ne, Ne, limit_eq_zero_iff,
      limit_eq_zero_iff]
    simp

/-- A round without an event leaves the tracker as it is; an event tells all that the tracker knows
after it. -/
theorem eventAt_cases (samples : List (Option PointerSample)) (k : Nat) :
    (eventAt samples k = none ∧ after samples (k + 1) = after samples k) ∨
    ∃ event, eventAt samples k = some event ∧
      after samples (k + 1) = ⟨event.pos, event.buttons⟩ ∧
      event.Made (after samples k).buttons := by
  cases read : reading? samples k with
  | none => exact .inl (after_of_none read).symm
  | some sample =>
    obtain ⟨event, next⟩ := Prod.mk.inj (after_of_some read)
    rw [event, next]
    exact update_cases contains_after sample

/-- A round takes the pointer to its event, or nowhere. -/
theorem pos_after_succ : (after samples (k + 1)).pos =
    ((eventAt samples k).map (·.pos)).getD (after samples k).pos := by
  rcases eventAt_cases samples k with ⟨none, same⟩ | ⟨event, some, next, -⟩
  · rw [none, same]
    rfl
  · rw [some, next]
    rfl

/-- While a button is held, there was a press since all buttons were released. -/
theorem pressed_of_held (held : (after samples k).buttons.isEmpty = false) :
    PointerEvent.Pressed (events samples k) := by
  induction k with
  | zero => cases held
  | succ k ih =>
    rw [events_succ]
    rcases eventAt_cases samples k with ⟨none, same⟩ | ⟨event, some, next, made⟩
    · rw [same] at held
      rw [none, Option.toList_none, List.append_nil]
      exact ih held
    · rw [next] at held
      rw [some, Option.toList_some]
      by_cases press : event.kind = .down
      · exact .of_down press held
      · exact (ih (made.held_before held press)).concat held

/-- The events of a tracker are in order. -/
theorem inOrder_events (samples : List (Option PointerSample)) (k : Nat) :
    PointerEvent.InOrder (events samples k) := by
  induction k with
  | zero => exact .nil
  | succ k ih =>
    rw [events_succ]
    rcases eventAt_cases samples k with ⟨none, -⟩ | ⟨event, some, -, made⟩
    · rw [none, Option.toList_none, List.append_nil]
      exact ih
    · rw [some, Option.toList_some]
      refine ih.concat ⟨made.not_held_of_move, fun drag => ?_⟩
      obtain ⟨held, before⟩ := made.held_of_drag drag
      exact ⟨held, pressed_of_held before⟩

end Tracker

end TwinDesk
