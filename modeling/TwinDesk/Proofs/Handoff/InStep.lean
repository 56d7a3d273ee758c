import TwinDesk.Proofs.Handoff.EndToEnd
import TwinDesk.Proofs.Handshake.Observer

/-!
# Pointer and cursor in step

The Main processor adds up what its pointer device reports, and the Sub processor moves the cursor
to the positions that it is told. The two positions agree whenever the frame loop is between two
rounds. For this no event may get lost or be refused, and the pointer must not move without an
event.

* `conversation` — what an observer of the link sees of so many rounds.
* `Noted` — what was seen is what has become of the handshake.
* `Studio.Current` — the cursor is where the requests so far have taken it.
* `cursor_in_step` — pointer, cursor and events in every interleaving.
-/

namespace TwinDesk

open Handshake Program Relation

namespace Handoff

/-! ## Conversations -/

variable (samples : List (Option PointerSample))

/-- The exchanges of so many rounds: in each of them an event is delivered, if there is one, and a
frame is asked for, and all of it is done. -/
def conversation (rounds : Nat) : List Exchange :=
  (asked samples rounds).map (.mk · .done)

/-- The pointer events in these exchanges, as the Sub processor reads them. -/
def eventsIn (log : List Exchange) : List PointerEvent :=
  log.filterMap (·.request.event?)

variable {samples} {k : Nat}

theorem filterMap_asks (event : Option PointerEvent) :
    (asks event).filterMap Request.event? = event.toList := by
  cases event <;> simp [asks, delivery]

/-- Requests that contain every frame so far contain everything so far: a round ends with its
frame. -/
theorem eq_asked_of_frames {requests : List Request} (begins : requests <+: asked samples k)
    (frames : k ≤ framesIn requests) : requests = asked samples k := by
  cases k with
  | zero => exact List.prefix_nil.mp begins
  | succ k =>
    have whole := framesIn_asked samples (k + 1)
    rw [asked_succ, asks, ← List.append_assoc] at begins whole ⊢
    refine (List.prefix_concat_iff.mp begins).resolve_right fun earlier => ?_
    have fewer := framesIn_mono earlier
    rw [framesIn_concat, if_pos isFrame_frameCommand] at whole
    omega

/-- The requests of the rounds take the cursor wherever the pointer is. -/
theorem cursorAfter_asked : cursorAfter (asked samples k) = (Tracker.after samples k).pos := by
  induction k with
  | zero => rfl
  | succ k ih =>
    rw [Tracker.pos_after_succ, ← ih, asked_succ]
    unfold cursorAfter
    rw [List.filterMap_append, filterMap_asks]
    cases Tracker.eventAt samples k with
    | none => simp
    | some event => simp

theorem eventsIn_conversation : eventsIn (conversation samples k) = Tracker.events samples k := by
  have events : (asked samples k).filterMap Request.event? = Tracker.events samples k := by
    induction k with
    | zero => rfl
    | succ k ih => rw [asked_succ, Tracker.events_succ, List.filterMap_append, ih, filterMap_asks]
  unfold eventsIn conversation
  rw [List.filterMap_map]
  exact events

/-! ## What is seen of the link -/

variable {start : Bool} {log : List Exchange}

/-- The exchanges that were seen are those of the handshake, and all of them were done. -/
def Noted (log : List Exchange) (w : World start) : Prop :=
  log = w.link.course.answered.map (.mk · .done)

theorem exchange?_withMemory (before after : GateArray) (mode mode' : MemMode)
    (banks banks' : Vector BankCell 2) :
    (before.withMemory mode banks).exchange? (after.withMemory mode' banks') =
      before.exchange? after :=
  rfl

/-- Whatever a move shows to an observer is noted. -/
theorem Noted.moved {side : Side} {w w' : World start} (move : (rules start).Moves side w w')
    (noted : Noted log w) : Noted (log ++ (w.chip.exchange? w'.chip).toList) w' := by
  unfold Noted World.chip at *
  rw [exchange?_withMemory]
  rcases exchange_of_moves move.1 with ⟨none, same⟩ | ⟨request, reply, seen, next, done⟩
  · rw [none, same, Option.toList_none, List.append_nil]
    exact noted
  · have done : reply.status = .done := done
    rw [seen, next, done, noted, Option.toList_some, List.map_append, List.map_singleton]

section

variable {w : World start} (noted : Noted log w)
include noted

theorem Noted.done : ∀ exchange ∈ log, exchange.status = .done := by
  intro exchange mem
  rw [noted] at mem
  obtain ⟨request, -, rfl⟩ := List.mem_map.mp mem
  rfl

/-- In the middle of a round, a part of the conversation was seen. -/
theorem Noted.begins {rounds : List Round} (watching : Watching rounds (asked samples k) w) :
    log <+: conversation samples k := by
  rw [noted]
  exact ((List.take_prefix _ _).trans watching.asked).map _

/-- Between two rounds, all of it was seen. -/
theorem Noted.whole (idle : Idle (asked samples k) w) : log = conversation samples k := by
  rw [noted, idle.answered]
  rfl

end

/-- The events in any part of a conversation are in order. -/
theorem inOrder_eventsIn (begins : log <+: conversation samples k) :
    PointerEvent.InOrder (eventsIn log) := by
  have inOrder := Tracker.inOrder_events samples k
  rw [← eventsIn_conversation] at inOrder
  exact inOrder.of_prefix (begins.filterMap _)

/-! ## The cursor -/

/-- Requests that were made on the link have taken the cursor where it is. Every frame that was
painted is among them. -/
structure Studio.Current (studio : Studio) (w : World start) : Prop where
  known : ∃ requests, requests <+: w.link.course.requests ∧
    framesIn requests = studio.paints.length ∧
    studio.dispatcher.desktop.compositor.cursor = cursorAfter requests

namespace Studio

variable {studio : Studio} {w : World start}

/-- No request is ever taken back. -/
theorem Current.kept (studio : Studio) : (rules start).Kept studio.Current := by
  rintro side w w' ⟨⟨-, lingers | advances⟩, -⟩ ⟨requests, begins, count, cursor⟩
  · exact ⟨requests, lingers.course ▸ begins, count, cursor⟩
  · exact ⟨requests, begins.trans advances.step.requests_grow, count, cursor⟩

theorem Ready.current (ready : studio.Ready w) : studio.Current w := by
  rcases ready with ⟨requests, _, listening, free⟩ | ⟨requests, _, request, releasing, held⟩
  · exact ⟨requests, free.link.course.known, listening.count.symm, listening.cursor⟩
  · exact ⟨requests ++ [request], held.link.course.asked ▸ List.prefix_rfl, releasing.count.symm,
      releasing.cursor⟩

/-- The studio upholds this besides. -/
theorem upholds_current : (rules start).Upholds .sub Studio.role
    (fun studio w => Serving studio.paints w ∧ studio.Current w) Studio.Ready :=
  Studio.upholds.framed Current.kept fun _ _ => Ready.current

end Studio

/-- Between two rounds, the cursor is where the pointer is: the Sub processor has released every
command, so nothing is missing from what it knows. -/
theorem Viewer.Ready.in_step {viewer : Viewer} {studio : Studio} {w : World start}
    (ready : viewer.Ready samples w) (serving : Serving studio.paints w)
    (current : studio.Current w) :
    studio.dispatcher.desktop.compositor.cursor = viewer.loop.tracker.pos := by
  obtain ⟨paints, resting⟩ := ready.resting
  obtain ⟨requests, begins, count, cursor⟩ := current
  have past := resting.idle.past
  rw [framesIn_asked] at past
  rw [resting.idle.course.2] at begins
  have same : requests = asked samples viewer.rounds.length := by
    refine eq_asked_of_frames begins ?_
    rw [count, ← past]
    exact serving.past
  rw [cursor, same, cursorAfter_asked, ready.tracker]

/-! ## Every interleaving -/

section

variable {first chip : GateArray} {painter : Canvas} {launcher : Launcher} {d : Dispatcher Canvas}
  {system : System Viewer Studio}

/-- The assertions of both processors hold in every interleaving, and what was seen is noted. -/
theorem upheld_observed (booted : Dispatcher.Booted first painter launcher chip d)
    (undisturbed : Undisturbed first) (samples : List (Option PointerSample))
    (observed : System.Observed Viewer.role Studio.role (initial chip samples d) system log) :
    ∃ w : World first.mode.select, Noted log w ∧
      (rules _).InForce .main (Viewer.Within samples) (Viewer.Ready samples) system.main w ∧
      (rules _).InForce .sub (fun studio w => Serving studio.paints w ∧ studio.Current w)
        Studio.Ready system.sub w := by
  obtain ⟨rfl, -⟩ := booted.known
  rw [← (memory_bootedChip first).1]
  have quiet := Dispatcher.quiet_bootedChip booted.quiet
  have initially : ∃ w : World (Dispatcher.bootedChip first).mode.select, Noted [] w ∧
      (rules _).chip w = Dispatcher.bootedChip first ∧
      (rules _).InForce .main (Viewer.Within samples) (Viewer.Ready samples)
        (.free (.initial samples)) w ∧
      (rules _).InForce .sub (fun studio w => Serving studio.paints w ∧ studio.Current w)
        Studio.Ready (.free (.initial d)) w :=
    ⟨.ofBooted quiet undisturbed.booted, rfl, rfl, Viewer.ready_initial _ _ samples,
      Studio.ready_initial _ _ booted⟩
  obtain ⟨w, noted, -, inForce⟩ :=
    System.upheld_of_observed Viewer.upholds Studio.upholds_current hardware_moves
      (fun _ _ _ _ => Noted.moved) initially observed
  exact ⟨w, noted, inForce⟩

end

/-- Whatever the order in which the two processors and the chip take their steps, from a dispatcher
that has booted on:
between two rounds of the frame loop, the tracker has added up one reading per round, and the cursor
is where the pointer is, on the screen; an observer of the link has seen, round by round, one
pointer event exactly if the reading tells anything new, and then the request for a frame; in the
middle of a round, it has seen a part of that. All commands are done, and among the events a move is
made with no button held, a drag with some button held that was pressed since all of them were
released. -/
theorem cursor_in_step {start chip : GateArray} {painter : Canvas} {launcher : Launcher}
    {d : Dispatcher Canvas} (booted : Dispatcher.Booted start painter launcher chip d)
    (undisturbed : Undisturbed start) (samples : List (Option PointerSample))
    {system : System Viewer Studio} {log : List Exchange}
    (observed : System.Observed Viewer.role Studio.role (initial chip samples d) system log) :
    (∀ viewer, system.main = .free viewer →
      viewer.loop.tracker = Tracker.after samples viewer.rounds.length ∧
      system.sub.state.dispatcher.desktop.compositor.cursor = viewer.loop.tracker.pos ∧
      Layout.screen.contains viewer.loop.tracker.pos = true ∧
      log = conversation samples viewer.rounds.length) ∧
    log <+: conversation samples (system.main.state.rounds.length + 1) ∧
    (∀ exchange ∈ log, exchange.status = .done) ∧
    (∀ k, (Tracker.eventAt samples k).isSome = true ↔ Tracker.Stirs samples k) ∧
    PointerEvent.InOrder (eventsIn log) := by
  obtain ⟨w, noted, inForceM, inForceS⟩ := upheld_observed booted undisturbed samples observed
  have watching := inForceM.within Viewer.upholds
  obtain ⟨serving, current⟩ := inForceS.within Studio.upholds_current
  have begins := noted.begins watching
  refine ⟨?_, begins, noted.done, fun k => Tracker.isSome_eventAt_iff, inOrder_eventsIn begins⟩
  intro viewer free
  rw [free] at inForceM
  have ready : viewer.Ready samples w := inForceM
  obtain ⟨paints, resting⟩ := ready.resting
  refine ⟨ready.tracker, ready.in_step serving current, ?_, noted.whole resting.idle⟩
  rw [ready.tracker]
  exact Tracker.contains_after

/-- A button is pressed while the pointer moves, and the next frame is shown. -/
theorem cursor_in_step_press :
    ∃ chip d, Dispatcher.Booted (.initial true) Canvas.blank (.standIns []) chip d ∧
      ∃ system log, System.Observed Viewer.role Studio.role
          (initial chip [some ⟨5, -3, .left⟩] d) system log ∧
        log = [⟨(PointerEvent.mk .down .left ⟨165, 109⟩ 5).toCommand.request, .done⟩,
          ⟨frameCommand.request, .done⟩] ∧
        system.sub.state.dispatcher.desktop.compositor.cursor = ⟨165, 109⟩ := by
  have quiet : Quiet (.initial true) := by
    intro side
    cases side <;> rfl
  have undisturbed : Undisturbed (.initial true) := ⟨rfl, fun bank => by cases bank <;> rfl⟩
  obtain ⟨chip, d, booted⟩ := Dispatcher.exists_booted quiet Canvas.blank (.standIns [])
  obtain ⟨system, viewer, run, free, complete⟩ :=
    reaches_round booted undisturbed rfl [some ⟨5, -3, .left⟩]
  obtain ⟨log, observed⟩ := System.exists_observed run
  obtain ⟨between, -⟩ := cursor_in_step booted undisturbed _ observed
  obtain ⟨tracker, cursor, -, seen⟩ := between viewer free
  rw [complete] at tracker seen
  refine ⟨chip, d, booted, system, log, observed, seen, ?_⟩
  rw [cursor, tracker]
  rfl

end Handoff

end TwinDesk
