import Mathlib.Data.List.Infix
import TwinDesk.Main.FrameLoop
import TwinDesk.Proofs.Handshake.Assertions
import TwinDesk.Proofs.Hardware.Banks
import TwinDesk.Proofs.Link.Cycles

/-!
# The hand-off of frames

The handshake carries the commands of a frame loop: pointer events and requests for frames. To it
belong the flags, the parameters and the results. The memory mode and the banks belong to the
hand-off. While a command is carried out they are the Sub processor's, and the chip may complete an
exchange that it has asked for. At all other times no exchange is under way, and the last frame that
was painted lies in the bank that the Main processor sees: it is *published*.

A world of the hand-off is a world of the handshake with the memory mode and the banks in place of
those on its chip, and with the frames that were painted so far.

* `Published` — what the Sub processor leaves whenever no command is carried out.
* `rules` — what either processor leaves alone, so that the other one can rely on it.
* `lift` — an outline of a handshake program is one for the hand-off.
-/

namespace TwinDesk

/-- The frame that the bytes of a bank begin with. -/
def BankBytes.frame (bytes : BankBytes) : Frame :=
  (bytes.take Layout.frameBytes).cast (Nat.min_eq_left Layout.frameBytes_le_bankSize)

/-! ## Frames among the commands -/

/-- Whether a request asks for a frame. -/
def Handshake.Request.isFrame (request : Request) : Bool :=
  request.opcode == Opcode.renderFrame.code

/-- How many of these requests ask for a frame. -/
def Handshake.framesIn (requests : List Request) : Nat :=
  requests.countP (·.isFrame)

/-- The pointer event that a request delivers, as the Sub processor reads it. -/
def Handshake.Request.event? (request : Request) : Option PointerEvent :=
  if request.opcode = Opcode.mouseEvent.code then PointerEvent.ofParams? request.params else none

/-- Where these requests take the cursor: to the last pointer event. Before the first one it is in
the middle of the screen. -/
def Handshake.cursorAfter (requests : List Request) : Point :=
  ((requests.filterMap Request.event?).getLast?.map (·.pos)).getD Layout.center

namespace Handshake.Course

/-- How many commands are past: answered and released. -/
def past (c : Course) : Nat :=
  match c.stage with
  | .rest | .posted | .acked => c.replies.length
  | .signalled | .released => c.replies.length - 1

/-- How many frames are past. -/
def framesPast (c : Course) : Nat :=
  framesIn (c.requests.take c.past)

end Handshake.Course

namespace Handoff

open Handshake Program

theorem framesIn_mono {requests requests' : List Request} (more : requests <+: requests') :
    framesIn requests ≤ framesIn requests' :=
  more.sublist.countP_le

theorem framesIn_concat (requests : List Request) (request : Request) :
    framesIn (requests ++ [request]) = framesIn requests + if request.isFrame then 1 else 0 := by
  unfold framesIn
  rw [List.countP_append, List.countP_singleton]

theorem event?_eq_some_iff {request : Request} {event : PointerEvent} :
    request.event? = some event ↔ request.opcode = Opcode.mouseEvent.code ∧
      PointerEvent.ofParams? request.params = some event := by
  simp [Request.event?]

theorem cursorAfter_concat (requests : List Request) (request : Request) :
    cursorAfter (requests ++ [request]) =
      (request.event?.map (·.pos)).getD (cursorAfter requests) := by
  unfold cursorAfter
  cases event : request.event? with
  | none => simp [event]
  | some event => simp [event]

/-- Which frames are past, where the requests so far are known. -/
theorem framesPast_of_known {c : Course} {requests : List Request} (known : requests <+: c.requests)
    (past : c.past = requests.length) : c.framesPast = framesIn requests := by
  unfold Course.framesPast
  rw [past, ← List.prefix_iff_eq_take.mp known]

/-- What is past stays past. -/
theorem framesPast_mono {side : Side} {c c' : Course} (step : Course.Step side c c') :
    c.framesPast ≤ c'.framesPast := by
  have past : c.past ≤ c'.past := by
    cases step with
    | post _ stage | ack stage | signal _ stage | release stage | settle stage =>
      simp [Course.past, stage]
  exact framesIn_mono ((step.requests_grow.take _).trans (List.take_prefix_take_left past))

/-! ## Worlds -/

/-- What the commands of a frame loop agree upon: they are requests for frames and pointer events,
and all of them are done. -/
def session : Contract where
  limit := none
  Permits request := request.isFrame = true ∨ ∃ event, request.event? = some event
  Answers _ reply := reply.status = .done

/-- A frame as it was painted, and how many damaged rectangles were painted. -/
structure Paint where
  frame : Frame
  rects : Nat

/-- The result words tell how many rectangles were painted. -/
def Tells (words : Results) (rects : Nat) : Prop :=
  words[1]? = some (UInt16.ofNat rects)

/-- A bank among both. -/
def cell (banks : Vector BankCell 2) (bank : Bank) : BankCell :=
  banks.get ⟨bank.index, bank.index_lt⟩

/-- Nobody is inside of a bank. -/
def Vacant (banks : Vector BankCell 2) : Prop :=
  ∀ bank, (cell banks bank).occupied = false

/-- The bank selection after a number of frames: each of them exchanges the banks. -/
def selection (start : Bool) (frames : Nat) : Bool :=
  start ^^ decide (frames % 2 = 1)

theorem selection_succ (start : Bool) (frames : Nat) :
    selection start (frames + 1) = !selection start frames := by
  unfold selection
  rcases Nat.mod_two_eq_zero_or_one frames with even | odd
  · have odd : (frames + 1) % 2 = 1 := by omega
    simp [even, odd]
  · have even : (frames + 1) % 2 = 0 := by omega
    simp [even, odd]

/-- No exchange of the Sub processor is under way, and the last frame is in the bank that the Main
processor sees. -/
structure Delivered (start : Bool) (paints : List Paint) (mode : MemMode)
    (banks : Vector BankCell 2) : Prop where
  returned : mode.returning = false
  select : mode.select = selection start paints.length
  frame : ∀ paint ∈ paints.getLast?,
    (cell banks (Side.main.bank mode.select)).bytes.frame = paint.frame

/-- What holds whenever no command is carried out: all frames that were asked for are delivered, the
reply to the last one tells its rectangles, and nobody is inside of a bank but the Main processor at
rest. -/
structure Published (start : Bool) (c : Course) (mode : MemMode) (banks : Vector BankCell 2)
    (paints : List Paint) : Prop extends Delivered start paints mode banks where
  count : paints.length = framesIn c.answered
  rects : ∀ request ∈ c.answered.getLast?, request.isFrame = true →
    ∀ reply ∈ c.replies.getLast?, ∀ paint ∈ paints.getLast?, Tells reply.words paint.rects
  vacant : ∀ bank, (bank = Side.main.bank mode.select → c.stage ≠ .rest) →
    (cell banks bank).occupied = false

/-- A world of the handshake, with the memory mode and the banks of the hand-off. -/
structure World (start : Bool) where
  link : Handshake.World session
  mode : MemMode
  banks : Vector BankCell 2
  /-- What was painted so far, oldest first. -/
  paints : List Paint
  small : ∀ paint ∈ paints, paint.rects ≤ Layout.maxDirtyRects
  /-- The Main processor never asks for an exchange. -/
  quiet : mode.requesting = false
  published : link.course.stage ≠ .acked → Published start link.course mode banks paints

variable {start : Bool}

/-- The chip in a world of the hand-off. -/
def World.chip (w : World start) : GateArray :=
  w.link.chip.withMemory w.mode w.banks

/-- What a move leaves to the other processor. The Main processor changes no more than the banks,
and that only at rest, except that a waiting exchange may complete. The Sub processor changes
anything while it carries a command out, and nothing at all other times. -/
def Leaves (w w' : World start) : Side → Prop
  | .main => w'.paints = w.paints ∧
    (w'.mode = w.mode ∨ (w.mode.pending = true ∧ w'.mode = w.mode.complete)) ∧
    (w.link.course.stage ≠ .rest → w'.banks = w.banks)
  | .sub => w.paints <+: w'.paints ∧
    (w.link.course.stage ≠ .acked →
      w'.mode = w.mode ∧ w'.banks = w.banks ∧ w'.paints = w.paints)

variable (start) in
/-- The rules of the hand-off. -/
@[reducible] def rules : Rules where
  World := World start
  chip := World.chip
  Moves side w w' := (handshake session).Moves side w.link w'.link ∧ Leaves w w' side

/-- Nobody is ever due, since nobody knows how many commands there will be. -/
theorem not_due (side : Side) (c : Course) : ¬ Due session side c := by
  rintro ⟨limit, eq, -⟩
  cases eq

/-- To the handshake, work on the banks is nothing at all. -/
theorem link_rests (side : Side) (w : Handshake.World session) :
    (handshake session).Moves side w w :=
  ⟨rfl, .inl ⟨rfl, rfl, fun due => absurd due (not_due side _)⟩⟩

/-- Nobody has to hurry. -/
theorem at_refresh {side : Side} {A : Course → Prop} {room : Nat} {R : Registers side → Prop}
    {w : Handshake.World session} (h : At side A room R w) : At side A pace R w :=
  h.refreshed rfl

theorem link_stable {side : Side} {L : Handshake.World session → Prop}
    (stable : (handshake session).Stable side L) :
    (rules start).Stable side fun w => L w.link :=
  fun _ _ move holds => stable move.1 holds

theorem paints_grow {side : Side} {w w' : World start} (move : (rules start).Moves side w w') :
    w.paints <+: w'.paints := by
  cases side with
  | main => exact move.2.1 ▸ List.prefix_rfl
  | sub => exact move.2.1

/-- The world after the chip has completed an exchange, while a command is carried out. -/
def World.exchanged (w : World start) (acked : w.link.course.stage = .acked) : World start :=
  { w with mode := w.mode.complete, quiet := rfl, published := fun other => absurd acked other }

/-- The chip may complete an exchange, which is then the Sub processor's. -/
theorem hardware_moves (w : World start) (pending : w.chip.swapPending = true) :
    ∃ w' : World start, w'.chip = w.chip.stepHardware.2 ∧
      ∀ side, (rules start).Moves side w w' := by
  have waits : w.mode.pending = true := pending
  have acked : w.link.course.stage = .acked := by
    by_contra other
    have returned := (w.published other).returned
    rw [MemMode.pending, returned, w.quiet] at waits
    cases waits
  refine ⟨w.exchanged acked, ?_, fun side => ⟨link_rests side w.link, ?_⟩⟩
  · rw [GateArray.stepHardware_of_pending pending]
    rfl
  · cases side with
    | main => exact ⟨rfl, .inr ⟨waits, rfl⟩, fun _ => rfl⟩
    | sub => exact ⟨List.prefix_rfl, fun other => absurd acked other⟩

/-! ## Moves of the handshake -/

theorem framesPast_of_moves {side : Side} {w w' : Handshake.World session}
    (move : (handshake session).Moves side w w') :
    w.course.framesPast ≤ w'.course.framesPast := by
  obtain ⟨-, lingers | advances⟩ := move
  · rw [lingers.course]
  · exact framesPast_mono advances.step

/-- At rest everything is past. -/
theorem framesPast_of_rest {w : Handshake.World session} (rest : w.course.stage = .rest) :
    w.course.framesPast = framesIn w.course.requests := by
  have count := w.shows.count
  rw [rest] at count
  change w.course.requests.length = w.course.replies.length + 0 at count
  unfold Course.framesPast Course.past
  rw [rest]
  exact congrArg framesIn (List.take_of_length_le (Nat.le_of_eq count))

/-- Unless a request is open, all of them are answered. -/
theorem answered_of_closed {w : Handshake.World session}
    (closed : w.course.stage.isOpen = false) : w.course.answered = w.course.requests := by
  have count := w.shows.count
  rw [closed] at count
  change w.course.requests.length = w.course.replies.length + 0 at count
  exact List.take_of_length_le (Nat.le_of_eq count)

/-- Nothing the Main processor does on the link takes back what was published, as long as it is not
inside of a bank when it posts a command. -/
theorem World.published_of_main (w : World start) {link : Handshake.World session}
    (move : (handshake session).Moves .main w.link link)
    (outside : w.link.course.stage = .rest → Vacant w.banks)
    (stage : link.course.stage ≠ .acked) :
    Published start link.course w.mode w.banks w.paints := by
  obtain ⟨-, lingers | advances⟩ := move
  · rw [lingers.course] at stage ⊢
    exact w.published stage
  · have step := advances.step
    have count := w.link.shows.count
    have published := w.published
    generalize w.link.course = c at *
    generalize link.course = c' at *
    cases step with
    | post request rest =>
      have published := published (by rw [rest]; decide)
      rw [rest] at count
      have same : Course.answered ⟨.posted, c.requests ++ [request], c.replies⟩ = c.answered :=
        List.take_append_of_le_length (Nat.le_of_eq count.symm)
      refine ⟨published.toDelivered, ?_, ?_, fun bank _ => outside rest bank⟩
      · rw [same]
        exact published.count
      · rw [same]
        exact published.rects
    | release signalled =>
      have published := published (by rw [signalled]; decide)
      exact ⟨published.toDelivered, published.count, published.rects,
        fun bank _ => published.vacant bank fun _ => by rw [signalled]; decide⟩

/-- The world after a move on the link. -/
def World.relay (w : World start) (link : Handshake.World session)
    (published : link.course.stage ≠ .acked → Published start link.course w.mode w.banks w.paints) :
    World start :=
  { w with link, published }

theorem World.relay_moves {side : Side} (w : World start) {link : Handshake.World session}
    (published : link.course.stage ≠ .acked → Published start link.course w.mode w.banks w.paints)
    (move : (handshake session).Moves side w.link link) :
    (rules start).Moves side w (w.relay link published) := by
  refine ⟨move, ?_⟩
  cases side with
  | main => exact ⟨rfl, .inl rfl, fun _ => rfl⟩
  | sub => exact ⟨List.prefix_rfl, fun _ => ⟨rfl, rfl, rfl⟩⟩

/-! ## Outlines of handshake programs -/

/-- Whatever a program starts from, something that holds between its cycles and at its end holds. -/
theorem holds_at_start {rules : Rules} {side : Side} {between H : rules.World → Prop} {α : Type}
    {p : Program α} {P : rules.World → Prop} {Q : α → rules.World → Prop}
    (outline : rules.Outline side between p P Q) (inner : ∀ w, between w → H w)
    (last : ∀ value w, Q value w → H w) {w : rules.World} (h : P w) : H w := by
  cases p with
  | done value => exact last value w (outline w h)
  | fault => exact absurd h (outline w)
  | access a next =>
    obtain ⟨before, after, enter, rests, -⟩ := outline
    exact inner w (rests.between w (enter w h))
  | spin body start next =>
    obtain ⟨head, inside, result, enter, rests, -⟩ := outline
    exact inner w ((rests start).between w (enter w h))

/-- What a cycle of a program that makes only some cycles, or the next round of a loop, can do to
the chip. -/
def Reaches (ok : Access → Prop) (side : Side) (chip chip' : GateArray) : Prop :=
  chip' = chip ∨ ∃ a answer, ok a ∧ chip.perform side a = .ok (answer, chip')

/-- An outline of a plain program for the handshake is one for the hand-off, with anything besides
that outlasts the other side and that every cycle of the program carries on. `H` is known of the
handshake after each of its cycles. -/
theorem lift {side : Side} {α : Type} {p : Program α} {ok : Access → Prop} (uses : p.Uses ok)
    (plain : ∀ a, ok a → a.Plain) {between H P : Handshake.World session → Prop}
    {Q : α → Handshake.World session → Prop}
    (outline : (handshake session).Outline side between p P Q) {F : World start → Prop}
    (stable : (rules start).Stable side F) (inner : ∀ w, between w → H w)
    (last : ∀ value w, Q value w → H w)
    (carries : ∀ (w : World start) (link : Handshake.World session), between w.link →
      (handshake session).Moves side w.link link → Reaches ok side w.link.chip link.chip → F w →
      H link → ∃ published, F (w.relay link published)) :
    (rules start).Outline side (fun w => between w.link ∧ F w) p (fun w => P w.link ∧ F w)
      fun value w => Q value w.link ∧ F w := by
  have both {R : Handshake.World session → Prop}
      (rests : (handshake session).Rests side between R) :
      (rules start).Rests side (fun w => between w.link ∧ F w) fun w => R w.link ∧ F w :=
    ⟨(link_stable rests.stable).and stable, fun w h => ⟨rests.between _ h.1, h.2⟩⟩
  -- the assertions are those of the handshake, and `F` goes along from cycle to cycle
  induction p generalizing P with
  | done value => exact fun w h => ⟨outline _ h.1, h.2⟩
  | fault => exact fun w h => outline _ h.1
  | access a next ih =>
    obtain ⟨before, after, enter, rests, performs, rest⟩ := outline
    refine ⟨fun w => before w.link ∧ F w, fun answer w => after answer w.link ∧ F w,
      fun w h => ⟨enter _ h.1, h.2⟩, both rests, ?_,
      fun answer => ih answer (uses.2 answer) (rest answer) last⟩
    rintro w ⟨holds, framed⟩
    obtain ⟨answer, link, eq, move, post⟩ := performs w.link holds
    obtain ⟨published, framed⟩ := carries w link (rests.between _ holds) move
      (.inr ⟨a, answer, uses.1, eq⟩) framed (holds_at_start (rest answer) inner last post)
    refine ⟨answer, _, ?_, w.relay_moves published move, post, framed⟩
    -- a plain cycle does the same on the chip of the hand-off as on that of the handshake
    show (w.link.chip.withMemory w.mode w.banks).perform side a = _
    rw [GateArray.perform_withMemory _ _ _ _ (plain a uses.1), eq]
    rfl
  | spin body start next ihBody ih =>
    obtain ⟨head, inside, result, enter, rests, passes, around, rest⟩ := outline
    refine ⟨fun state w => head state w.link ∧ F w, fun state w => inside state w.link ∧ F w,
      fun value w => result value w.link ∧ F w, fun w h => ⟨enter _ h.1, h.2⟩,
      fun state => both (rests state), ?_, fun state => ?_,
      fun value => ih value (uses.2 value) (rest value) last⟩
    · rintro state w ⟨holds, framed⟩
      obtain ⟨link, chip, move, post⟩ := passes state w.link holds
      -- whether the loop goes round once more is not known here; both ways tell what is needed
      have known : H link := by
        refine holds_at_start (around state) inner ?_ post
        rintro (state | value) link h
        · exact inner link ((rests state).between link h)
        · exact holds_at_start (rest value) inner last h
      obtain ⟨published, framed⟩ := carries w link ((rests state).between _ holds) move (.inl chip)
        framed known
      refine ⟨_, ?_, w.relay_moves published move, post, framed⟩
      exact congrArg (GateArray.withMemory · w.mode w.banks) chip
    · refine (ihBody state (uses.1 state) (around state) ?_).weaken (fun _ h => h) ?_
      · rintro (state | value) link h
        · exact inner link ((rests state).between link h)
        · exact holds_at_start (rest value) inner last h
      · rintro (state | value) w h
        · exact h
        · exact h

end Handoff

end TwinDesk
