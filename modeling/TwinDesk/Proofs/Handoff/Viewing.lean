import TwinDesk.Proofs.Handoff.Banks
import TwinDesk.Proofs.Handshake.Exchange
import TwinDesk.Proofs.Link.Calls
import TwinDesk.Proofs.Main.Pointer
import TwinDesk.Proofs.Main.RemoteCalls

/-!
# The viewer

The Main processor goes round its frame loop. In the middle of a round, frames may have been painted
that it has not shown yet; but whatever a complete round has shown is what was painted, frame by
frame. What it asks for is settled by what it reads from the pointer device.

* `asked` — the requests of so many rounds.
* `History` — what the complete rounds have shown.
* `Viewer.upholds` — one more round keeps it, whatever the Sub processor does in the meantime.
-/

namespace TwinDesk

open Handshake Program

namespace Handoff

/-! ## Rounds of the frame loop -/

/-- A complete round of the frame loop: what it has reported, and the screen afterwards. -/
structure Round where
  outcome : Except MainError FrameReport
  screen : Screen

/-- The Main processor with its frame loop. -/
structure Viewer where
  loop : FrameLoop (List (Option PointerSample))
  /-- The rounds that are complete, oldest first. -/
  rounds : List Round

/-- The frame loop goes round. -/
@[reducible] def Viewer.role : Role Viewer where
  Call := Unit
  Allowed _ _ := True
  run _ viewer := viewer.loop.tick.bind fun (outcome, loop) =>
    .done fun _ => ⟨loop, viewer.rounds ++ [⟨outcome, loop.screen⟩]⟩

/-- The screen after so many rounds. -/
def screenAfter (rounds : List Round) : Nat → Screen
  | 0 => .blank
  | count + 1 => (rounds[count]?.map (·.screen)).getD .blank

/-- Round number `k`, counted from zero, has shown a frame: it has presented the bytes of a bank
once, which begin with the frame, and has reported how many rectangles were painted. -/
structure Presents (start : Bool) (k : Nat) (before : Screen) (round : Round) (paint : Paint)
    (report : FrameReport) : Prop where
  completed : round.outcome = .ok report
  once : ∃ bytes : BankBytes, bytes.frame = paint.frame ∧
    round.screen = before.present report.bank bytes
  bank : report.bank = Side.main.bank (selection start (k + 1))
  rects : report.rects.toNat = paint.rects
  number : report.frame = UInt32.ofNat (k + 1)

/-- Every round has shown the frame that was painted for it. -/
def History (start : Bool) (rounds : List Round) (paints : List Paint) : Prop :=
  ∀ (k : Nat) (h : k < rounds.length), ∃ paint report, paints[k]? = some paint ∧
    Presents start k (screenAfter rounds k) rounds[k] paint report

theorem screenAfter_concat {rounds : List Round} {count : Nat} (le : count ≤ rounds.length)
    (round : Round) : screenAfter (rounds ++ [round]) count = screenAfter rounds count := by
  cases count with
  | zero => rfl
  | succ count => simp only [screenAfter, List.getElem?_append_left le]

theorem screenAfter_last (rounds : List Round) (round : Round) :
    screenAfter (rounds ++ [round]) (rounds.length + 1) = round.screen := by
  simp only [screenAfter, List.getElem?_concat_length]
  rfl

namespace History

variable {start : Bool} {rounds : List Round} {paints paints' : List Paint}

/-- A frame that is painted later makes no difference. -/
theorem mono (history : History start rounds paints) (more : paints <+: paints') :
    History start rounds paints' := by
  intro k h
  obtain ⟨paint, report, known, presents⟩ := history k h
  refine ⟨paint, report, ?_, presents⟩
  obtain ⟨rest, rfl⟩ := more
  rw [List.getElem?_append_left (List.getElem?_eq_some_iff.mp known).1]
  exact known

theorem concat (history : History start rounds paints) {round : Round} {paint : Paint}
    {report : FrameReport} (known : paints[rounds.length]? = some paint)
    (presents : Presents start rounds.length (screenAfter rounds rounds.length) round paint
      report) : History start (rounds ++ [round]) paints := by
  intro k h
  rw [List.length_append, List.length_singleton] at h
  rw [screenAfter_concat (by omega)]
  by_cases old : k < rounds.length
  · rw [List.getElem_append_left old]
    exact history k old
  · obtain rfl : k = rounds.length := by omega
    rw [List.getElem_concat_length rfl]
    exact ⟨paint, report, known, presents⟩

end History

variable {start : Bool} {rounds : List Round} {all requests : List Request} {paints : List Paint}

/-! ## Requests of the viewer -/

/-- What a frame is asked for with. -/
def frameCommand : Command :=
  .renderFrame 0 0 Layout.screenWidth Layout.screenHeight

/-- The request that delivers an event, if there is one. -/
def delivery (event : Option PointerEvent) : List Request :=
  (event.map (·.toCommand.request)).toList

/-- The requests of a round: an event is delivered, if there is one, and a frame is asked for. -/
def asks (event : Option PointerEvent) : List Request :=
  delivery event ++ [frameCommand.request]

/-- The requests of so many rounds. -/
def asked (samples : List (Option PointerSample)) (rounds : Nat) : List Request :=
  (List.range rounds).flatMap fun k => asks (Tracker.eventAt samples k)

@[simp] theorem event?_toCommand (event : PointerEvent) :
    event.toCommand.request.event? = some event :=
  event.ofParams?_toParams

@[simp] theorem event?_frameCommand : frameCommand.request.event? = none :=
  rfl

@[simp] theorem isFrame_toCommand (event : PointerEvent) :
    event.toCommand.request.isFrame = false :=
  rfl

@[simp] theorem isFrame_frameCommand : frameCommand.request.isFrame = true :=
  rfl

theorem asked_succ (samples : List (Option PointerSample)) (k : Nat) :
    asked samples (k + 1) = asked samples k ++ asks (Tracker.eventAt samples k) := by
  unfold asked
  rw [List.range_succ, List.flatMap_append, List.flatMap_singleton]

theorem asked_grows (samples : List (Option PointerSample)) (k : Nat) :
    asked samples k <+: asked samples (k + 1) := by
  rw [asked_succ]
  exact List.prefix_append _ _

/-- Every round asks for one frame. -/
theorem framesIn_asks (requests : List Request) (event : Option PointerEvent) :
    framesIn (requests ++ asks event) = framesIn requests + 1 := by
  rw [asks, ← List.append_assoc, framesIn_concat]
  cases event with
  | none => simp [delivery]
  | some event => simp [delivery, framesIn_concat]

theorem framesIn_asked (samples : List (Option PointerSample)) (k : Nat) :
    framesIn (asked samples k) = k := by
  induction k with
  | zero => rfl
  | succ k ih => rw [asked_succ, framesIn_asks, ih]

/-! ## Assertions of the viewer -/

/-- What holds in the middle of a round: all complete rounds have shown what was painted, and as
many frames are past. At its end, `all` requests will have been made. -/
structure Watching (rounds : List Round) (all : List Request) (w : World start) : Prop where
  history : History start rounds w.paints
  past : rounds.length ≤ w.link.course.framesPast
  asked : w.link.course.requests <+: all

/-- Besides, the viewer is not inside of a bank. -/
structure Outside (rounds : List Round) (all : List Request) (w : World start) : Prop
    extends Watching rounds all w where
  outside : w.link.course.stage = .rest → Vacant w.banks

/-- The viewer has made these requests, and all of them are answered. -/
def Idle (requests : List Request) (w : World start) : Prop :=
  At .main (Initiating .atRest requests) pace anything w.link

/-- The viewer is between two commands, and these frames are painted. -/
structure Resting (requests : List Request) (rounds : List Round) (all : List Request)
    (paints : List Paint) (w : World start) : Prop extends Outside rounds all w where
  idle : Idle requests w
  painted : w.paints = paints

/-- The viewer is inside of its bank, and has found these bytes there. -/
structure Looking (requests : List Request) (rounds : List Round) (all : List Request)
    (paints : List Paint) (bytes : BankBytes) (w : World start) : Prop
    extends Watching rounds all w where
  idle : Idle requests w
  painted : w.paints = paints
  same : (cell w.banks (Side.main.bank w.mode.select)).bytes = bytes

theorem Watching.stable : (rules start).Stable .main (Watching rounds all) := by
  intro w w' move h
  refine ⟨h.history.mono (paints_grow move), Nat.le_trans h.past (framesPast_of_moves move.1), ?_⟩
  obtain ⟨⟨-, lingers | advances⟩, -⟩ := move
  · exact lingers.course ▸ h.asked
  · exact requests_outlast (· <+: all) advances.step h.asked

/-- At rest, the Sub processor leaves everything to the viewer. -/
theorem rest_of_sub_moves {w w' : World start} (rest : w.link.course.stage = .rest)
    (move : (rules start).Moves .sub w w') :
    w'.mode = w.mode ∧ w'.banks = w.banks ∧ w'.paints = w.paints :=
  move.2.2 (by rw [rest]; decide)

/-- When the Sub processor comes to rest, the bank of the viewer is vacant. -/
theorem Outside.stable : (rules start).Stable .main (Outside rounds all) := by
  intro w w' move h
  refine ⟨Watching.stable move h.toWatching, fun rest => ?_⟩
  obtain ⟨⟨-, lingers | advances⟩, leaves⟩ := id move
  · rw [lingers.course] at rest
    rw [(rest_of_sub_moves rest move).2.1]
    exact h.outside rest
  · have step := advances.step
    generalize link : w.link.course = c at step
    generalize w'.link.course = c' at step rest
    cases step with
    | settle released =>
      subst link
      have other : w.link.course.stage ≠ .acked := by
        rw [released]
        decide
      rw [(leaves.2 other).2.1]
      exact fun bank => (w.published other).vacant bank fun _ => by rw [released]; decide
    | ack => cases rest
    | signal => cases rest

theorem initiating_outlasts (initiator : Initiator) :
    Outlasts .main (Initiating initiator requests) :=
  (fits_outlasts initiator).and (requests_outlast (· = requests))

namespace Idle

theorem stable : (rules start).Stable .main (Idle requests) :=
  link_stable (At.stable (initiating_outlasts _))

variable {w : World start} (h : Idle requests w)
include h

theorem stage : w.link.course.stage = .rest :=
  rest_of_idle h.course rfl

theorem published : Published start w.link.course w.mode w.banks w.paints := by
  refine w.published ?_
  rw [h.stage]
  decide

theorem answered : w.link.course.answered = requests :=
  (answered_of_closed (by rw [h.stage]; rfl)).trans h.course.2

theorem count : w.paints.length = framesIn requests := by
  rw [h.published.count, h.answered]

theorem past : w.link.course.framesPast = framesIn requests := by
  rw [framesPast_of_rest h.stage, h.course.2]

theorem select : w.mode.select = selection start (framesIn requests) := by
  rw [h.published.select, h.count]

end Idle

theorem Resting.rests :
    (rules start).Rests .main (Watching rounds all) (Resting requests rounds all paints) := by
  refine ⟨fun w w' move h => ?_, fun _ h => h.toWatching⟩
  exact ⟨Outside.stable move h.toOutside, Idle.stable move h.idle,
    (rest_of_sub_moves h.idle.stage move).2.2.trans h.painted⟩

theorem Looking.rests (requests : List Request) (rounds : List Round) (all : List Request)
    (paints : List Paint) (bytes : BankBytes) :
    (rules start).Rests .main (Watching rounds all) (Looking requests rounds all paints bytes) := by
  refine ⟨fun w w' move h => ?_, fun _ h => h.toWatching⟩
  obtain ⟨mode, banks, painted⟩ := rest_of_sub_moves h.idle.stage move
  refine ⟨Watching.stable move h.toWatching, Idle.stable move h.idle, painted.trans h.painted, ?_⟩
  rw [mode, banks]
  exact h.same

/-! ## Commands -/

/-- What was sent so far begins the plan. -/
def Planned (all : List Request) (link : Handshake.World session) : Prop :=
  link.course.requests <+: all

/-- A command of the viewer is answered, and leaves it at rest. -/
theorem command_outline {cmd : Command} (nonzero : cmd.opcode ≠ .none)
    (permits : session.Permits cmd.request) (planned : requests ++ [cmd.request] <+: all) :
    (rules start).Outline .main (Watching rounds all) (Initiator.atRest.call cmd)
      (Resting requests rounds all paints)
      fun result w => ∃ reply, result = (.ok reply, .atRest) ∧
        w.link.course.replies.getLast? = some reply ∧
        session.Answers (requests ++ [cmd.request]) reply ∧
        Resting (requests ++ [cmd.request]) rounds all w.paints w := by
  have admits : session.Admits requests cmd.request := ⟨nofun, permits⟩
  have call : Outlined session .main (fun c => c.requests <+: requests ++ [cmd.request])
      (Initiator.atRest.call cmd) (At .main (Initiating .atRest requests) 6 anything) _ :=
    call_last_outline rfl nonzero admits (Nat.le_refl (54 + 10))
      (fun _ same => same ▸ List.prefix_append _ _) fun _ same => same ▸ List.prefix_rfl
  refine ((lift (H := Planned all) (Initiator.call_plain cmd _) (fun _ plain => plain) call
    Outside.stable (fun _ more => more.trans planned) ?_ ?_).relax
      fun w h => h.2.toWatching).weaken ?_ ?_
  · intro result link h
    obtain ⟨reply, -, -, -, -, same, -⟩ := h.course
    show link.course.requests <+: all
    rw [same]
    exact planned
  · intro w link _ move _ outside next
    -- the Main processor itself never takes the course to rest
    have vacant : link.course.stage = .rest → Vacant w.banks := by
      intro rest
      obtain ⟨-, lingers | advances⟩ := move
      · exact outside.outside (lingers.course ▸ rest)
      · have step := advances.step
        generalize link.course = c at step rest
        cases step <;> cases rest
    exact ⟨w.published_of_main move outside.outside,
      ⟨outside.history, Nat.le_trans outside.past (framesPast_of_moves move), next⟩, vacant⟩
  · exact fun w h => ⟨h.idle.mono (fun _ fits => fits) (by decide), h.toOutside⟩
  · rintro ⟨result, initiator⟩ w ⟨h, outside⟩
    obtain ⟨reply, ok, idle, last, rest, same, answers⟩ := h.course
    obtain rfl : result = .ok reply := ok
    obtain rfl := eq_atRest_of_idle idle
    exact ⟨reply, rfl, last, answers, outside, at_refresh ⟨⟨rest, same⟩, h.room, trivial⟩, rfl⟩

/-- A pointer event is delivered. -/
theorem deliver_outline (event : Option PointerEvent)
    {loop : FrameLoop (List (Option PointerSample))} (client : loop.client = .atRest)
    (planned : requests ++ delivery event <+: all) :
    (rules start).Outline .main (Watching rounds all) (loop.deliver event)
      (Resting requests rounds all paints)
      fun result w => result = (.ok (), loop) ∧
        ∃ paints', Resting (requests ++ delivery event) rounds all paints' w := by
  obtain ⟨_, tracker, source, screen, frames⟩ := loop
  obtain rfl : _ = Client.atRest := client
  cases event with
  | none =>
    refine .done fun w h => ⟨rfl, paints, ?_⟩
    rw [delivery, Option.map_none, Option.toList_none, List.append_nil]
    exact h
  | some event =>
    have command : (rules start).Outline .main (Watching rounds all)
        (Initiator.atRest.call event.toCommand) (Resting requests rounds all paints) _ :=
      command_outline (by rintro ⟨⟩) (.inr ⟨event, event?_toCommand event⟩) planned
    show (rules start).Outline .main (Watching rounds all)
      ((Client.request event.toCommand (fun _ => ()) Client.atRest).bind _) _ _
    rw [RemoteCall.request_eq, Program.bind_assoc]
    refine command.bind ?_
    rintro ⟨result, initiator⟩
    refine .of_exists fun reply => .assuming ?_
    intro answered
    obtain ⟨rfl, rfl⟩ := Prod.mk.inj answered
    -- that the Sub processor may have rejected the event would make no difference
    rcases Client.check_eq event.toCommand reply with eq | eq
    · dsimp only [Program.bind]
      rw [eq]
      exact .done fun w h => ⟨rfl, _, h.2.2⟩
    · dsimp only [Program.bind]
      rw [eq]
      exact .done fun w h => ⟨rfl, _, h.2.2⟩

/-- One more frame is painted, and the reply tells how many rectangles that were. -/
theorem renderFrame_outline (planned : requests ++ [frameCommand.request] <+: all) :
    (rules start).Outline .main (Watching rounds all) (Client.renderFrame .atRest)
      (Resting requests rounds all paints)
      fun result w => ∃ (reply : RenderReply) (paints' : List Paint),
        (result = (.ok reply, .atRest) ∧
          ∀ paint ∈ paints'.getLast?, reply.rects = UInt16.ofNat paint.rects) ∧
        Resting (requests ++ [frameCommand.request]) rounds all paints' w := by
  have command : (rules start).Outline .main (Watching rounds all)
      (Initiator.atRest.call frameCommand) (Resting requests rounds all paints) _ :=
    command_outline (by rintro ⟨⟩) (.inl rfl) planned
  show (rules start).Outline .main (Watching rounds all)
    ((Client.request frameCommand (fun words => RenderReply.mk words[0] words[1])
      Client.atRest).bind _) _ _
  rw [RemoteCall.request_eq, Program.bind_assoc]
  refine command.bind ?_
  rintro ⟨result, initiator⟩
  refine .of_exists fun reply => .assuming ?_
  intro answered
  obtain ⟨rfl, rfl⟩ := Prod.mk.inj answered
  refine .done ?_
  rintro w ⟨last, done, resting⟩
  have newest : w.link.course.answered.getLast? = some frameCommand.request := by
    rw [resting.idle.answered]
    exact List.getLast?_concat
  refine ⟨⟨reply.words[0], reply.words[1]⟩, w.paints, ⟨?_, fun paint latest => ?_⟩, resting⟩
  · rw [Client.check_done _ done]
    rfl
  · have told := resting.idle.published.rects _ newest rfl reply last paint latest
    exact (Vector.getElem?_eq_some_iff.mp told).2

/-! ## Showing a frame -/

/-- The viewer enters its bank. -/
theorem enter_performs {bank : Bank}
    (sees : Side.main.bank (selection start (framesIn requests)) = bank) :
    (rules start).Performs .main (.enterBank bank) (Resting requests rounds all paints)
      (Looking requests rounds all paints) := by
  intro w h
  obtain rfl : Side.main.bank w.mode.select = bank := by
    rw [h.idle.select, sees]
  have rest := h.idle.stage
  have published := h.idle.published.enter rest
  exact ⟨_, w.viewing _ published, w.perform_enter (h.outside rest _),
    w.viewing_moves rest _ published, ⟨h.history, h.past, h.asked⟩, h.idle, h.painted,
    bytes_enter _ _⟩

/-- It leaves the bank as it was, and has seen the last frame there. -/
theorem leave_performs {bank : Bank}
    (sees : Side.main.bank (selection start (framesIn requests)) = bank) (bytes : BankBytes) :
    (rules start).Performs .main (.leaveBank bank bytes) (Looking requests rounds all paints bytes)
      fun _ w => (∀ paint ∈ paints.getLast?, bytes.frame = paint.frame) ∧
        Resting requests rounds all paints w := by
  intro w h
  obtain rfl : Side.main.bank w.mode.select = bank := by
    rw [h.idle.select, sees]
  have published := h.idle.published
  have frame := published.frame
  rw [h.same, h.painted] at frame
  exact ⟨(), w.viewing _ (published.leave h.same), w.perform_leave _ bytes,
    w.viewing_moves h.idle.stage _ _, frame,
    ⟨⟨h.history, h.past, h.asked⟩, fun _ => published.vacant_leave bytes⟩, h.idle, h.painted⟩

/-- The screen shows a bank with the last frame, and the viewer is at rest again. -/
def Shown (requests : List Request) (rounds : List Round) (all : List Request)
    (paints : List Paint) (screen : Screen) (bank : Bank) (screen' : Screen) (w : World start) :
    Prop :=
  ∃ bytes : BankBytes, (screen' = screen.present bank bytes ∧
      ∀ paint ∈ paints.getLast?, bytes.frame = paint.frame) ∧
    Resting requests rounds all paints w

/-- The last frame is presented once. -/
theorem present_outline (screen : Screen) {bank : Bank}
    (sees : Side.main.bank (selection start (framesIn requests)) = bank) :
    (rules start).Outline .main (Watching rounds all) (Client.present screen)
      (Resting requests rounds all paints)
      fun result w => ∃ bytes : BankBytes, (result = (.ok bank, screen.present bank bytes) ∧
          ∀ paint ∈ paints.getLast?, bytes.frame = paint.frame) ∧
        Resting requests rounds all paints w := by
  have acquire : (rules start).Outline .main (Watching rounds all) (Grant.acquire .main)
      (Resting requests rounds all paints)
      fun result w => result = .ok ⟨.main, bank⟩ ∧ Resting requests rounds all paints w := by
    refine acquire_outline Resting.rests (fun w _ => w.quiet) fun w h => ?_
    rw [h.idle.select, sees]
  refine acquire.bind fun result => .assuming ?_
  rintro rfl
  have work : (rules start).Outline .main (Watching rounds all)
      (Grant.withBytes ⟨.main, bank⟩ fun bytes => return (screen.present bank bytes, bytes))
      (Resting requests rounds all paints) (Shown requests rounds all paints screen bank) := by
    refine withBytes_outline Resting.rests (enter_performs sees)
      (Looking.rests requests rounds all paints) fun bytes => ⟨_, bytes, rfl, fun w h => ?_⟩
    obtain ⟨answer, w', eq, move, frame, resting⟩ := leave_performs sees bytes w h
    exact ⟨answer, w', eq, move, bytes, ⟨rfl, frame⟩, resting⟩
  refine work.bind fun screen' => .done ?_
  rintro w ⟨bytes, ⟨rfl, frame⟩, resting⟩
  exact ⟨bytes, ⟨rfl, frame⟩, resting⟩

/-! ## Whole rounds -/

theorem toNat_rects {paint : Paint} (small : paint.rects ≤ Layout.maxDirtyRects) :
    (UInt16.ofNat paint.rects).toNat = paint.rects := by
  rw [UInt16.toNat_ofNat']
  exact Nat.mod_eq_of_lt (Nat.lt_of_le_of_lt small (by decide))

/-- A frame is painted and shown. -/
theorem display_outline (pointer : Option PointerEvent)
    {loop : FrameLoop (List (Option PointerSample))} (client : loop.client = .atRest)
    (number : loop.frames = UInt32.ofNat (framesIn requests))
    (planned : requests ++ [frameCommand.request] <+: all) :
    (rules start).Outline .main (Watching rounds all) (loop.display pointer)
      (Resting requests rounds all paints)
      fun result w => ∃ (paints' : List Paint) (paint : Paint) (report : FrameReport),
        paints'.getLast? = some paint ∧
        Presents start (framesIn requests) loop.screen ⟨result.1, result.2.screen⟩ paint report ∧
        result.2 = { loop with screen := result.2.screen, frames := report.frame } ∧
        Resting (requests ++ [frameCommand.request]) rounds all paints' w := by
  obtain ⟨_, tracker, source, screen, frames⟩ := loop
  obtain rfl : _ = Client.atRest := client
  obtain rfl : frames = _ := number
  have more : framesIn (requests ++ [frameCommand.request]) = framesIn requests + 1 :=
    framesIn_concat _ _
  refine (renderFrame_outline planned).bind ?_
  rintro ⟨result, client⟩
  refine .of_exists fun reply => .of_exists fun paints => .assuming ?_
  rintro ⟨same, rects⟩
  obtain ⟨rfl, rfl⟩ := Prod.mk.inj same
  refine (present_outline screen (congrArg _ (congrArg _ more))).bind ?_
  rintro ⟨result, screen'⟩
  refine .of_exists fun bytes => .assuming ?_
  rintro ⟨same, frame⟩
  obtain ⟨rfl, rfl⟩ := Prod.mk.inj same
  refine .done ?_
  intro w resting
  -- one frame was asked for at least, so one was painted
  have count := resting.idle.count
  rw [resting.painted, more] at count
  obtain ⟨paint, last⟩ : ∃ paint, paints.getLast? = some paint :=
    Option.isSome_iff_exists.mp (List.getLast?_isSome.mpr (List.ne_nil_of_length_eq_add_one count))
  have small := w.small paint (resting.painted ▸ List.mem_of_getLast? last)
  refine ⟨paints, paint, _, last, ⟨rfl, ⟨bytes, frame paint last, rfl⟩, rfl, ?_, ?_⟩, rfl, resting⟩
  · rw [rects paint last, toNat_rects small]
  · exact (UInt32.ofNat_add _ 1).symm

/-- What the frame loop reads from the pointer device in round number `k`. -/
theorem readPointer_eq {samples : List (Option PointerSample)} {k : Nat}
    {loop : FrameLoop (List (Option PointerSample))}
    (tracker : loop.tracker = Tracker.after samples k) (source : loop.source = samples.drop k) :
    loop.readPointer = .ok (Tracker.eventAt samples k,
      { loop with tracker := Tracker.after samples (k + 1), source := samples.drop (k + 1) }) := by
  obtain ⟨client, _, _, screen, frames⟩ := loop
  obtain rfl : _ = Tracker.after samples k := tracker
  obtain rfl : _ = samples.drop k := source
  have reading : Tracker.reading? samples k = (samples.drop k).head?.join :=
    congrArg Option.join List.head?_drop.symm
  rw [← List.tail_drop]
  generalize samples.drop k = source at reading ⊢
  rcases source with _ | ⟨_ | sample, rest⟩
  · obtain ⟨same, none⟩ := Tracker.after_of_none reading
    rw [same, none]
    rfl
  · obtain ⟨same, none⟩ := Tracker.after_of_none reading
    rw [same, none]
    rfl
  · obtain ⟨event, next⟩ := Prod.mk.inj (Tracker.after_of_some reading)
    rw [event, next]
    rfl

/-- A round of the frame loop ends, and has shown the frame that was painted for it. -/
theorem tick_outline {loop : FrameLoop (List (Option PointerSample))}
    {event : Option PointerEvent} {tracker : Tracker} {source : List (Option PointerSample)}
    (client : loop.client = .atRest)
    (number : loop.frames = UInt32.ofNat (framesIn requests))
    (read : loop.readPointer = .ok (event, { loop with tracker, source }))
    (planned : requests ++ asks event <+: all) :
    (rules start).Outline .main (Watching rounds all) loop.tick
      (Resting requests rounds all paints)
      fun result w => ∃ (paints' : List Paint) (paint : Paint) (report : FrameReport),
        paints'.getLast? = some paint ∧
        Presents start (framesIn requests) loop.screen ⟨result.1, result.2.screen⟩ paint report ∧
        result.2 = { loop with
          tracker, source, screen := result.2.screen, frames := report.frame } ∧
        Resting (requests ++ asks event) rounds all paints' w := by
  show (rules start).Outline .main (Watching rounds all) ((ofChecked loop.readPointer).bind _) _ _
  rw [asks, ← List.append_assoc] at planned ⊢
  rw [read]
  have deliver : (rules start).Outline .main (Watching rounds all)
      (FrameLoop.deliver event { loop with tracker, source })
      (Resting requests rounds all paints) _ :=
    deliver_outline event client ((List.prefix_append _ _).trans planned)
  have same : framesIn (requests ++ delivery event) = framesIn requests := by
    cases event with
    | none => simp [delivery]
    | some event => simp [delivery, framesIn_concat]
  refine deliver.bind ?_
  rintro ⟨result, loop'⟩
  apply Rules.Outline.assuming
  intro delivered
  obtain ⟨rfl, rfl⟩ := Prod.mk.inj delivered
  refine .of_exists fun paints' => ?_
  rw [← same] at number ⊢
  exact display_outline event client number planned

/-- What the viewer knows between two rounds. -/
structure Viewer.Ready (samples : List (Option PointerSample)) (viewer : Viewer) (w : World start) :
    Prop where
  client : viewer.loop.client = .atRest
  screen : viewer.loop.screen = screenAfter viewer.rounds viewer.rounds.length
  number : viewer.loop.frames = UInt32.ofNat viewer.rounds.length
  tracker : viewer.loop.tracker = Tracker.after samples viewer.rounds.length
  source : viewer.loop.source = samples.drop viewer.rounds.length
  resting : ∃ paints, Resting (asked samples viewer.rounds.length) viewer.rounds
    (asked samples (viewer.rounds.length + 1)) paints w

/-- One more round is complete. -/
theorem Viewer.Ready.concat {samples : List (Option PointerSample)} {w : World start}
    {loop loop' : FrameLoop (List (Option PointerSample))}
    {outcome : Except MainError FrameReport} {paint : Paint} {report : FrameReport}
    (client : loop.client = .atRest) (last : paints.getLast? = some paint)
    (presents : Presents start rounds.length (screenAfter rounds rounds.length)
      ⟨outcome, loop'.screen⟩ paint report)
    (after : loop' = { loop with
      tracker := Tracker.after samples (rounds.length + 1)
      source := samples.drop (rounds.length + 1)
      screen := loop'.screen
      frames := report.frame })
    (resting : Resting (asked samples (rounds.length + 1)) rounds
      (asked samples (rounds.length + 1)) paints w) :
    Viewer.Ready samples ⟨loop', rounds ++ [⟨outcome, loop'.screen⟩]⟩ w := by
  have length : (rounds ++ [Round.mk outcome loop'.screen]).length = rounds.length + 1 :=
    List.length_append
  have count := resting.idle.count
  have past := resting.idle.past
  rw [resting.painted, framesIn_asked] at count
  rw [framesIn_asked] at past
  -- there are as many frames as rounds, this one included
  have painted : w.paints[rounds.length]? = some paint := by
    rw [resting.painted, ← last, List.getLast?_eq_getElem?, count]
    rfl
  have history := resting.history.concat painted presents
  refine ⟨?_, ?_, ?_, ?_, ?_, paints, ⟨⟨history, ?_, ?_⟩, resting.outside⟩, ?_, resting.painted⟩
  · exact (congrArg FrameLoop.client after).trans client
  · rw [length, screenAfter_last]
  · rw [length, ← presents.number]
    exact congrArg FrameLoop.frames after
  · rw [length]
    exact congrArg FrameLoop.tracker after
  · rw [length]
    exact congrArg FrameLoop.source after
  · rw [length, past]
  · rw [length]
    exact resting.asked.trans (asked_grows samples _)
  · rw [length]
    exact resting.idle

/-- What holds in the middle of a round, when the pointer device gives these readings. -/
@[reducible] def Viewer.Within (samples : List (Option PointerSample)) (viewer : Viewer) :
    World start → Prop :=
  Watching viewer.rounds (asked samples (viewer.rounds.length + 1))

/-- The viewer upholds its assertions. -/
theorem Viewer.upholds {samples : List (Option PointerSample)} :
    (rules start).Upholds .main Viewer.role (Viewer.Within samples) (Viewer.Ready samples) where
  stable viewer := by
    rintro w w' move ⟨client, screen, number, tracker, source, paints, resting⟩
    exact ⟨client, screen, number, tracker, source, paints, Resting.rests.stable move resting⟩
  within := by
    rintro viewer w ⟨-, -, -, -, -, paints, resting⟩
    exact resting.toWatching
  call _ viewer _ := by
    obtain ⟨loop, rounds⟩ := viewer
    -- which frames there were is a matter of the world; the round is the same for all of them
    have known (w : World start) (h : Viewer.Ready samples ⟨loop, rounds⟩ w) :
        ∃ paints, (loop.client = .atRest ∧ loop.screen = screenAfter rounds rounds.length ∧
          loop.frames = UInt32.ofNat rounds.length ∧
          loop.tracker = Tracker.after samples rounds.length ∧
          loop.source = samples.drop rounds.length) ∧
          Resting (asked samples rounds.length) rounds (asked samples (rounds.length + 1))
            paints w := by
      obtain ⟨client, screen, number, tracker, source, paints, resting⟩ := h
      exact ⟨paints, ⟨client, screen, number, tracker, source⟩, resting⟩
    refine Rules.Outline.strengthen (.of_exists fun paints => .assuming ?_) known
    rintro ⟨client, screen, number, tracker, source⟩
    have frames := framesIn_asked samples rounds.length
    rw [← frames] at number
    have next := asked_succ samples rounds.length
    refine (tick_outline client number (readPointer_eq tracker source)
      (next ▸ List.prefix_rfl)).bind ?_
    rintro ⟨outcome, loop'⟩
    refine .done ?_
    rintro w ⟨paints', paint, report, last, presents, after, resting⟩
    rw [← next] at resting
    rw [screen, frames] at presents
    exact .concat client last presents after resting

end Handoff

end TwinDesk
