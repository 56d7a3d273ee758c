import TwinDesk.Proofs.Handoff.Painting
import TwinDesk.Proofs.Link.Calls
import TwinDesk.Proofs.Sub.Serve

/-!
# The studio

The Sub processor serves one command of the frame loop after the other. For each of them it waits as
long as it takes, or within a budget; then a call may end before there is a command, or before the
release of the one that it has answered.

* `Studio` — the dispatcher with the frames that it has painted.
* `Keeping` — what the flags of a command do to the hand-off.
* `Studio.upholds` — whatever the viewer does, one more call keeps the hand-off in order.
-/

namespace TwinDesk

open Handshake Program

namespace Handoff

/-! ## Calls of the dispatcher -/

/-- The Sub processor with its dispatcher. -/
structure Studio where
  dispatcher : Dispatcher Canvas
  /-- What was painted so far, oldest first. -/
  paints : List Paint

/-- How long the Sub processor waits for the Main processor. -/
inductive Service where
  | forever
  | within (budget : Budget)

/-- Serves one command. -/
def Service.serve : Service → Dispatcher Canvas →
    Program (Except LinkError Status × Dispatcher Canvas)
  | forever, d => d.serve
  | within budget, d => d.serveWithin budget

/-- The dispatcher serves commands. -/
@[reducible] def Studio.role : Role Studio where
  Call := Service
  Allowed _ _ := True
  run service studio := (service.serve studio.dispatcher).bind fun (_, d) =>
    .done fun _ => ⟨d, noted studio.paints studio.dispatcher d⟩

variable {start : Bool} {ps : List Paint}

/-! ## The flags of a command -/

/-- These frames are painted. While a command is carried out, the last one is delivered, and `L`
holds of the link. -/
structure Keeping (ps : List Paint) (L : Handshake.World session → Prop) (w : World start) :
    Prop where
  painted : w.paints = ps
  acked : w.link.course.stage = .acked → With L (Handed start ps) w

theorem acked_of_main_moves {w w' : Handshake.World session}
    (move : (handshake session).Moves .main w w') (acked : w'.course.stage = .acked) :
    w.course.stage = .acked := by
  obtain ⟨-, lingers | advances⟩ := move
  · exact lingers.course ▸ acked
  · have step := advances.step
    generalize w'.course = c at step acked
    cases step <;> cases acked

theorem Keeping.stable {L : Handshake.World session → Prop}
    (stable : (handshake session).Stable .sub L) : (rules start).Stable .sub (Keeping ps L) := by
  intro w w' move h
  refine ⟨move.2.1.trans h.painted, fun acked => ?_⟩
  have before := acked_of_main_moves move.1 acked
  have both : With (fun link => L link ∧ Engaged link) (Handed start ps) w :=
    ⟨⟨(h.acked before).link, before⟩, (h.acked before).memory⟩
  have after := With.stable (Handed.stays List.prefix_rfl) (stable.and engaged_stable) And.right
    move both
  exact ⟨after.link.1, after.memory⟩

/-- No command is taken up yet. -/
structure Early (ps : List Paint) (c : Course) : Prop where
  stage : c.stage = .rest ∨ c.stage = .posted
  past : c.framesPast ≤ ps.length

/-- A command that is taken up finds the last frame delivered. -/
theorem early_outline {α : Type} {p : Program α} (uses : p.Uses Access.OnFlag)
    {L : Handshake.World session → Prop} {L' : α → Handshake.World session → Prop}
    (outline : Outlined session .sub (Early ps) p L L') :
    (rules start).Outline .sub (Serving ps) p
      (fun w => L w.link ∧ Keeping ps (fun _ => True) w)
      fun value w => L' value w.link ∧ Keeping ps (fun _ => True) w := by
  refine (lift uses (fun _ onFlag => onFlag.plain) outline (Keeping.stable fun _ _ _ h => h)
    (fun _ _ => trivial) (fun _ _ _ => trivial) ?_).relax fun w h =>
      ⟨h.2.painted ▸ List.prefix_rfl, h.1.past⟩
  intro w link early move _ keeping _
  have other : w.link.course.stage ≠ .acked := by
    rcases early.stage with stage | stage <;> rw [stage] <;> decide
  have published := w.published other
  have vacant (posted : w.link.course.stage = .posted) : Vacant w.banks := fun bank =>
    published.vacant bank fun _ => by rw [posted]; decide
  -- either nothing happens to the command, or it is taken up, and the banks become the painter's
  have next : (link.course.stage ≠ .acked → Published start link.course w.mode w.banks w.paints) ∧
      (link.course.stage = .acked → Vacant w.banks) := by
    obtain ⟨-, lingers | advances⟩ := move
    · rw [lingers.course]
      exact ⟨fun _ => published, fun acked => absurd acked other⟩
    · have step := advances.step
      have stage := early.stage
      generalize w.link.course = c at *
      generalize link.course = c' at *
      cases step with
      | ack posted => exact ⟨fun other => absurd rfl other, fun _ => vacant posted⟩
      | signal _ acked => exact absurd acked other
      | settle released => rcases stage with e | e <;> rw [e] at released <;> cases released
  exact ⟨next.1, keeping.painted, fun acked => ⟨trivial, keeping.painted ▸ published.toDelivered,
    next.2 acked, keeping.painted⟩⟩

/-- The command is carried out. -/
structure Late (ps : List Paint) (c : Course) : Prop where
  stage : c.stage = .acked ∨ c.stage = .signalled ∨ c.stage = .released
  past : c.framesPast ≤ ps.length

section

variable {requests : List Request} {replies : List Reply} {request : Request} {ps' : List Paint}

/-- The reply to a command can be given: the frame is delivered. -/
@[reducible] def Replying (ps : List Paint) (requests : List Request) (replies : List Reply)
    (request : Request) : Handshake.World session → Prop :=
  At .sub (Handling .acked requests replies request) pace (Replies request ps)

theorem Replying.stable : (handshake session).Stable .sub (Replying ps requests replies request) :=
  At.stable (handling_standing (B := fun _ => True) rfl fun _ _ => trivial).outlasts

/-- A reply that is given publishes the frame. -/
theorem published_of_signal {w : World start} {link : Handshake.World session}
    (h : With (Replying ps requests replies request) (Handed start ps) w)
    (count : ps.length = framesIn (requests ++ [request]))
    (asked : link.course.requests = w.link.course.requests)
    (signalled : link.course.stage = .signalled)
    (workspace : link.chip.workspace = w.link.chip.workspace) :
    Published start link.course w.mode w.banks w.paints := by
  have closed : link.course.stage.isOpen = false := by
    rw [signalled]
    rfl
  have answered : link.course.answered = requests ++ [request] :=
    (answered_of_closed closed).trans (asked.trans h.link.course.asked)
  have painted : w.paints = ps := h.memory.painted
  refine ⟨painted ▸ h.memory.toDelivered, ?_, ?_, fun bank _ => h.memory.vacant bank⟩
  · rw [answered, painted, count]
  · rw [answered, painted]
    intro last mem frame reply given paint latest
    rw [List.getLast?_concat] at mem
    cases mem
    obtain ⟨-, words, -⟩ := link.shows.reply closed reply given
    have same : link.chip.results = w.link.chip.results :=
      congrArg GateArray.Workspace.results workspace
    rw [← words, same]
    exact h.link.own frame paint latest

variable (replies) in
/-- A reply that is given finds the frame delivered. -/
theorem late_outline (more : ps <+: ps') (count : ps'.length = framesIn (requests ++ [request]))
    {α : Type} {p : Program α} (uses : p.Uses Access.OnFlag)
    {L : Handshake.World session → Prop} {L' : α → Handshake.World session → Prop}
    (outline : Outlined session .sub (Late ps) p L L') :
    (rules start).Outline .sub (Serving ps) p
      (fun w => L w.link ∧ Keeping ps' (Replying ps' requests replies request) w)
      fun value w => L' value w.link ∧ Keeping ps' (Replying ps' requests replies request) w := by
  refine (lift uses (fun _ onFlag => onFlag.plain) outline (Keeping.stable Replying.stable)
    (fun _ _ => trivial) (fun _ _ _ => trivial) ?_).relax fun w h =>
      ⟨h.2.painted ▸ more, h.1.past⟩
  intro w link late move reaches keeping _
  have workspace : link.chip.workspace = w.link.chip.workspace := by
    rcases reaches with same | ⟨a, answer, onFlag, eq⟩
    · rw [same]
    · exact GateArray.workspace_of_onFlag _ onFlag eq
  -- the frame is published by the very cycle that signals the reply
  have next : (link.course.stage ≠ .acked → Published start link.course w.mode w.banks w.paints) ∧
      (link.course.stage = .acked →
        Replying ps' requests replies request link ∧ Handed start ps' w.mode w.banks w.paints) := by
    obtain ⟨-, lingers | advances⟩ := move
    · rw [lingers.course]
      refine ⟨w.published, fun acked => ⟨?_, (keeping.acked acked).memory⟩⟩
      obtain ⟨course, -, own⟩ := (keeping.acked acked).link
      have told : Replies request ps' link.chip.workspace := by
        rw [workspace]
        exact own
      have known : At .sub (Handling .acked requests replies request) 0 (Replies request ps')
          link :=
        ⟨lingers.course ▸ course, link.paced .sub, told⟩
      exact at_refresh known
    · have step := advances.step
      have stage := late.stage
      generalize before : w.link.course = c at step stage
      generalize after : link.course = c' at step ⊢
      cases step with
      | ack posted => rcases stage with e | e | e <;> rw [e] at posted <;> cases posted
      | signal _ acked =>
        subst before
        refine ⟨fun _ => after ▸ ?_, nofun⟩
        exact published_of_signal (keeping.acked acked) count (by rw [after]) (by rw [after])
          workspace
      | settle released =>
        subst before
        have published := w.published (by rw [released]; decide)
        exact ⟨fun _ => ⟨published.toDelivered, published.count, published.rects,
          fun bank _ => published.vacant bank fun _ => by rw [released]; decide⟩, nofun⟩
  exact ⟨next.1, keeping.painted, fun acked => ⟨(next.2 acked).1, (next.2 acked).2⟩⟩

end

/-! ## Between two calls -/

/-- The dispatcher waits for the next command. -/
structure Listening (ps : List Paint) (requests : List Request) (replies : List Reply)
    (d : Dispatcher Canvas) : Prop where
  orderly : Orderly d.desktop
  count : ps.length = framesIn requests
  cursor : d.desktop.compositor.cursor = cursorAfter requests
  even : requests.length = replies.length
  responder : d.responder = .atRest
  unreleased : d.unreleased = false

/-- The dispatcher waits for the release of its last command. -/
structure Releasing (ps : List Paint) (requests : List Request) (replies : List Reply)
    (request : Request) (d : Dispatcher Canvas) : Prop where
  orderly : Orderly d.desktop
  count : ps.length = framesIn (requests ++ [request])
  cursor : d.desktop.compositor.cursor = cursorAfter (requests ++ [request])
  even : requests.length = replies.length
  responder : ∃ status, d.responder = ⟨.signalled status⟩
  unreleased : d.unreleased = true

variable {requests : List Request} {replies : List Reply} {request : Request}
  {d : Dispatcher Canvas}

/-- No command is taken up, and these frames are painted. -/
structure Free (ps : List Paint) (requests : List Request) (replies : List Reply)
    (w : World start) : Prop where
  link : At .sub (Waiting requests replies) pace anything w.link
  painted : w.paints = ps

/-- The last command is answered, but its release was not seen yet. -/
structure Held (ps : List Paint) (requests : List Request) (replies : List Reply)
    (request : Request) (w : World start) : Prop where
  link : At .sub (Replied requests replies request) pace anything w.link
  painted : w.paints = ps

/-- What the Sub processor knows between two calls. -/
def Studio.Ready (studio : Studio) (w : World start) : Prop :=
  (∃ requests replies, Listening studio.paints requests replies studio.dispatcher ∧
    Free studio.paints requests replies w) ∨
  (∃ requests replies request,
    Releasing studio.paints requests replies request studio.dispatcher ∧
    Held studio.paints requests replies request w)

/-- Whether a release is still to come, the dispatcher tells. -/
theorem Studio.Ready.listening {studio : Studio} {w : World start} (ready : studio.Ready w)
    (released : studio.dispatcher.unreleased = false) :
    ∃ requests replies, Listening studio.paints requests replies studio.dispatcher ∧
      Free studio.paints requests replies w := by
  rcases ready with listening | ⟨_, _, _, releasing, -⟩
  · exact listening
  · cases released.symm.trans releasing.unreleased

theorem Studio.Ready.releasing {studio : Studio} {w : World start} (ready : studio.Ready w)
    (unreleased : studio.dispatcher.unreleased = true) :
    ∃ requests replies request,
      Releasing studio.paints requests replies request studio.dispatcher ∧
        Held studio.paints requests replies request w := by
  rcases ready with ⟨_, _, listening, -⟩ | releasing
  · cases unreleased.symm.trans listening.unreleased
  · exact releasing

theorem Listening.early (listening : Listening ps requests replies d) {c : Course}
    (stage : c.stage = .rest ∨ c.stage = .posted) (answered : c.replies = replies)
    (known : requests <+: c.requests) : Early ps c := by
  refine ⟨stage, past_of_known (Nat.le_of_eq listening.count.symm) known ?_⟩
  rcases stage with e | e <;> rw [Course.past, e, answered, listening.even]

theorem late_of_replied (count : framesIn requests ≤ ps.length)
    (even : requests.length = replies.length) {c : Course}
    (h : Replied requests replies request c) : Late ps c := by
  refine ⟨.inr h.stage, past_of_known count (h.asked ▸ List.prefix_append _ _) ?_⟩
  obtain ⟨reply, all⟩ := h.answered
  have length : c.replies.length - 1 = requests.length := by
    rw [all, List.length_append, List.length_singleton, Nat.add_sub_cancel, even]
  rcases h.stage with e | e <;> rw [Course.past, e] <;> exact length

theorem Releasing.late (releasing : Releasing ps requests replies request d) {c : Course}
    (h : Replied requests replies request c) : Late ps c := by
  refine late_of_replied ?_ releasing.even h
  rw [releasing.count]
  exact framesIn_mono (List.prefix_append _ _)

theorem Free.rests (listening : Listening ps requests replies d) :
    (rules start).Rests .sub (Serving ps) (Free ps requests replies) :=
  ⟨fun _ _ move h => ⟨At.stable waiting_outlasts move.1 h.link, move.2.1.trans h.painted⟩,
    fun _ h => ⟨h.painted ▸ List.prefix_rfl,
      (listening.early h.link.course.stage h.link.course.answered h.link.course.known).past⟩⟩

theorem Held.rests (releasing : Releasing ps requests replies request d) :
    (rules start).Rests .sub (Serving ps) (Held ps requests replies request) :=
  ⟨fun _ _ move h => ⟨At.stable replied_outlasts move.1 h.link, move.2.1.trans h.painted⟩,
    fun _ h => ⟨h.painted ▸ List.prefix_rfl, (releasing.late h.link.course).past⟩⟩

/-! ## One command -/

/-- A command is seen, but not taken up yet. -/
def Seen (ps : List Paint) (requests : List Request) (replies : List Reply) (raw : UInt8)
    (w : World start) : Prop :=
  At .sub (Unread .posted requests replies raw) 1 anything w.link ∧ Keeping ps (fun _ => True) w

theorem Free.keeping {w : World start} (h : Free ps requests replies w) :
    Keeping ps (fun _ => True) w := by
  refine ⟨h.painted, fun acked => ?_⟩
  rcases h.link.course.stage with stage | stage <;> rw [stage] at acked <;> cases acked

/-- There may always be one more command. -/
theorem unlimited (count : Nat) : ∀ limit ∈ session.limit, count < limit :=
  nofun

/-- How a call of the dispatcher ends. After a timeout the release of the command is still to
come. -/
def Served (paints : List Paint) (d : Dispatcher Canvas) (late : Prop)
    (result : Except LinkError Status × Dispatcher Canvas) (w : World start) : Prop :=
  ((∃ status, result.1 = .ok status) ∧ Studio.Ready ⟨result.2, noted paints d result.2⟩ w) ∨
    (late ∧ result.1 = .error .timeout ∧
      Studio.Ready ⟨{ result.2 with unreleased := true }, noted paints d result.2⟩ w)

/-- A way to finish a command, which may be too late for the release. -/
structure Finishes (finish : Status → Responder → Program (Except LinkError Unit × Responder))
    (late : Prop) : Prop where
  onFlags : ∀ status responder, (finish status responder).Uses Access.OnFlag
  outline : ∀ {B : Course → Prop} {W : GateArray.Workspace → Prop} {requests : List Request}
    {replies : List Reply} {request : Request} {status : Status} {raw : UInt8},
    Standing .sub B (Handling .acked requests replies request) →
    Standing .sub B (Replied requests replies request) → status.isTerminal = true →
    (∀ own, W own → session.Answers (requests ++ [request]) ⟨status, own.results⟩) →
    Outlined session .sub B (finish status ⟨.acked raw⟩)
      (At .sub (Handling .acked requests replies request) pace W) fun result w =>
        (result = (.ok (), .atRest) ∧ At .sub (Closed requests replies request) pace W w) ∨
          (late ∧ result = (.error .timeout, ⟨.signalled status⟩) ∧
            At .sub (Replied requests replies request) 2 W w)

theorem finishes_forever : Finishes Responder.finish False where
  onFlags := Responder.finish_onFlags
  outline handling replied terminal answers :=
    (finish_outline handling replied terminal answers).weaken (fun _ h => h) fun _ _ h => .inl h

theorem finishes_within (budget : Budget) : Finishes (Responder.finishWithin budget) True where
  onFlags := Responder.finishWithin_onFlags budget
  outline handling replied terminal answers :=
    (finishWithin_outline handling replied terminal answers budget).weaken (fun _ h => h)
      fun _ _ h => h.imp id fun timeout => ⟨trivial, timeout⟩

/-- The reply to a command that was carried out is given. -/
theorem giveReply_outline (count : ps.length = framesIn requests)
    (even : requests.length = replies.length) {raw : UInt8} {status : Status}
    {d' : Dispatcher Canvas} {late : Prop}
    {finish : Status → Responder → Program (Except LinkError Unit × Responder)}
    (finishes : Finishes finish late) (executed : Executed ps requests request d status d') :
    (rules start).Outline .sub (Serving ps) (finish status ⟨.acked raw⟩)
      (With (Replying (noted ps d d') requests replies request) (Handed start (noted ps d d')))
      fun result w =>
        (result = (.ok (), .atRest) ∧
          ∃ reply, Free (noted ps d d') (requests ++ [request]) (replies ++ [reply]) w) ∨
        (late ∧ result = (.error .timeout, ⟨.signalled status⟩) ∧
          Held (noted ps d d') requests replies request w) := by
  have handling : Standing .sub (Late ps) (Handling .acked requests replies request) :=
    handling_standing rfl fun c h =>
      ⟨.inl h.stage, past_of_handling count even h⟩
  have replied : Standing .sub (Late ps) (Replied requests replies request) :=
    ⟨replied_outlasts, fun c h =>
      late_of_replied (Nat.le_of_eq count.symm) even h⟩
  have terminal : status.isTerminal = true := by
    rw [executed.done]
    rfl
  have answers (own : GateArray.Workspace) (_ : Replies request (noted ps d d') own) :
      session.Answers (requests ++ [request]) ⟨status, own.results⟩ :=
    executed.done
  have finish : Outlined session .sub (Late ps) (finish status ⟨.acked raw⟩)
      (Replying (noted ps d d') requests replies request) _ :=
    finishes.outline handling replied terminal answers
  refine (late_outline replies executed.grown executed.count (finishes.onFlags _ _) finish).weaken
    ?_ ?_
  · exact fun w h => ⟨h.link, h.memory.painted, fun _ => h⟩
  · rintro result w ⟨⟨ok, h⟩ | ⟨late, timeout, h⟩, keeping⟩
    · obtain ⟨reply, waiting⟩ := h.course
      exact .inl ⟨ok, reply, ⟨waiting, h.room, trivial⟩, keeping.painted⟩
    · exact .inr ⟨late, timeout, at_refresh ⟨h.course, h.room, trivial⟩, keeping.painted⟩

section

variable (listening : Listening ps requests replies d)
include listening

theorem early_waiting : Standing .sub (Early ps) (Waiting requests replies) :=
  ⟨waiting_outlasts, fun _ h => listening.early h.stage h.answered h.known⟩

/-- The Sub processor waits for the next command. -/
theorem listen_outline :
    (rules start).Outline .sub (Serving ps) d.responder.waitCommand (Free ps requests replies)
      (Seen ps requests replies) := by
  rw [listening.responder]
  have wait : Outlined session .sub (Early ps) (Responder.waitCommand ⟨.waiting⟩)
      (At .sub (Waiting requests replies) (62 + 2) anything) _ :=
    waitCommand_outline (early_waiting listening) (unlimited _) (by decide)
  refine (early_outline (Responder.waitCommand_onFlags _) wait).weaken ?_ ?_
  · exact fun w h => ⟨h.link, h.keeping⟩
  · exact fun raw w h => ⟨h.1.mono (fun _ h => h) (by decide), h.2⟩

/-- It waits within a budget. -/
theorem listenWithin_outline (budget : Budget) :
    (rules start).Outline .sub (Serving ps) (d.responder.waitCommandWithin budget)
      (Free ps requests replies) fun
        | .ok raw => Seen ps requests replies raw
        | .error _ => Free ps requests replies := by
  rw [listening.responder]
  have wait : Outlined session .sub (Early ps) (Responder.waitCommandWithin budget ⟨.waiting⟩)
      (At .sub (Waiting requests replies) (62 + 2) anything) _ :=
    waitCommandWithin_outline (early_waiting listening) (unlimited _) budget (by decide)
  refine (early_outline (Responder.waitCommandWithin_onFlags _ _) wait).weaken ?_ ?_
  · exact fun w h => ⟨h.link, h.keeping⟩
  · rintro (e | raw) w h
    · exact ⟨h.1.2, h.2.painted⟩
    · exact ⟨h.1.mono (fun _ h => h) (by decide), h.2⟩

/-- A command that is seen is taken up. -/
theorem takeUp_outline (raw : UInt8) :
    (rules start).Outline .sub (Serving ps) d.responder.ack (Seen ps requests replies raw)
      fun result w => result = (.ok (), ⟨.acked raw⟩) ∧
        With (At .sub (Unread .acked requests replies raw) pace anything) (Handed start ps) w := by
  rw [listening.responder]
  have unread : Standing .sub (Early ps) (Unread .posted requests replies raw) :=
    unread_standing rfl fun _ unread => by
      obtain ⟨_, h⟩ := unread
      exact listening.early (.inr h.stage) h.answered (h.asked ▸ List.prefix_append _ _)
  have ack : Outlined session .sub (Early ps) (Responder.ack ⟨.waiting⟩)
      (At .sub (Unread .posted requests replies raw) 1 anything) _ :=
    ackSeen_outline unread (unlimited _)
  refine (early_outline (Responder.ack_onFlags _) ack).weaken (fun _ h => h) ?_
  rintro result w ⟨h, keeping⟩
  obtain ⟨ok, params, unread⟩ := h.course
  exact ⟨ok, ⟨⟨params, unread⟩, h.room, h.own⟩, (keeping.acked unread.stage).memory⟩

/-- A command that is seen is carried out, and its reply is given. -/
theorem answer_outline {raw : UInt8}
    {finish : Status → Responder → Program (Except LinkError Unit × Responder)} {late : Prop}
    (finishes : Finishes finish late) :
    (rules start).Outline .sub (Serving ps) (d.answer raw finish) (Seen ps requests replies raw)
      (Served ps d late) := by
  refine (takeUp_outline listening raw).bind fun result => .assuming ?_
  rintro rfl
  let d₁ : Dispatcher Canvas := { d with responder := ⟨.acked raw⟩ }
  have execute : (rules start).Outline .sub (Serving ps) (d₁.execute raw)
      (With (At .sub (Unread .acked requests replies raw) pace anything) (Handed start ps)) _ :=
    execute_outline listening.count (d := d₁) listening.orderly listening.even raw
  refine execute.bind ?_
  rintro ⟨status, d'⟩
  refine .of_exists fun request => .assuming fun executed => ?_
  have known : d'.responder = ⟨.acked raw⟩ := executed.responder
  have cursor : d'.desktop.compositor.cursor = cursorAfter (requests ++ [request]) := by
    rw [executed.cursor, cursorAfter_concat, ← listening.cursor]
  have reply : (rules start).Outline .sub (Serving ps) (finish status ⟨.acked raw⟩)
      (With (Replying (noted ps d₁ d') requests replies request) (Handed start (noted ps d₁ d')))
      _ :=
    giveReply_outline listening.count listening.even finishes executed
  rw [← known] at reply
  refine reply.bind ?_
  rintro ⟨finished, responder⟩
  refine .done ?_
  rintro w (⟨ok, reply, free⟩ | ⟨late, timeout, held⟩)
  · obtain ⟨rfl, rfl⟩ := Prod.mk.inj ok
    refine .inl ⟨⟨status, rfl⟩, .inl ⟨_, _, ⟨executed.orderly, executed.count, cursor, ?_, rfl, ?_⟩,
      free⟩⟩
    · rw [List.length_append, List.length_append, listening.even]
      rfl
    · exact executed.unreleased.trans listening.unreleased
  · obtain ⟨rfl, rfl⟩ := Prod.mk.inj timeout
    exact .inr ⟨late, rfl, .inr ⟨_, _, _,
      ⟨executed.orderly, executed.count, cursor, listening.even, ⟨status, rfl⟩, rfl⟩, held⟩⟩

/-- One more command is served. -/
theorem serve_outline :
    (rules start).Outline .sub (Serving ps) d.serve (Free ps requests replies)
      fun result => Studio.Ready ⟨result.2, noted ps d result.2⟩ := by
  refine (listen_outline listening).bind fun raw => ?_
  refine (answer_outline listening finishes_forever).weaken (fun _ h => h) ?_
  rintro result w (⟨-, ready⟩ | ⟨late, -⟩)
  · exact ready
  · exact late.elim

/-- One more command is served within a budget, or not yet. -/
theorem serveWithin_outline (budget : Budget) :
    (rules start).Outline .sub (Serving ps) (d.serveWithin budget) (Free ps requests replies)
      fun result => Studio.Ready ⟨result.2, noted ps d result.2⟩ := by
  unfold Dispatcher.serveWithin Dispatcher.completeRelease
  rw [listening.unreleased]
  refine (listenWithin_outline listening budget).bind ?_
  rintro (e | raw)
  · refine .done fun w h => ?_
    rw [noted_same rfl]
    exact .inl ⟨requests, replies, listening, h⟩
  · refine (answer_outline listening (finishes_within budget)).bind ?_
    -- only a timeout leaves something to be done
    rintro ⟨result, d'⟩
    cases result with
    | ok status =>
      refine .done ?_
      rintro w (⟨-, ready⟩ | ⟨-, timeout, -⟩)
      · exact ready
      · cases timeout
    | error e =>
      cases e with
      | timeout =>
        refine .done ?_
        rintro w (⟨⟨_, ok⟩, -⟩ | ⟨-, -, ready⟩)
        · cases ok
        · exact ready
      | _ =>
        refine .done ?_
        rintro w (⟨⟨_, ok⟩, -⟩ | ⟨-, timeout, -⟩)
        · cases ok
        · cases timeout

end

/-! ## A release that is still to come -/

section

variable (releasing : Releasing ps requests replies request d)
include releasing

/-- Without a budget, nothing is read ever again. -/
theorem serve_stuck :
    (rules start).Outline .sub (Serving ps) d.serve (Held ps requests replies request)
      fun _ _ => False := by
  obtain ⟨status, signalled⟩ := releasing.responder
  have held : (rules start).Rests .sub (Serving ps) (Held ps requests replies request) :=
    Held.rests releasing
  -- a responder that has signalled looks for no request, so the loop goes round without a cycle
  have look : d.responder.pollCommand = .done none := by
    rw [signalled]
    rfl
  have wait : (rules start).Outline .sub (Serving ps) d.responder.waitCommand
      (Held ps requests replies request) fun _ _ => False := by
    refine .await held (fun w h => ⟨w, rfl, w.still .sub, h⟩) ?_
    rw [look]
    exact .done fun w h => h
  exact wait.bind fun raw => .of_false _ _

/-- The release is awaited within a budget. -/
theorem completeRelease_outline (budget : Budget) :
    (rules start).Outline .sub (Serving ps) (d.completeRelease budget)
      (Held ps requests replies request)
      fun result w =>
        (result = (.ok (), { d with responder := .atRest, unreleased := false }) ∧
          ∃ reply, Free ps (requests ++ [request]) (replies ++ [reply]) w) ∨
        (result = (.error .timeout, d) ∧ Held ps requests replies request w) := by
  obtain ⟨status, signalled⟩ := releasing.responder
  unfold Dispatcher.completeRelease
  rw [releasing.unreleased, if_pos rfl, signalled]
  have replied : Standing .sub (Late ps) (Replied requests replies request) :=
    ⟨replied_outlasts, fun _ h => releasing.late h⟩
  have wait : Outlined session .sub (Late ps)
      (Responder.pollReleased.within budget ⟨.signalled status⟩)
      (At .sub (Replied requests replies request) 2 anything) _ :=
    waitReleasedWithin_outline replied budget
  refine ((late_outline replies List.prefix_rfl releasing.count
    (Poll.uses_upTo Responder.pollReleased_onFlags _ _) wait).strengthen ?_).bind ?_
  · refine fun w h => ⟨h.link.mono (fun _ h => h) (by decide), h.painted, fun acked => ?_⟩
    -- the reply was given before the timeout
    rcases h.link.course.stage with stage | stage <;> rw [stage] at acked <;> cases acked
  rintro ⟨result, responder⟩
  refine .done ?_
  rintro w ⟨⟨ok, h⟩ | ⟨timeout, h⟩, keeping⟩
  · obtain ⟨rfl, rfl⟩ := Prod.mk.inj ok
    obtain ⟨reply, waiting⟩ := h.course
    exact .inl ⟨rfl, reply, ⟨waiting, h.room, trivial⟩, keeping.painted⟩
  · obtain ⟨rfl, rfl⟩ := Prod.mk.inj timeout
    -- one more timeout leaves the dispatcher as it was
    obtain ⟨_, desktop, painter, frames, cd, launcher, _⟩ := d
    obtain rfl : _ = (⟨.signalled status⟩ : Responder) := signalled
    obtain rfl : _ = true := releasing.unreleased
    exact .inr ⟨rfl, at_refresh h, keeping.painted⟩

/-- After the release one more command is served. -/
theorem serveWithin_late_outline (budget : Budget) :
    (rules start).Outline .sub (Serving ps) (d.serveWithin budget)
      (Held ps requests replies request)
      fun result => Studio.Ready ⟨result.2, noted ps d result.2⟩ := by
  refine (completeRelease_outline releasing budget).bind ?_
  rintro ⟨e | ⟨⟨⟩⟩, d'⟩
  · refine .done ?_
    rintro w (⟨ok, -⟩ | ⟨same, held⟩)
    · cases (Prod.mk.inj ok).1
    · obtain rfl : d' = d := (Prod.mk.inj same).2
      rw [noted_same rfl]
      exact .inr ⟨requests, replies, request, releasing, held⟩
  · let released : Dispatcher Canvas := { d with responder := .atRest, unreleased := false }
    refine Rules.Outline.strengthen
      (P := fun w => ∃ reply, d' = released ∧
        Free ps (requests ++ [request]) (replies ++ [reply]) w)
      (.of_exists fun reply => .assuming ?_) ?_
    case refine_2 =>
      rintro w (⟨ok, reply, free⟩ | ⟨timeout, -⟩)
      · exact ⟨reply, (Prod.mk.inj ok).2, free⟩
      · cases (Prod.mk.inj timeout).1
    rintro rfl
    have even : (requests ++ [request]).length = (replies ++ [reply]).length := by
      rw [List.length_append, List.length_append, releasing.even]
      rfl
    have listening : Listening ps (requests ++ [request]) (replies ++ [reply]) released :=
      ⟨releasing.orderly, releasing.count, releasing.cursor, even, rfl, rfl⟩
    exact serveWithin_outline listening budget

end

/-! ## Any number of calls -/

/-- The studio upholds its assertions. -/
theorem Studio.upholds : (rules start).Upholds .sub Studio.role
    (fun studio => Serving studio.paints) Studio.Ready where
  stable studio := by
    rintro w w' move (⟨_, _, listening, free⟩ | ⟨_, _, _, releasing, held⟩)
    · exact .inl ⟨_, _, listening, (Free.rests listening).stable move free⟩
    · exact .inr ⟨_, _, _, releasing, (Held.rests releasing).stable move held⟩
  within studio := by
    rintro w (⟨_, _, listening, free⟩ | ⟨_, _, _, releasing, held⟩)
    · exact (Free.rests listening).between w free
    · exact (Held.rests releasing).between w held
  call service studio _ := by
    obtain ⟨d, paints⟩ := studio
    suffices outline : (rules start).Outline .sub (Serving paints) (service.serve d)
        (Studio.Ready ⟨d, paints⟩) fun result => Studio.Ready ⟨result.2, noted paints d result.2⟩ by
      exact outline.bind fun result => .done fun w h => h
    -- what is still to be done, the command or its release, is in the dispatcher's own flag
    cases unreleased : d.unreleased with
    | false =>
      refine Rules.Outline.strengthen (.of_exists fun requests => .of_exists fun replies =>
        .assuming fun listening => ?_) fun w ready => ready.listening unreleased
      cases service with
      | forever => exact serve_outline listening
      | within budget => exact serveWithin_outline listening budget
    | true =>
      refine Rules.Outline.strengthen (.of_exists fun requests => .of_exists fun replies =>
        .of_exists fun request => .assuming fun releasing => ?_)
        fun w ready => ready.releasing unreleased
      cases service with
      | forever => exact (serve_stuck releasing).weaken (fun _ h => h) fun _ _ h => h.elim
      | within budget => exact serveWithin_late_outline releasing budget

end Handoff

end TwinDesk
