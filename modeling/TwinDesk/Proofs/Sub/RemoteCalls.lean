import TwinDesk.Display.Drawing
import TwinDesk.Proofs.Main.RemoteCalls
import TwinDesk.Proofs.Sub.Requests

/-!
# Remote calls refine local calls

The dispatcher carries the command of a remote call out by the local call on its own desktop. So
whatever sequence of calls the Main processor makes, it gets the answers of the local calls, and the
desktop of the Sub processor goes through the states of a local one.

* `Dispatcher.effect_eq_run` — one command is one local call.
* `RemoteCall.sendAll_outline` — the answers that the Main processor gets.
* `remote_calls_refine_local_calls` — both sides together, under every fair schedule.
-/

namespace TwinDesk

open Handshake Program

/-! ## Answers -/

namespace Pool

/-- Whether there is no room for another window. -/
def Full (pool : Pool) : Prop :=
  ∀ slot, (pool.slots.get slot).isSome = true

theorem freeSlot?_eq_none_iff (pool : Pool) : pool.freeSlot? = none ↔ pool.Full := by
  unfold freeSlot? Full
  rw [List.find?_eq_none]
  constructor
  · intro none slot
    have occupied := none slot (Slot.mem_all slot)
    rwa [Bool.not_eq_true, Option.isNone_eq_false_iff] at occupied
  · intro full slot _
    rw [Bool.not_eq_true, Option.isNone_eq_false_iff]
    exact full slot

end Pool

namespace Desktop

/-- The answer to an open call: a slot's id, or none where the pool is full. -/
theorem openWindow_fst (desktop : Desktop) (frame : Rect) :
    (desktop.openWindow frame).1 = desktop.compositor.windows.freeSlot?.map (·.id) := by
  unfold openWindow Compositor.openWindow Pool.allocate
  cases desktop.compositor.windows.freeSlot? <;> rfl

theorem openWindow_eq_none_iff (desktop : Desktop) (frame : Rect) :
    (desktop.openWindow frame).1 = none ↔ desktop.compositor.windows.Full := by
  rw [openWindow_fst, Option.map_eq_none_iff, Pool.freeSlot?_eq_none_iff]

/-- The id of a new window is not mistaken for the absence of one. -/
theorem openWindow_ne_sentinel (desktop : Desktop) (frame : Rect) :
    (desktop.openWindow frame).1 ≠ some ⟨WindowId.sentinel⟩ := by
  rw [openWindow_fst]
  intro eq
  obtain ⟨slot, -, same⟩ := Option.map_eq_some_iff.mp eq
  revert slot
  decide

end Desktop

namespace RemoteCall

theorem succeeded_outcome {words : Results} {ok : Bool} (word : words.first = Command.outcome ok) :
    Client.succeeded words = ok := by
  show (words.first == Command.resultOk) = ok
  rw [word]
  cases ok <;> rfl

/-- The client reads the answer out of result word 0. -/
theorem decode_word {call : RemoteCall} {place place' : Workplace} {answer : Answer}
    (run : call.run place = .ok (answer, place')) {words : Results}
    (word : ∀ value ∈ answer.word, words.first = value) : call.decode words = answer := by
  cases call with
  | initOs | sendPointer =>
    rw [RemoteCall.run] at run
    obtain ⟨_, -, eq⟩ := Checked.map_eq_ok_iff.mp run
    exact congrArg Prod.fst eq
  | openWindow frame =>
    obtain ⟨rfl, -⟩ := Prod.mk.inj (Except.ok.inj run)
    rw [decode, word _ rfl, WindowId.ofResult?_toResult (Desktop.openWindow_ne_sentinel _ _)]
  | closeWindow id | moveWindow id x y =>
    obtain ⟨rfl, -⟩ := Prod.mk.inj (Except.ok.inj run)
    rw [decode, succeeded_outcome (word _ rfl)]
  | cdPlay | cdStop => exact congrArg Prod.fst (Except.ok.inj run)

end RemoteCall

/-! ## Carrying a call out -/

namespace Dispatcher

variable {R : Type}

/-- What the commands of remote calls work on. -/
def place (d : Dispatcher R) : Workplace :=
  ⟨d.desktop, d.launcher, d.cd⟩

/-- The dispatcher with another workplace. -/
def withPlace (d : Dispatcher R) (place : Workplace) : Dispatcher R :=
  { d with desktop := place.desktop, launcher := place.launcher, cd := place.cd }

/-- The command of a remote call is carried out by the local call. -/
theorem effect_eq_run (d : Dispatcher R) (call : RemoteCall) :
    d.effect call.command.params call.command.opcode =
      (call.run d.place).map fun (answer, place) => (.done, answer.word, d.withPlace place) := by
  have intact := call.intact
  cases call with
  | initOs =>
    obtain ⟨⟨result, desktop⟩, fresh, rfl, -⟩ := Desktop.fresh_yields
    rw [RemoteCall.run, fresh]
    show (Desktop.fresh >>= _) = _
    rw [fresh]
    rfl
  | openWindow frame =>
    show Except.ok _ = Except.ok _
    rw [openDescribed, show Rect.ofOriginSize _ _ _ _ = _ from intact]
    rfl
  | closeWindow id =>
    show Except.ok _ = Except.ok _
    rw [closeNamed, show WindowId.ofParameter? _ = _ from intact]
    rfl
  | moveWindow id x y =>
    show Except.ok _ = Except.ok _
    rw [moveNamed, show WindowId.ofParameter? _ = _ from intact.1]
    rfl
  | sendPointer event =>
    have intact : PointerEvent.ofParams? event.toParams = some event := intact
    show d.effect event.toParams .mouseEvent = _
    rw [effect, intact, RemoteCall.run]
    show (d.desktop.pointerEvent d.launcher event >>= _) =
      Except.map _ (Except.map _ (d.desktop.pointerEvent d.launcher event))
    cases d.desktop.pointerEvent d.launcher event <;> rfl
  | cdPlay | cdStop => rfl

end Dispatcher

/-! ## The contract -/

namespace Handshake

/-- Each command is a remote call, and its reply tells the answer of the local call. -/
def callsFrom (start : Workplace) (count : Nat) : Contract where
  limit := some count
  Permits request := ∃ call : RemoteCall, request = call.command.request
  Answers requests reply := ∀ (before : List RemoteCall) (call : RemoteCall),
    requests = before.map (·.command.request) ++ [call.command.request] →
      ∃ answers place answer place', RemoteCall.runAll before start = .ok (answers, place) ∧
        call.run place = .ok (answer, place') ∧ reply.status = .done ∧
        call.decode reply.words = answer

/-- The dispatcher's workplace is the local one after the same calls. -/
def Follows {R : Type} (start : Workplace) (requests : List Request) (d : Dispatcher R) : Prop :=
  d.desktop.Sound ∧ ∀ calls : List RemoteCall, requests = calls.map (·.command.request) →
    ∃ answers, RemoteCall.runAll calls start = .ok (answers, d.place)

theorem request_injective {cmd cmd' : Command} (eq : cmd.request = cmd'.request) : cmd = cmd' := by
  obtain ⟨opcode, params⟩ := cmd
  obtain ⟨opcode', params'⟩ := cmd'
  obtain ⟨code, rfl⟩ := Request.mk.inj eq
  obtain rfl : opcode = opcode' := Opcode.code_injective code
  rfl

/-- One more call, on both sides. -/
theorem Follows.step {R : Type} {start : Workplace} {count : Nat} {requests : List Request}
    {d d' : Dispatcher R} {opcode : Opcode} {params : Params} {status : Status}
    {word : Option UInt16} (follows : Follows start requests d)
    (eq : d.effect params opcode = .ok (status, word, d')) :
    Follows start (requests ++ [⟨opcode.code, params⟩]) d' ∧
      ∀ words : Results, (∀ value ∈ word, words.first = value) →
        (callsFrom start count).Answers (requests ++ [⟨opcode.code, params⟩]) ⟨status, words⟩ := by
  -- whichever call the command stands for, it has the same effect
  have local_run (call : RemoteCall) (same : ⟨opcode.code, params⟩ = call.command.request) :
      ∃ answer, call.run d.place = .ok (answer, d'.place) ∧ status = .done ∧
        word = answer.word := by
    have same : (⟨opcode, params⟩ : Command) = call.command := request_injective same
    have run := d.effect_eq_run call
    rw [← same, eq] at run
    obtain ⟨⟨answer, place⟩, ran, result⟩ := Checked.map_eq_ok_iff.mp run.symm
    cases result
    exact ⟨answer, ran, rfl, rfl⟩
  constructor
  · refine ⟨((d.effect_yields params follows.1 opcode).of_ok eq).2.1, fun calls all => ?_⟩
    obtain ⟨before, last, rfl, earlier, single⟩ := List.append_eq_map_iff.mp all
    obtain ⟨call, rfl, same⟩ := List.map_eq_singleton_iff.mp single
    obtain ⟨answers, run⟩ := follows.2 before earlier.symm
    obtain ⟨answer, ran, -⟩ := local_run call same.symm
    exact ⟨_, RemoteCall.runAll_concat run ran⟩
  · intro words known before call all
    obtain ⟨earlier, single⟩ := List.append_inj' all rfl
    obtain ⟨answers, run⟩ := follows.2 before earlier
    obtain ⟨answer, ran, rfl, rfl⟩ := local_run call (List.singleton_inj.mp single)
    exact ⟨answers, _, answer, _, run, ran, rfl, RemoteCall.decode_word ran known⟩

theorem carries_calls {R : Type} [Painter R] (start : Workplace) (count : Nat) :
    Carries (R := R) (callsFrom start count) (fun _ => True) (Follows start) where
  indifferent _ follows := follows
  results _ _ h := h
  sound follows := follows.1
  unknown unknown permits _ := by
    obtain ⟨call, rfl⟩ := permits
    have known : Opcode.ofCode? call.command.request.opcode = some call.command.opcode :=
      Opcode.ofCode?_eq_some_iff.mpr rfl
    rw [known] at unknown
    cases unknown
  plain _ _ follows eq := follows.step eq
  bank bank permits _ := by
    obtain ⟨call, same⟩ := permits
    have same : (⟨_, _⟩ : Command) = call.command := request_injective same
    cases call <;> cases same <;> cases bank

/-! ## The Main processor -/

variable {start : Workplace} {count : Nat}

/-- The command of a remote call is answered as the local call is, whatever is read off the result
words. -/
theorem request_outline {α : Type} (g : Results → α) (before : List RemoteCall) (call : RemoteCall)
    (room : before.length < count) :
    Triple (callsFrom start count) .main (Client.request call.command g .atRest)
      (At .main (Initiating .atRest (before.map (·.command.request))) 6 anything)
      fun result w => (∃ answers place words place',
          RemoteCall.runAll before start = .ok (answers, place) ∧
          call.run place = .ok (call.decode words, place') ∧ result = (.ok (g words), .atRest)) ∧
        At .main (Initiating .atRest ((before ++ [call]).map (·.command.request))) 6 anything
          w := by
  have admits : (callsFrom start count).Admits (before.map (·.command.request))
      call.command.request := by
    refine ⟨fun bound mem => ?_, call, rfl⟩
    cases mem
    rwa [List.length_map]
  have slack : 6 + 10 ≤ pace := by decide
  have called : Triple (callsFrom start count) .main (Initiator.atRest.call call.command) _ _ :=
    call_outline rfl call.opcode_ne_none admits slack
  rw [RemoteCall.request_eq]
  refine called.bind ?_
  rintro ⟨result, initiator⟩
  refine .done ?_
  intro w h
  obtain ⟨⟨reply, answered, idle, rest, all, answers⟩, room, -⟩ := h
  obtain rfl : result = .ok reply := answered
  obtain rfl : initiator = .atRest := eq_atRest_of_idle idle
  obtain ⟨answers, place, answer, place', run, ran, done, rfl⟩ := answers before call rfl
  constructor
  · refine ⟨answers, place, reply.words, place', run, ran, ?_⟩
    rw [Client.check_done _ done]
    rfl
  · refine ⟨⟨rest, ?_⟩, room, trivial⟩
    rw [List.map_append]
    exact all

/-- A remote call returns the answer of the local one. -/
theorem remote_outline (before : List RemoteCall) (call : RemoteCall)
    (room : before.length < count) :
    Triple (callsFrom start count) .main (call.send .atRest)
      (At .main (Initiating .atRest (before.map (·.command.request))) 6 anything)
      fun result w => (∃ answers place answer place',
          RemoteCall.runAll before start = .ok (answers, place) ∧
          call.run place = .ok (answer, place') ∧ result = (.ok answer, .atRest)) ∧
        At .main (Initiating .atRest ((before ++ [call]).map (·.command.request))) 6 anything
          w := by
  rw [call.send_eq]
  refine (request_outline _ before call room).weaken (fun _ h => h) ?_
  rintro result w ⟨⟨answers, place, words, place', run, ran, same⟩, h⟩
  exact ⟨⟨answers, place, _, place', run, ran, same⟩, h⟩

/-- The remote calls return the answers of the local ones. -/
theorem remoteAll_outline {before rest : List RemoteCall} {answers : List RemoteCall.Answer}
    {place : Workplace} (run : RemoteCall.runAll before start = .ok (answers, place))
    (room : before.length + rest.length = count) :
    Triple (callsFrom start count) .main (RemoteCall.sendAll rest .atRest)
      (At .main (Initiating .atRest (before.map (·.command.request))) 6 anything)
      fun result w => (∃ answers place', RemoteCall.runAll rest place = .ok (answers, place') ∧
          result = (answers.map .ok, .atRest)) ∧
        At .main (Initiating .atRest ((before ++ rest).map (·.command.request))) 6 anything w := by
  induction rest generalizing before answers place with
  | nil =>
    refine .done fun w h => ⟨⟨[], place, rfl, rfl⟩, ?_⟩
    rw [List.append_nil]
    exact h
  | cons call rest ih =>
    rw [List.length_cons] at room
    refine (remote_outline before call (by omega)).bind ?_
    intro result
    apply Rules.Outline.assuming
    rintro ⟨answers', place', answer, next, run', ran, same⟩
    subst same
    obtain ⟨rfl, rfl⟩ := Prod.mk.inj (Except.ok.inj (run.symm.trans run'))
    refine (ih (RemoteCall.runAll_concat run ran) ?_).bind ?_
    · rw [List.length_append, List.length_singleton]
      omega
    · rintro ⟨results, client⟩
      refine .done ?_
      rintro w ⟨⟨later, last, runs, same⟩, h⟩
      obtain ⟨rfl, rfl⟩ := Prod.mk.inj same
      rw [List.append_assoc] at h
      refine ⟨⟨answer :: later, last, ?_, rfl⟩, h⟩
      rw [RemoteCall.runAll, ran]
      show (RemoteCall.runAll rest next >>= _) = _
      rw [runs]
      rfl

/-- The client has the answers of the local calls that begin at `place`, and has sent nothing but
the commands of these calls. -/
def Returned (place : Workplace) (calls : List RemoteCall)
    (result : List (Except MainError RemoteCall.Answer) × Client) (c : Course) : Prop :=
  (∃ answers place', RemoteCall.runAll calls place = .ok (answers, place') ∧
    result = (answers.map .ok, .atRest)) ∧
  Initiating .atRest (calls.map (·.command.request)) c

/-- Whatever calls the Main processor makes of a dispatcher that has booted, under every fair
schedule each of them returns the answer of the local call, and the dispatcher ends with the desktop
that the local calls lead to. Every argument survives the trip through the parameter words, and an
open call finds no room exactly when the pool is full. -/
theorem remote_calls_refine_local_calls {R : Type} [Painter R] {start chip : GateArray}
    {painter : R} {launcher : Launcher} {d : Dispatcher R}
    (booted : Dispatcher.Booted start painter launcher chip d) (calls : List RemoteCall)
    {schedule : Nat → Side} (fair : Duo.Fair schedule) :
    (∃ answers place served d' chip', RemoteCall.runAll calls d.place = .ok (answers, place) ∧
      Duo.EndsWith schedule ⟨chip, RemoteCall.sendAll calls .atRest, d.serveTimes calls.length⟩
        chip' (answers.map .ok, .atRest) (served, d') ∧
      d'.place = place) ∧
    (∀ call ∈ calls, call.Intact) ∧
    ∀ (desktop : Desktop) (frame : Rect),
      (desktop.openWindow frame).1 = none ↔ desktop.compositor.windows.Full := by
  refine ⟨?_, fun call _ => call.intact, Desktop.openWindow_eq_none_iff⟩
  obtain ⟨rfl, desktop, -, sound, rfl⟩ := booted.known
  generalize booted_eq : ({ Dispatcher.initial painter launcher with desktop } : Dispatcher R) = d
  have begins : Follows d.place [] d := by
    subst booted_eq
    refine ⟨sound, fun calls none => ⟨[], ?_⟩⟩
    obtain rfl : calls = [] := List.map_eq_nil_iff.mp none.symm
    rfl
  have rest : d.responder = .atRest := by
    subst booted_eq
    rfl
  have none : RemoteCall.runAll [] d.place = .ok ([], d.place) := rfl
  -- both sides follow the same local run: the client in its results, the dispatcher in its place
  have returned : Triple (callsFrom d.place calls.length) .main (RemoteCall.sendAll calls .atRest)
      (At .main (Initiating .atRest []) 6 anything)
      fun result => At .main (Returned d.place calls result) 0 anything :=
    (remoteAll_outline none (Nat.zero_add _)).weaken (fun _ h => h) fun result w ⟨known, h⟩ =>
      h.mono (fun _ fits => ⟨known, fits⟩) (by decide)
  obtain ⟨result, served, d', chip', c, ends, ⟨⟨answers, place, run, rfl⟩, fits⟩, follows, -⟩ :=
    ends_of_service rfl returned
      (fun _ c h => ⟨h.2.1, (congrArg List.length h.2.2).trans (List.length_map _)⟩)
      (carries_calls d.place calls.length).executes rest begins
      (Dispatcher.quiet_bootedChip booted.quiet) trivial fair
  obtain ⟨answers', run'⟩ := follows.2 calls fits.2
  exact ⟨answers, place, served, d', chip', run, ends,
    congrArg Prod.snd (Except.ok.inj (run'.symm.trans run))⟩

/-- A window is opened, dragged off the screen and closed, and a track is played. -/
theorem remote_calls_refine_local_calls_session :
    ∃ chip d, Dispatcher.Booted (.initial false) Canvas.blank (.standIns []) chip d ∧
      ∃ answers place served d' chip',
        RemoteCall.runAll [.openWindow ⟨40, 50, 240, 150⟩,
          .sendPointer ⟨.down, .left, ⟨100, 55⟩, 0⟩, .moveWindow ⟨0⟩ (-500) 900, .closeWindow ⟨0⟩,
          .cdPlay 3] d.place = .ok (answers, place) ∧
        Duo.EndsWith Duo.inTurn ⟨chip, RemoteCall.sendAll [.openWindow ⟨40, 50, 240, 150⟩,
          .sendPointer ⟨.down, .left, ⟨100, 55⟩, 0⟩, .moveWindow ⟨0⟩ (-500) 900, .closeWindow ⟨0⟩,
          .cdPlay 3] .atRest, d.serveTimes 5⟩ chip' (answers.map .ok, .atRest) (served, d') ∧
        d'.place = place := by
  have quiet : Quiet (.initial false) := by
    intro side
    cases side <;> rfl
  obtain ⟨chip, d, booted⟩ := Dispatcher.exists_booted quiet Canvas.blank (.standIns [])
  exact ⟨chip, d, booted, (remote_calls_refine_local_calls booted _ Duo.fair_inTurn).1⟩

end Handshake

end TwinDesk
