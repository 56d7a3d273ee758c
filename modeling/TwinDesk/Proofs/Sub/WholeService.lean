import TwinDesk.Proofs.Link.Completion
import TwinDesk.Proofs.Sub.BoundedService

/-!
# Service within budgets, call by call

A call of the Sub processor is one program, and nothing in it marks the moment at which its command
has been carried out. Its bus cycles are those of its two parts, though. So along with every
interleaving of whole calls goes one of their parts, on the same chip and with the same Main
processor, in which that moment is noted.

* `Caller.role` — the Sub processor as a caller of `Dispatcher.serveWithin`.
* `Aligned`, `Serves.aligned` — a call stands where its parts stand.
* `serveWithin_exactly_once` — what was carried out by whole calls, once each and in order.
-/

namespace TwinDesk.Handshake

open Program

variable {R : Type}

/-! ## Whole calls -/

/-- The Sub processor, which makes whole calls. -/
structure Caller (R : Type) where
  dispatcher : Dispatcher R
  /-- How the calls ended so far, oldest first. -/
  results : List (Except LinkError Status)

namespace Caller

/-- A caller before its first call. -/
def ofDispatcher (d : Dispatcher R) : Caller R := ⟨d, []⟩

/-- Notes how a call ended. -/
def note (caller : Caller R) (result : Except LinkError Status × Dispatcher R) : Caller R :=
  ⟨result.2, caller.results ++ [result.1]⟩

/-- What the Sub processor may do: one call after the other, each with a budget of its own. -/
def role [Painter R] : Role (Caller R) where
  Call := Budget
  Allowed _ _ := True
  run budget caller := do
    let result ← caller.dispatcher.serveWithin budget
    return fun _ => caller.note result

/-- A call begins with its first part. -/
theorem run_eq [Painter R] (budget : Budget) (caller : Caller R) :
    role.run budget caller = (caller.dispatcher.takeUp budget).bind fun taken =>
      (Dispatcher.conclude budget taken).bind fun result => done fun _ => caller.note result := by
  show (caller.dispatcher.serveWithin budget).bind _ = _
  rw [Dispatcher.serveWithin_eq, bind_assoc]
  rfl

end Caller

/-- What a caller sees of a server. -/
def Server.caller (server : Server R) : Caller R := ⟨server.dispatcher, server.results⟩

/-! ## A call and its parts -/

/-- A whole call stands where its parts stand. -/
inductive Aligned : Processor (Caller R) → Processor (Server R) → Prop where
  | free {server : Server R} (owed : server.owed = none) :
    Aligned (.free server.caller) (.free server)
  /-- In the first part, with `p` left of it. -/
  | takingUp {server : Server R} (owed : server.owed = none) {budget : Budget}
    {p : Program (Except LinkError (Option (Opcode × Params) × Status) × Dispatcher R)}
    (running : p.value? = none) :
    Aligned
      (.calling server.caller (p.bind fun taken =>
        (Dispatcher.conclude budget taken).bind fun result =>
          done fun _ => server.caller.note result))
      (.calling server (p.bind fun taken => done fun _ => server.noteTaken budget taken))
  /-- In the second part, with `p` left of it. -/
  | replying {caller : Caller R} {server : Server R} (results : caller.results = server.results)
    {p : Program (Except LinkError Status × Dispatcher R)} (running : p.value? = none) :
    Aligned (.calling caller (p.bind fun result => done fun _ => caller.note result))
      (.calling server (p.bind fun result => done fun _ => server.noteReplied result))

namespace Aligned

variable {caller : Caller R} {server : Server R} {chip chip' : GateArray} {m : Processor Sender}
  {start : System Sender (Server R)}

theorem resume_replying (results : caller.results = server.results) (chip : GateArray)
    (p : Program (Except LinkError Status × Dispatcher R)) :
    Aligned (.resume chip caller (p.bind fun result => done fun _ => caller.note result))
      (.resume chip server (p.bind fun result => done fun _ => server.noteReplied result)) := by
  cases running : p.value? with
  | some result =>
    rw [eq_done_of_value? running]
    have same : caller.note result = (server.noteReplied result).caller := by
      rw [Caller.note, results]
      rfl
    show Aligned (.free (caller.note result)) (.free (server.noteReplied result))
    rw [same]
    exact .free rfl
  | none =>
    rw [Processor.resume, value?_bind running, Processor.resume, value?_bind running]
    exact .replying results running

/-- Both have noted how the same calls ended. -/
theorem results {whole : Processor (Caller R)} {parts : Processor (Server R)}
    (aligned : Aligned whole parts) : whole.state.results = parts.state.results := by
  cases aligned with
  | free owed => rfl
  | takingUp owed running => rfl
  | replying results running => exact results

/-- Nothing stops a call that does not stop its parts. -/
theorem runs {rest : Program (GateArray → Caller R)} {parts : Processor (Server R)}
    (aligned : Aligned (.calling caller rest) parts)
    (runs : ∀ server rest, parts = .calling server rest →
      ∃ next, rest.step .sub chip = .ok next) :
    ∃ next, rest.step .sub chip = .ok next := by
  cases aligned with
  | takingUp owed running =>
    have first := (exists_step_bind_iff running _ _ _).mp (runs _ _ rfl)
    exact (exists_step_bind_iff running _ _ _).mpr first
  | replying results running =>
    have second := (exists_step_bind_iff running _ _ _).mp (runs _ _ rfl)
    exact (exists_step_bind_iff running _ _ _).mpr second

variable [Painter R]

/-- Where the first part ends, the parts go on with the second one at once. -/
theorem resume_takingUp (owed : server.owed = none) (budget : Budget)
    (p : Program (Except LinkError (Option (Opcode × Params) × Status) × Dispatcher R))
    (reachable : System.Reachable Sender.role Server.role start ⟨chip, m, .resume chip server
      (p.bind fun taken => done fun _ => server.noteTaken budget taken)⟩) :
    ∃ parts, System.Reachable Sender.role Server.role start ⟨chip, m, parts⟩ ∧
      Aligned (.resume chip server.caller (p.bind fun taken =>
        (Dispatcher.conclude budget taken).bind fun result =>
          done fun _ => server.caller.note result)) parts := by
  cases running : p.value? with
  | none =>
    refine ⟨_, reachable, ?_⟩
    rw [Processor.resume, value?_bind running, Processor.resume, value?_bind running]
    exact .takingUp owed running
  | some taken =>
    rw [eq_done_of_value? running] at reachable ⊢
    obtain ⟨e | ⟨command, status⟩, d⟩ := taken
    · have failed : (server.noteTaken budget (.error e, d)).owed = none := owed
      exact ⟨_, reachable, .free failed⟩
    · let owing : Server R := server.noteTaken budget (.ok (command, status), d)
      have reachable : System.Reachable Sender.role Server.role start ⟨chip, m, .free owing⟩ :=
        reachable
      refine ⟨_, reachable.step (.sub m (.call (show Server.role.Call from .giveReply) nofun)), ?_⟩
      exact resume_replying rfl chip (d.giveReply budget status)

/-- What a call does, its parts do. -/
theorem step {whole whole' : Processor (Caller R)} {parts : Processor (Server R)}
    (aligned : Aligned whole parts) (step : whole.Step Caller.role .sub chip whole' chip')
    (reachable : System.Reachable Sender.role Server.role start ⟨chip, m, parts⟩) :
    ∃ parts', System.Reachable Sender.role Server.role start ⟨chip', m, parts'⟩ ∧
      Aligned whole' parts' := by
  cases aligned with
  | @free server owed =>
    cases step with
    | call budget =>
      rw [server.caller.run_eq budget]
      exact resume_takingUp owed budget _
        (reachable.step (.sub m (.call (show Server.role.Call from .takeUp budget) owed)))
  | @takingUp server owed budget p running =>
    obtain ⟨p', stepped, rfl⟩ := Processor.of_step_calling running step
    exact resume_takingUp owed budget p'
      (reachable.step (.sub m (Processor.step_calling running stepped _ _)))
  | @replying caller server results p running =>
    obtain ⟨p', stepped, rfl⟩ := Processor.of_step_calling running step
    exact ⟨_, reachable.step (.sub m (Processor.step_calling running stepped _ _)),
      resume_replying results _ p'⟩

end Aligned

/-! ## What an observer finds -/

/-- What an observer of both processors finds, if the Sub processor makes whole calls and has
carried out `executed`. -/
structure CalledOnce (executed : List Execution) (system : System Sender (Caller R)) : Prop where
  /-- What was carried out are the first commands that were posted, in order and once each. -/
  ordered : executed.map (·.request) <+: system.main.state.posted
  /-- While a terminal status is shown, all commands are carried out, and it is that of the last. -/
  shown : ∀ status : Status, status.isTerminal = true → system.chip.flag .sub = status.code →
    executed.map (·.request) = system.main.state.posted ∧
      executed.getLast?.map (·.status) = some status
  /-- The statuses that came back are those of the first commands that were carried out. -/
  completed : system.main.state.completed <+: executed.map (·.status)
  /-- No call fails but by a timeout. -/
  graceful : ∀ result ∈ system.sub.state.results, Graceful result
  /-- Between two calls, the dispatcher knows whether the release of a status is still to come. -/
  unreleased : ∀ caller, system.sub = .free caller →
    (caller.dispatcher.unreleased = true ↔
      ∃ status, caller.dispatcher.responder = ⟨.signalled status⟩) ∧
    (caller.dispatcher.unreleased = true ↔ system.chip.flag .sub ≠ Status.idle.code)
  /-- No call ever faults. -/
  runs : ∀ caller rest, system.sub = .calling caller rest →
    ∃ next, rest.step .sub system.chip = .ok next

variable {system : System Sender (Caller R)}

/-- What is true of the parts is true of the calls. -/
theorem Aligned.calledOnce {parts : Processor (Server R)} (aligned : Aligned system.sub parts)
    (once : ServedOnce ⟨system.chip, system.main, parts⟩) :
    CalledOnce parts.state.executed system where
  ordered := once.ordered
  shown := once.shown
  completed := once.completed
  graceful := by
    rw [aligned.results]
    exact once.graceful
  unreleased := by
    intro caller free
    rw [free] at aligned
    cases aligned with
    | free owed => exact once.unreleased _ rfl owed
  runs := by
    intro caller rest calling
    rw [calling] at aligned
    exact aligned.runs once.runsSub

section

variable [Painter R] {chip : GateArray} {d : Dispatcher R}

/-- The interleavings of whole calls with the calls of the Main processor. -/
@[reducible] def Serves (chip : GateArray) (d : Dispatcher R)
    (system : System Sender (Caller R)) : Prop :=
  System.Reachable Sender.role Caller.role
    ⟨chip, .free .atRest, .free (.ofDispatcher d)⟩ system

/-- Every interleaving of whole calls is one of their parts. -/
theorem Serves.aligned (serves : Serves chip d system) :
    ∃ parts, Served chip d ⟨system.chip, system.main, parts⟩ ∧ Aligned system.sub parts := by
  induction serves with
  | start =>
    have begins : (Server.ofDispatcher d).owed = none := rfl
    exact ⟨_, .start, .free begins⟩
  | step _ step ih =>
    obtain ⟨parts, served, aligned⟩ := ih
    cases step with
    | main s step => exact ⟨parts, served.step (.main parts step), aligned⟩
    | sub m step => exact aligned.step step served

/-- On a chip that exchanges banks automatically, whole calls of `Dispatcher.serveWithin` carry out
every command once and in order, as the parts do that go along with them. -/
theorem serveWithin_exactly_once
    (paints : ∀ (painter : R) ops, (∀ op ∈ ops, PaintOp.Sound op) →
      Succeeds (Painter.paintAll painter ops))
    (quiet : Quiet chip) (calm : Calm chip.workspace) (rest : d.responder = .atRest)
    (released : d.unreleased = false) (sound : d.desktop.Sound) (serves : Serves chip d system) :
    ∃ parts, Served chip d ⟨system.chip, system.main, parts⟩ ∧ Aligned system.sub parts ∧
      CalledOnce parts.state.executed system := by
  obtain ⟨parts, served, aligned⟩ := serves.aligned
  have watched := served.upheld paints quiet calm rest released sound
  exact ⟨parts, served, aligned, aligned.calledOnce (watched.servedOnce paints)⟩

end

end TwinDesk.Handshake
