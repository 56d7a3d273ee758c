import TwinDesk.Display.Canvas
import TwinDesk.Proofs.Boot.World
import TwinDesk.Proofs.Desktop.Sound
import TwinDesk.Proofs.Link.Calls

/-!
# Both processors agree on the boot

The Main processor boots, with or without a budget, and again if it likes; once it was told that
the Sub processor is ready it posts commands. The Sub processor waits for its release and boots.
Their bus cycles interleave one by one, from a chip at power-up.

* `Report.Fits` — the verdicts that the Main processor may come to.
* `Host.upholds`, `Guest.upholds` — what either side can rely on, call by call.
* `boot_agreement` — every verdict is the Sub processor's own, and no command is posted before the
  Sub processor is at rest.
* `dispatcher_boot_agreement` — the same for `Dispatcher.boot`, where the verdict is never against
  the Sub processor.
-/

namespace TwinDesk.Boot

open Program

variable {outcome : Except DesktopError Unit} {A : Stage → Prop} {R : Type}

/-! ## Verdicts -/

/-- What an attempt to boot has returned. -/
structure Report where
  /-- The budget of the wait; none for a wait without end. -/
  budget : Option Budget
  verdict : Except MainError Unit

namespace Report

/-- What a report says about the Sub processor is true at a stage of its boot. -/
def Holds (outcome : Except DesktopError Unit) (report : Report) (stage : Stage) : Prop :=
  match report.verdict with
  | .ok () => stage.isDecided = true ∧ outcome = .ok ()
  | .error (.subNotReady word) =>
    stage.isDecided = true ∧ word = Lifecycle.crashed.word ∧ ∃ e, outcome = .error e
  | .error (.link e) => e = .timeout ∧ report.budget ≠ none
  | .error _ => False

/-- What a report says about the Sub processor can be seen on the chip. -/
def Fits (outcome : Except DesktopError Unit) (report : Report) (chip : GateArray) : Prop :=
  match report.verdict with
  | .ok () => chip.results.first = Lifecycle.ready.word ∧ outcome = .ok ()
  | .error (.subNotReady word) =>
    chip.results.first = word ∧ word = Lifecycle.crashed.word ∧ ∃ e, outcome = .error e
  | .error (.link e) => e = .timeout ∧ report.budget ≠ none
  | .error _ => False

theorem lasting_holds (report : Report) : Stage.Lasting (report.Holds outcome) := by
  obtain ⟨budget, (subNotReady | _ | _ | e) | ⟨⟨⟩⟩⟩ := report
  · exact fun more holds => ⟨Stage.lasting_isDecided more holds.1, holds.2⟩
  · exact fun _ holds => holds
  · exact fun _ holds => holds
  · exact fun _ holds => holds
  · exact fun more holds => ⟨Stage.lasting_isDecided more holds.1, holds.2⟩

theorem fits_of_holds {report : Report} {w : World outcome} (holds : report.Holds outcome w.stage) :
    report.Fits outcome w.chip := by
  have word : w.stage.isDecided = true → w.chip.results.first = (lifecycleOf outcome).word := by
    intro decided
    rw [w.word]
    cases stage : w.stage <;> rw [stage] at decided <;> first | rfl | cases decided
  obtain ⟨budget, (subNotReady | _ | _ | e) | ⟨⟨⟩⟩⟩ := report
  · obtain ⟨decided, rfl, e, rfl⟩ := holds
    exact ⟨word decided, rfl, e, rfl⟩
  · exact holds
  · exact holds
  · exact holds
  · obtain ⟨decided, rfl⟩ := holds
    exact ⟨word decided, rfl⟩

/-- The word that is written at the end of a boot leads to a true verdict. -/
theorem holds_checkReady (budget : Option Budget) {stage : Stage}
    (decided : stage.isDecided = true) :
    Holds outcome ⟨budget, checkReady (lifecycleOf outcome).word⟩ stage := by
  cases outcome with
  | error e => exact ⟨decided, rfl, e, rfl⟩
  | ok done => exact ⟨decided, rfl⟩

end Report

/-! ## The Main processor -/

/-- Boots, with or without a budget. -/
def attempt : Option Budget → Program (Except MainError Unit)
  | none => boot
  | some budget => bootWithin budget

/-- Besides `A`, how a wait for a word of the Sub processor has ended. -/
def Waited (outcome : Except DesktopError Unit) (A : Stage → Prop) :
    Except LinkError UInt16 → Stage → Prop
  | .ok word, stage => Settled outcome A word stage
  | .error e, stage => A stage ∧ e = .timeout

/-- Whatever the Sub processor does in the meantime, the verdict is true. -/
theorem attempt_outline {B : Stage → Prop} (budget : Option Budget) (lasting : Stage.Lasting A)
    (within : ∀ stage, A stage → B stage) :
    (rules outcome).Outline .main (On B) (attempt budget) (On A) fun verdict =>
      On fun stage => A stage ∧ Report.Holds outcome ⟨budget, verdict⟩ stage := by
  have settles : (rules outcome).Outline .main (On B) settledState (On A) _ :=
    settledState_outline lasting within
  have rests : (rules outcome).Rests .main (On B) (On A) :=
    ⟨stable_main lasting, fun w holds => within w.stage holds⟩
  cases budget with
  | none =>
    refine (startSub_outline lasting within).bind fun _ => ?_
    refine Rules.Outline.bind (R := fun word => On (Settled outcome A word))
      (.await rests (fun w holds => ⟨w, rfl, rfl, holds⟩)
        (settles.weaken (fun _ holds => holds) ?_)) fun word => .done fun w holds => ?_
    · rintro (_ | word) w holds <;> exact holds
    obtain ⟨holds, decided, rfl⟩ := holds
    exact ⟨holds, Report.holds_checkReady none decided⟩
  | some budget =>
    refine (startSub_outline lasting within).bind fun _ => ?_
    refine Rules.Outline.bind (R := fun result => On (Waited outcome A result))
      (.awaitWithin (settles.weaken (fun _ holds => holds) ?_)
        (fun w holds => ⟨holds, rfl⟩) budget) fun result => ?_
    · rintro (_ | word) w holds <;> exact holds
    cases result with
    | error e =>
      refine .done fun w holds => ⟨holds.1, holds.2, ?_⟩
      exact Option.some_ne_none budget
    | ok word =>
      refine .done fun w holds => ?_
      obtain ⟨holds, decided, rfl⟩ := holds
      exact ⟨holds, Report.holds_checkReady (some budget) decided⟩

/-- The Main processor, with what its attempts to boot have returned, oldest first. -/
structure Host where
  initiator : Initiator
  reports : List Report

namespace Host

/-- The Main processor before its first attempt. -/
def atRest : Host := ⟨.atRest, []⟩

/-- The calls of the Main processor. -/
inductive Call where
  | boot (budget : Option Budget)
  | post (cmd : Command)

/-- What the Main processor may do: boot at any time, and post once it was told `READY`. -/
def role : Role Host where
  Call := Call
  Allowed
    | .boot _, _ => True
    | .post _, host => ∃ report ∈ host.reports, report.verdict = .ok ()
  run
    | .boot budget, host => do
      let verdict ← attempt budget
      return fun _ => { host with reports := host.reports ++ [⟨budget, verdict⟩] }
    | .post cmd, host => do
      let (_, initiator) ← host.initiator.post cmd
      return fun _ => { host with initiator }

/-- All reports are true at a stage. -/
def Informed (outcome : Except DesktopError Unit) (host : Host) (stage : Stage) : Prop :=
  ∀ report ∈ host.reports, report.Holds outcome stage

theorem lasting_informed (host : Host) : Stage.Lasting (host.Informed outcome) :=
  fun more informed report mem => report.lasting_holds more (informed report mem)

/-- What holds at all times. -/
def Ready (host : Host) : World outcome → Prop :=
  On (host.Informed outcome)

/-- Each call of the Main processor keeps its reports true, whatever the Sub processor does. -/
theorem upholds : (rules outcome).Upholds .main role Ready Ready where
  stable host := stable_main host.lasting_informed
  within _ _ ready := ready
  call call host allowed := by
    cases call with
    | boot budget =>
      refine (attempt_outline budget host.lasting_informed fun _ h => h).bind fun verdict =>
        .done fun w holds => ?_
      intro report mem
      rcases List.mem_append.mp mem with old | new
      · exact holds.1 report old
      · obtain rfl := List.mem_singleton.mp new
        exact holds.2
    | post cmd =>
      obtain ⟨report, mem, ready⟩ := allowed
      have decided (stage : Stage) (informed : host.Informed outcome stage) :
          stage.isDecided = true := by
        have holds := informed report mem
        rw [Report.Holds, ready] at holds
        exact holds.1
      refine (post_outline cmd host.initiator host.lasting_informed (fun _ h => h)
        decided).bind fun result => ?_
      exact .done fun w informed => informed

end Host

/-! ## The Sub processor -/

/-- The Sub processor, with what its boot has returned. -/
structure Guest (R : Type) where
  dispatcher : Dispatcher R
  result : Option (Except DesktopError Unit)

namespace Guest

/-- What the Sub processor does: once, it waits for the release and boots. -/
def role (setUp : Checked (Except DesktopError Unit × Desktop)) : Role (Guest R) where
  Call := Unit
  Allowed _ guest := guest.result = none
  run _ guest := do
    awaitRelease
    let (result, dispatcher) ← guest.dispatcher.bootWith setUp
    return fun _ => ⟨dispatcher, some result⟩

/-- The same, as it is programmed: the boot sets the desktop up itself. -/
def bootRole : Role (Guest R) where
  Call := Unit
  Allowed _ guest := guest.result = none
  run _ guest := do
    awaitRelease
    let (result, dispatcher) ← guest.dispatcher.boot
    return fun _ => ⟨dispatcher, some result⟩

theorem bootRole_eq : (bootRole : Role (Guest R)) = role Desktop.fresh := by
  simp only [bootRole, Dispatcher.boot_eq]
  rfl

/-- What holds between two calls. -/
def Ready (guest : Guest R) (w : World outcome) : Prop :=
  match guest.result with
  | none => Reached .held w
  | some result => Reached .up w ∧ result = outcome

/-- What holds in the middle of a call. -/
def Between (guest : Guest R) (w : World outcome) : Prop :=
  match guest.result with
  | none => Down w
  | some result => Reached .up w ∧ result = outcome

/-- The boot goes as the set-up of the desktop does, whatever the Main processor does. -/
theorem upholds (outcome : Except DesktopError Unit) (desktop : Desktop) :
    (rules outcome).Upholds .sub (role (R := R) (.ok (outcome, desktop))) Between Ready where
  stable guest := by
    obtain ⟨dispatcher, _ | result⟩ := guest
    · exact stable_sub (· = .held)
    · exact fun w w' move ready => ⟨stable_sub (· = .up) move ready.1, ready.2⟩
  within guest w ready := by
    obtain ⟨dispatcher, _ | result⟩ := guest
    · exact (rests_reached (nofun : Stage.held ≠ .up)).between w ready
    · exact ready
  call _ guest allowed := by
    obtain ⟨dispatcher, result⟩ := guest
    obtain rfl : result = none := allowed
    refine Rules.Outline.bind (awaitRelease_outline nofun) fun _ => ?_
    refine (dispatcher.bootWith_outline outcome desktop).bind ?_
    rintro ⟨result, dispatcher⟩
    refine .done fun w ends => ?_
    obtain ⟨same, up⟩ := ends
    cases same
    exact ⟨up, rfl⟩

/-- A boot as it is programmed goes like one whose set-up succeeds. -/
theorem bootRole_upholds :
    (rules (.ok ())).Upholds .sub (bootRole : Role (Guest R)) Between Ready := by
  obtain ⟨⟨result, desktop⟩, fresh, rfl, -⟩ := Desktop.fresh_yields
  rw [bootRole_eq, fresh]
  exact upholds (.ok ()) desktop

end Guest

/-! ## Both processors -/

/-- Both processors before their first calls, on a chip at power-up. -/
def start (automatic : Bool) (d : Dispatcher R) : System Host (Guest R) :=
  ⟨.initial automatic, .free .atRest, .free ⟨d, none⟩⟩

/-- What an observer finds at any moment. -/
structure Agrees (outcome : Except DesktopError Unit) (system : System Host (Guest R)) : Prop where
  reports : ∀ report ∈ system.main.state.reports, report.Fits outcome system.chip
  /-- Nothing is put on the wire before the boot is over and the flag back at `IDLE`. -/
  wire : system.chip.flag .main ≠ 0 ∨ system.chip.params ≠ blank →
    system.chip.flag .sub = Status.idle.code ∧ system.sub.state.result = some outcome
  /-- No call ever faults. -/
  runsMain : ∀ host rest, system.main = .calling host rest →
    ∃ next, rest.step .main system.chip = .ok next
  runsSub : ∀ guest rest, system.sub = .calling guest rest →
    ∃ next, rest.step .sub system.chip = .ok next

/-- The world of a chip at power-up. -/
def World.initial (outcome : Except DesktopError Unit) (automatic : Bool) : World outcome where
  chip := .initial automatic
  stage := .held
  flag := rfl
  word := by cases automatic <;> rfl
  silent _ := ⟨rfl, by cases automatic <;> rfl⟩

/-- Whatever the Sub processor does to boot, both processors agree if it upholds its assertions. -/
theorem agrees_of_reachable {role : Role (Guest R)}
    (upholds : (rules outcome).Upholds .sub role Guest.Between Guest.Ready) {automatic : Bool}
    {d : Dispatcher R} {system : System Host (Guest R)}
    (reachable : System.Reachable Host.role role (start automatic d) system) :
    Agrees outcome system := by
  have initially : System.Upheld (rules outcome) Host.Ready Host.Ready Guest.Between Guest.Ready
      (start automatic d) :=
    ⟨World.initial outcome automatic, rfl, by rintro report ⟨⟩, rfl⟩
  obtain ⟨w, eq, main, sub⟩ :=
    System.upheld_of_reachable Host.upholds upholds initially reachable
  refine ⟨fun report mem => ?_, fun wire => ?_, ?_, ?_⟩
  · rw [← eq]
    exact Report.fits_of_holds (main.within Host.upholds report mem)
  · rw [← eq] at wire ⊢
    have up : w.stage = .up := by
      by_contra down
      obtain ⟨flag, params⟩ := w.silent down
      exact wire.elim (fun raised => raised flag) fun written => written params
    have between := sub.within upholds
    refine ⟨by rw [w.flag, up]; rfl, ?_⟩
    rw [Guest.Between] at between
    split at between
    · exact absurd up between
    · rename_i known
      rw [known, between.2]
  · intro host rest calling
    rw [calling] at main
    rw [← eq]
    exact main.runs
  · intro guest rest calling
    rw [calling] at sub
    rw [← eq]
    exact sub.runs

/-- However the bus cycles of both processors interleave, and however the set-up of the desktop
goes: the Main processor comes to no verdict but the one that the Sub processor has written, and
posts no command before the Sub processor's flag is back at `IDLE`. -/
theorem boot_agreement {setUp : Checked (Except DesktopError Unit × Desktop)} {desktop : Desktop}
    (ends : setUp = .ok (outcome, desktop)) {automatic : Bool} {d : Dispatcher R}
    {system : System Host (Guest R)}
    (reachable : System.Reachable Host.role (Guest.role setUp) (start automatic d) system) :
    Agrees outcome system := by
  subst ends
  exact agrees_of_reachable (Guest.upholds outcome desktop) reachable

/-- The Main processor finds the flag at `IDLE` before the Sub processor has begun, and status word
0 at `READY` while the flag is at `BUSY`. It is refused at its first post, and posts later. -/
theorem boot_agreement_late_look : ∃ system,
    System.Reachable Host.role (Guest.role Desktop.fresh)
        (start true (.initial Canvas.blank (.standIns []))) system ∧
      system.main.state = ⟨⟨.posted .initOs⟩, [⟨none, .ok ()⟩]⟩ ∧
      system.chip.flag .main = Opcode.initOs.code ∧ Agrees (.ok ()) system := by
  obtain ⟨⟨result, desktop⟩, fresh, rfl, -⟩ := Desktop.fresh_yields
  rw [fresh]
  let d : Dispatcher Canvas := .initial Canvas.blank (.standIns [])
  let role : Role (Guest Canvas) := Guest.role (.ok (.ok (), desktop))
  have h : System.Reachable Host.role role (start true d) _ := .start
  -- the Main processor lets the Sub processor run and looks at its flag
  have h : System.Reachable Host.role role (start true d) _ :=
    .step h (.main _ (.call (show Host.role.Call from .boot none) trivial))
  have h : System.Reachable Host.role role (start true d) _ := h.main_cycles 10 rfl
  -- the Sub processor sees its release and makes three of its four writes
  have h : System.Reachable Host.role role (start true d) _ :=
    .step h (.sub _ (.call (show role.Call from ()) rfl))
  have h : System.Reachable Host.role role (start true d) _ := h.sub_cycles 5 rfl
  -- the verdict, and a post that finds the flag at `BUSY`
  have h : System.Reachable Host.role role (start true d) _ := h.main_cycles 1 rfl
  have h : System.Reachable Host.role role (start true d) _ :=
    .step h (.main _ (.call (show Host.role.Call from .post .initOs) ⟨_, List.mem_cons_self, rfl⟩))
  have h : System.Reachable Host.role role (start true d) _ := h.main_cycles 1 rfl
  -- the last write of the boot, and the post
  have h : System.Reachable Host.role role (start true d) _ := h.sub_cycles 1 rfl
  have h : System.Reachable Host.role role (start true d) _ :=
    .step h (.main _ (.call (show Host.role.Call from .post .initOs) ⟨_, List.mem_cons_self, rfl⟩))
  have h : System.Reachable Host.role role (start true d) _ := h.main_cycles 6 rfl
  exact ⟨_, h, rfl, rfl, boot_agreement rfl h⟩

/-! ## The boot as it is programmed -/

/-- The set-up of the desktop succeeds, so an attempt to boot may only run out of time. -/
theorem Report.verdict_of_fits {report : Report} {chip : GateArray}
    (fits : report.Fits (.ok ()) chip) :
    report.verdict = .ok () ∨ report.verdict = .error (.link .timeout) ∧ report.budget ≠ none := by
  obtain ⟨budget, (subNotReady | _ | _ | e) | ⟨⟨⟩⟩⟩ := report
  · obtain ⟨-, -, e, failed⟩ := fits
    cases failed
  · exact fits.elim
  · exact fits.elim
  · obtain ⟨rfl, bounded⟩ := fits
    exact .inr ⟨rfl, bounded⟩
  · exact .inl rfl

/-- Both processors agree on the boot as it is programmed, and no verdict is against the Sub
processor. -/
theorem dispatcher_boot_agreement {automatic : Bool} {d : Dispatcher R}
    {system : System Host (Guest R)}
    (reachable : System.Reachable Host.role Guest.bootRole (start automatic d) system) :
    Agrees (.ok ()) system ∧ ∀ report ∈ system.main.state.reports,
      report.verdict = .ok () ∨
        report.verdict = .error (.link .timeout) ∧ report.budget ≠ none := by
  have agrees := agrees_of_reachable Guest.bootRole_upholds reachable
  exact ⟨agrees, fun report mem => Report.verdict_of_fits (agrees.reports report mem)⟩

end TwinDesk.Boot
