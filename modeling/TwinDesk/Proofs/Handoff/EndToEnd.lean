import TwinDesk.Proofs.Handoff.Apart
import TwinDesk.Proofs.Link.Completion
import TwinDesk.Proofs.Sub.EveryCommand

/-!
# Frames from end to end

A frame loop on one side, a dispatcher that has booted on the other, and a chip that exchanges the
banks when it pleases: whatever the order of their steps, every round of the loop ends, and shows
the frame that was painted for it.

* `World.ofBooted` — after boot the hand-off is in order.
* `reaches_round` — some interleaving completes a round.
* `frames_end_to_end` — it stays so in every interleaving.
-/

namespace TwinDesk

open Handshake Program Relation

namespace Handoff

/-! ## After boot -/

/-- A chip on which nobody is inside of a bank, and no exchange is under way. -/
structure Undisturbed (chip : GateArray) : Prop where
  settled : chip.mode.pending = false
  vacant : ∀ bank, (chip.bank bank).occupied = false

variable {start chip : GateArray} {painter : Canvas} {launcher : Launcher} {d : Dispatcher Canvas}

theorem selection_zero (start : Bool) : selection start 0 = start :=
  Bool.xor_false start

/-- The world after boot: nothing was asked for, and nothing painted. -/
def World.ofBooted (quiet : Quiet chip) (undisturbed : Undisturbed chip) :
    World chip.mode.select where
  link := .ofQuiet quiet
  mode := chip.mode
  banks := chip.banks
  paints := []
  small := nofun
  quiet := (Bool.or_eq_false_iff.mp undisturbed.settled).2
  published _ :=
    { returned := (Bool.or_eq_false_iff.mp undisturbed.settled).1
      select := (selection_zero _).symm
      frame := nofun
      count := rfl
      rects := nofun
      vacant := fun bank _ => undisturbed.vacant bank }

/-- Boot does not touch the banks. -/
theorem memory_bootedChip (start : GateArray) :
    (Dispatcher.bootedChip start).mode = start.mode ∧
      (Dispatcher.bootedChip start).banks = start.banks := by
  obtain ⟨_, workspace⟩ := Dispatcher.workspace_bootedChip start
  exact ⟨congrArg GateArray.Workspace.mode workspace, congrArg GateArray.Workspace.banks workspace⟩

theorem Undisturbed.booted (undisturbed : Undisturbed start) :
    Undisturbed (Dispatcher.bootedChip start) := by
  obtain ⟨mode, banks⟩ := memory_bootedChip start
  refine ⟨?_, fun bank => ?_⟩
  · rw [mode]
    exact undisturbed.settled
  · unfold GateArray.bank
    rw [banks]
    exact undisturbed.vacant bank

/-- The frame loop before its first round. -/
def Viewer.initial (samples : List (Option PointerSample)) : Viewer :=
  ⟨.start .atRest samples, []⟩

/-- The frame loop after its first round, whatever the chip is then. -/
def Viewer.first (result : Except MainError FrameReport × FrameLoop (List (Option PointerSample)))
    (_ : GateArray) : Viewer :=
  ⟨result.2, [⟨result.1, result.2.screen⟩]⟩

/-- The dispatcher after boot. -/
def Studio.initial (d : Dispatcher Canvas) : Studio :=
  ⟨d, []⟩

/-- The dispatcher after one more call. -/
def Studio.leave (studio : Studio) (served : Except LinkError Status × Dispatcher Canvas) :
    Studio :=
  ⟨served.2, noted studio.paints studio.dispatcher served.2⟩

section

variable (quiet : Quiet chip) (undisturbed : Undisturbed chip)

theorem Viewer.ready_initial (samples : List (Option PointerSample)) :
    (Viewer.initial samples).Ready samples (World.ofBooted quiet undisturbed) where
  client := rfl
  screen := rfl
  number := rfl
  tracker := rfl
  source := rfl
  resting := by
    refine ⟨[], ⟨⟨nofun, Nat.zero_le _, List.nil_prefix⟩, fun _ => undisturbed.vacant⟩, ?_, rfl⟩
    exact ⟨⟨rfl, rfl⟩, Nat.le_of_eq (Nat.zero_add _), trivial⟩

theorem Studio.ready_initial (booted : Dispatcher.Booted start painter launcher chip d) :
    (Studio.initial d).Ready (World.ofBooted quiet undisturbed) := by
  obtain ⟨-, desktop, fresh, sound, rfl⟩ := booted.known
  have fits := Desktop.fresh_fits _ fresh
  have center := Desktop.fresh_cursor _ fresh
  refine .inl ⟨[], [], ⟨⟨sound, fits⟩, rfl, center, rfl, rfl, rfl⟩, ?_, rfl⟩
  exact ⟨⟨.inl rfl, rfl, List.prefix_rfl, rfl⟩, Nat.le_of_eq (Nat.zero_add _), trivial⟩

end

/-! ## What the sink shows -/

section

variable {first : Bool} {k : Nat} {before : Screen} {round : Round} {paint : Paint}
  {report : FrameReport} {rounds : List Round} {paints : List Paint}

theorem present_eq (screen : Screen) (bank : Bank) (bytes : BankBytes) :
    screen.present bank bytes = ⟨bytes.frame, screen.presented + 1, some bank⟩ :=
  dif_pos Layout.frameBytes_le_bankSize

/-- The sink shows the frame that was painted. -/
theorem Presents.frame (presents : Presents first k before round paint report) :
    round.screen.frame = paint.frame := by
  obtain ⟨bytes, same, shown⟩ := presents.once
  rw [shown, present_eq, same]

/-- The sink is called once per round. -/
theorem History.presented (history : History first rounds paints) {count : Nat}
    (le : count ≤ rounds.length) :
    (screenAfter rounds count).presented = UInt32.ofNat count := by
  induction count with
  | zero => rfl
  | succ count ih =>
    obtain ⟨paint, report, -, presents⟩ := history count le
    obtain ⟨bytes, -, shown⟩ := presents.once
    have after : screenAfter rounds (count + 1) = rounds[count].screen := by
      rw [screenAfter, List.getElem?_eq_getElem le]
      rfl
    rw [after, shown, present_eq, ih (Nat.le_of_succ_le le)]
    exact (UInt32.ofNat_add _ 1).symm

/-- Consecutive rounds show alternating banks. -/
theorem History.alternate (history : History first rounds paints) (next : k + 1 < rounds.length)
    {report' : FrameReport} (outcome : rounds[k].outcome = .ok report)
    (outcome' : rounds[k + 1].outcome = .ok report') : report'.bank = report.bank.other := by
  obtain ⟨_, _, -, presents⟩ := history k (Nat.lt_of_succ_lt next)
  obtain ⟨_, _, -, presents'⟩ := history (k + 1) next
  cases outcome.symm.trans presents.completed
  cases outcome'.symm.trans presents'.completed
  rw [presents'.bank, presents.bank, selection_succ _ (k + 1), Side.bank_not]

end

/-! ## Every interleaving -/

/-- A frame loop with a list of readings, and a dispatcher that has booted. -/
def initial (chip : GateArray) (samples : List (Option PointerSample)) (d : Dispatcher Canvas) :
    System Viewer Studio :=
  ⟨chip, .free (.initial samples), .free (.initial d)⟩

/-- The assertions of both processors hold in every interleaving. -/
theorem upheld (booted : Dispatcher.Booted start painter launcher chip d)
    (undisturbed : Undisturbed start) (samples : List (Option PointerSample))
    {system : System Viewer Studio}
    (run : ReflTransGen (System.Turn Viewer.role Studio.role) (initial chip samples d) system) :
    System.Upheld (rules start.mode.select) (Viewer.Within samples) (Viewer.Ready samples)
      (fun studio => Serving studio.paints) Studio.Ready system := by
  obtain ⟨rfl, -⟩ := booted.known
  rw [← (memory_bootedChip start).1]
  have quiet := Dispatcher.quiet_bootedChip booted.quiet
  refine System.upheld_of_turns Viewer.upholds Studio.upholds hardware_moves ?_ run
  exact ⟨.ofBooted quiet undisturbed.booted, rfl, Viewer.ready_initial _ _ samples,
    Studio.ready_initial _ _ booted⟩

/-! ## A round gets through -/

/-- To show a frame takes no waiting. -/
theorem present_straight (screen : Screen) : (Client.present screen).Straight := by
  have requested : Side.main.swapRequested.Straight := (Straight.cycle _).bind fun _ => trivial
  have current : Side.main.currentBank.Straight := (Straight.cycle _).bind fun _ => trivial
  have acquire : (Grant.acquire .main).Straight := by
    refine requested.bind ?_
    rintro (_ | _)
    · exact current.bind fun _ => trivial
    · trivial
  refine acquire.bind ?_
  rintro (e | grant)
  · trivial
  · have work : (grant.withBytes fun bytes =>
        .ok (screen.present grant.bank bytes, bytes)).Straight :=
      (Straight.cycle _).bind fun _ => (Straight.ofChecked _).bind fun _ =>
        (Straight.cycle _).bind fun _ => trivial
    exact work.bind fun _ => trivial

/-- After the frame is painted, the rest of the round takes no waiting. -/
theorem display_eq {S : Type} (pointer : Option PointerEvent) (loop : FrameLoop S) :
    ∃ show', loop.display pointer = (Client.renderFrame loop.client).bind show' ∧
      ∀ reply, (show' reply).Straight := by
  refine ⟨_, rfl, ?_⟩
  rintro ⟨e | reply, client⟩
  · trivial
  · refine (present_straight loop.screen).bind ?_
    rintro ⟨e | bank, screen⟩ <;> trivial

/-- A command that is the only one gets through. -/
theorem single_outline {cmd : Command} (nonzero : cmd.opcode ≠ .none) :
    Triple (anyCommands 1) .main (Initiator.atRest.call cmd)
      (At .main (Initiating .atRest []) 6 anything)
      fun result => At .main (fun c => (∃ reply, result = (.ok reply, .atRest)) ∧
        Initiating .atRest [cmd.request] c) 0 anything := by
  have admits : (anyCommands 1).Admits [] cmd.request :=
    ⟨fun limit mem => by cases mem; decide, trivial⟩
  refine (call_outline rfl nonzero admits (show 0 + 10 ≤ pace by decide)).weaken
    (fun _ h => h) ?_
  rintro ⟨result, initiator⟩ w h
  refine h.mono ?_ (Nat.le_refl 0)
  rintro c ⟨reply, ok, idle, rest, same, -⟩
  obtain rfl : result = .ok reply := ok
  obtain rfl := eq_atRest_of_idle idle
  exact ⟨⟨reply, rfl⟩, rest, same⟩

/-- Both processors are ready for a command, and the desktop is sound. -/
structure Prepared (chip : GateArray) (studio : Studio) : Prop where
  poised : Poised Calm chip studio.dispatcher
  sound : studio.dispatcher.desktop.Sound

/-- Wherever the Main processor is about to go on with `p` while both processors are ready for a
command, some interleaving takes it to a program such as this. -/
def Leads (viewer : Viewer) (R : Program (GateArray → Viewer) → Prop)
    (p : Program (GateArray → Viewer)) : Prop :=
  ∀ {chip before : GateArray} {studio : Studio}, Prepared chip studio →
    ∃ chip' before' s p', R p' ∧ ReflTransGen (System.Turn Viewer.role Studio.role)
      ⟨chip, .resume before viewer p, .free studio⟩ ⟨chip', .resume before' viewer p', s⟩

namespace Leads

variable {viewer : Viewer} {R : Program (GateArray → Viewer) → Prop}

theorem here {p : Program (GateArray → Viewer)} (holds : R p) : Leads viewer R p :=
  fun _ => ⟨_, _, _, p, holds, .refl⟩

/-- A command gets through when the Sub processor serves it, and leaves both ready for another
one. -/
theorem call {cmd : Command} (nonzero : cmd.opcode ≠ .none)
    {rest : Except LinkError Reply × Initiator → Program (GateArray → Viewer)}
    (next : ∀ reply, Leads viewer R (rest (.ok reply, .atRest))) :
    Leads viewer R ((Initiator.atRest.call cmd).bind rest) := by
  intro chip before studio prepared
  obtain ⟨result, answers, d', chip', c, ⟨enough, ends⟩, ⟨⟨reply, rfl⟩, -⟩, sound, poised, -⟩ :=
    ends_of_service rfl (single_outline nonzero)
      (fun value c fits => ⟨fits.2.1, congrArg List.length fits.2.2⟩)
      (carries_any 1).executes prepared.poised.responder prepared.sound prepared.poised.quiet
      prepared.poised.own Duo.fair_inTurn
  have run : Duo.run Duo.inTurn
      ⟨chip, (Initiator.atRest.call cmd).bind (done ∘ id), studio.dispatcher.serve.bind
        (done ∘ fun result => ([result.1], result.2))⟩ enough =
      .ok ⟨chip', .done (.ok reply, .atRest), .done (answers, d')⟩ := by
    show Duo.run _ ⟨_, (Initiator.atRest.call cmd).bind done, _⟩ _ = _
    rw [Program.bind_done]
    exact ends enough (Nat.le_refl _)
  obtain ⟨result, served, _, _, ⟨same, same'⟩, reaches⟩ := System.reaches_of_run id _ rest
    (fun served => done fun _ => studio.leave served) viewer studio run
  obtain rfl : result = (.ok reply, .atRest) := same
  obtain rfl : served.2 = d' := congrArg Prod.snd same'
  have prepared' : Prepared chip' (studio.leave served) := ⟨poised, sound⟩
  obtain ⟨_, _, _, p', holds, later⟩ := next reply prepared'
  exact ⟨_, _, _, p', holds,
    .head (.processor (.sub _ (.call Service.forever trivial))) (reaches.trans later)⟩

/-- A pointer event is delivered. -/
theorem deliver (event : Option PointerEvent) {loop : FrameLoop (List (Option PointerSample))}
    (client : loop.client = .atRest)
    {rest : Except MainError Unit × FrameLoop (List (Option PointerSample)) →
      Program (GateArray → Viewer)} (next : Leads viewer R (rest (.ok (), loop))) :
    Leads viewer R ((loop.deliver event).bind rest) := by
  obtain ⟨_, tracker, source, screen, frames⟩ := loop
  obtain rfl : _ = Client.atRest := client
  cases event with
  | none => exact next
  | some event =>
    show Leads viewer R
      (((Client.request event.toCommand (fun _ => ()) Client.atRest).bind _).bind rest)
    rw [RemoteCall.request_eq, Program.bind_assoc, Program.bind_assoc]
    refine call (by rintro ⟨⟩) fun reply => ?_
    rcases Client.check_eq event.toCommand reply with eq | eq
    · dsimp only [Program.bind]
      rw [eq]
      exact next
    · dsimp only [Program.bind]
      rw [eq]
      exact next

/-- A frame is painted, and what is left of the round then takes no waiting. -/
theorem display (pointer : Option PointerEvent) {loop : FrameLoop (List (Option PointerSample))}
    (client : loop.client = .atRest)
    {rest : Except MainError FrameReport × FrameLoop (List (Option PointerSample)) →
      Program (GateArray → Viewer)} :
    Leads viewer (fun p => ∃ shows : Program _, shows.Straight ∧ p = shows.bind rest)
      ((loop.display pointer).bind rest) := by
  obtain ⟨show', same, straight⟩ := display_eq pointer loop
  rw [same, client]
  show Leads viewer _ ((((Client.request frameCommand
    (fun words => RenderReply.mk words[0] words[1]) Client.atRest).bind _).bind show').bind rest)
  rw [RemoteCall.request_eq, Program.bind_assoc, Program.bind_assoc, Program.bind_assoc]
  exact call (by rintro ⟨⟩) fun reply => here ⟨_, straight _, rfl⟩

end Leads

/-- On a chip that exchanges the banks by itself, a frame loop completes its first round in some
interleaving. -/
theorem reaches_round (booted : Dispatcher.Booted start painter launcher chip d)
    (undisturbed : Undisturbed start) (automatic : start.automatic = true)
    (samples : List (Option PointerSample)) :
    ∃ system viewer, ReflTransGen (System.Turn Viewer.role Studio.role) (initial chip samples d)
      system ∧ system.main = .free viewer ∧ viewer.rounds.length = 1 := by
  have prepared : Prepared chip (.initial d) := by
    obtain ⟨rfl, desktop, -, sound, rfl⟩ := booted.known
    obtain ⟨results, workspace⟩ := Dispatcher.workspace_bootedChip start
    have calm : Calm (Dispatcher.bootedChip start).workspace := by
      rw [workspace]
      exact ⟨automatic, undisturbed.vacant⟩
    exact ⟨⟨Dispatcher.quiet_bootedChip booted.quiet, calm, rfl⟩, sound⟩
  let loop := FrameLoop.start .atRest samples
  have read : loop.readPointer = _ := readPointer_eq (k := 0) rfl rfl
  have round : Leads (.initial samples)
      (fun p => ∃ shows : Program _, shows.Straight ∧ p = shows.bind (done ∘ Viewer.first))
      (Viewer.role.run () (.initial samples)) := by
    show Leads _ _ (((ofChecked loop.readPointer).bind _).bind (done ∘ Viewer.first))
    rw [read]
    show Leads _ _ (((FrameLoop.deliver _ _).bind _).bind (done ∘ Viewer.first))
    rw [Program.bind_assoc]
    exact Leads.deliver _ rfl (Leads.display _ rfl)
  obtain ⟨chip', before, s, p, ⟨shows, straight, rfl⟩, reaches⟩ := round prepared
  have begun : ReflTransGen (System.Turn Viewer.role Studio.role) (initial chip samples d)
      ⟨chip', .resume before (.initial samples) (shows.bind (done ∘ Viewer.first)), s⟩ :=
    .head (.processor (.main _ (.call () trivial))) reaches
  obtain ⟨system, value, _, ends, complete⟩ :=
    System.reaches_end Viewer.first straight fun system later viewer rest calling => by
      obtain ⟨w, chip, inForce, -⟩ := upheld booted undisturbed samples (begun.trans later)
      rw [calling] at inForce
      exact chip ▸ inForce.runs
  exact ⟨system, _, begun.trans ends, complete, rfl⟩

/-- On a chip that exchanges the banks by itself, a frame loop without a pointer device completes
its first round in some interleaving. -/
theorem reaches_first_round (booted : Dispatcher.Booted start painter launcher chip d)
    (undisturbed : Undisturbed start) (automatic : start.automatic = true) :
    ∃ system, ReflTransGen (System.Turn Viewer.role Studio.role) (initial chip [] d) system ∧
      system.main.state.rounds.length = 1 := by
  obtain ⟨system, viewer, run, free, complete⟩ := reaches_round booted undisturbed automatic []
  refine ⟨system, run, ?_⟩
  rw [free]
  exact complete

/-! ## From end to end -/

/-- Whatever the order in which the two processors and the chip take their steps, with a dispatcher
that serves forever or within any budgets:
every complete round of the frame loop has returned a report and has shown, in one call of the sink,
the frame that was painted for it; the report tells how many rectangles were painted; consecutive
rounds show alternating banks; the processors are never inside of the same bank; and nothing ever
stops them. -/
theorem frames_end_to_end (booted : Dispatcher.Booted start painter launcher chip d)
    (undisturbed : Undisturbed start) (samples : List (Option PointerSample))
    {system : System Viewer Studio}
    (run : ReflTransGen (System.Turn Viewer.role Studio.role) (initial chip samples d) system) :
    (∀ (k : Nat) (h : k < system.main.state.rounds.length), ∃ paint report,
      system.sub.state.paints[k]? = some paint ∧
      Presents start.mode.select k (screenAfter system.main.state.rounds k)
        system.main.state.rounds[k] paint report ∧
      system.main.state.rounds[k].screen.frame = paint.frame ∧
      system.main.state.rounds[k].screen.presented = UInt32.ofNat (k + 1)) ∧
    (∀ (k : Nat) (h : k + 1 < system.main.state.rounds.length) (report report' : FrameReport),
      system.main.state.rounds[k].outcome = .ok report →
      system.main.state.rounds[k + 1].outcome = .ok report' →
      report'.bank = report.bank.other) ∧
    (∀ bank, system.main.inside? = some bank → system.sub.inside? ≠ some bank) ∧
    (∀ viewer rest, system.main = .calling viewer rest →
      ∃ next, rest.step .main system.chip = .ok next) ∧
    ∀ studio rest, system.sub = .calling studio rest →
      ∃ next, rest.step .sub system.chip = .ok next := by
  obtain ⟨w, chip, inForceM, inForceS⟩ := upheld booted undisturbed samples run
  have watching := inForceM.within Viewer.upholds
  have serving := inForceS.within Studio.upholds
  refine ⟨fun k h => ?_, fun k next report report' => watching.history.alternate next,
    System.never_inside_both Viewer.bracketed Studio.bracketed ?_ run, ?_, ?_⟩
  · obtain ⟨paint, report, known, presents⟩ := watching.history k h
    -- a round is complete only after the call that painted its frame
    have painted : k < system.sub.state.paints.length :=
      Nat.lt_of_lt_of_le h (Nat.le_trans watching.past serving.past)
    obtain ⟨later, all⟩ := serving.painted
    rw [← all, List.getElem?_append_left painted] at known
    obtain ⟨bytes, -, shown⟩ := presents.once
    refine ⟨paint, report, known, presents, presents.frame, ?_⟩
    rw [shown, present_eq, watching.history.presented (Nat.le_of_lt h)]
    exact (UInt32.ofNat_add _ 1).symm
  · exact ⟨none, none, rfl, rfl, nofun, nofun, nofun⟩
  · intro viewer rest calling
    rw [calling] at inForceM
    exact chip ▸ inForceM.runs
  · intro studio rest calling
    rw [calling] at inForceS
    exact chip ▸ inForceS.runs

/-- The first frame of a loop without a pointer device, on a chip that exchanges the banks by
itself. -/
theorem frames_end_to_end_first :
    ∃ chip d, Dispatcher.Booted (.initial true) Canvas.blank (.standIns []) chip d ∧
      ∃ system, ReflTransGen (System.Turn Viewer.role Studio.role) (initial chip [] d) system ∧
        ∃ round paint report, system.main.state.rounds = [round] ∧
          system.sub.state.paints[0]? = some paint ∧ round.outcome = .ok report ∧
          round.screen.frame = paint.frame ∧ round.screen.presented = 1 ∧
          report.bank = .one ∧ report.rects.toNat = paint.rects := by
  have quiet : Quiet (.initial true) := by
    intro side
    cases side <;> rfl
  have undisturbed : Undisturbed (.initial true) := ⟨rfl, fun bank => by cases bank <;> rfl⟩
  obtain ⟨chip, d, booted⟩ := Dispatcher.exists_booted quiet Canvas.blank (.standIns [])
  obtain ⟨system, run, complete⟩ := reaches_first_round booted undisturbed rfl
  obtain ⟨shown, -⟩ := frames_end_to_end booted undisturbed [] run
  obtain ⟨round, rounds⟩ := List.length_eq_one_iff.mp complete
  obtain ⟨paint, report, painted, presents, frame, presented⟩ := shown 0 (by omega)
  simp only [rounds, List.getElem_singleton] at presents frame presented
  exact ⟨chip, d, booted, system, run, round, paint, report, rounds, painted, presents.completed,
    frame, presented, presents.bank, presents.rects⟩

end Handoff

end TwinDesk
