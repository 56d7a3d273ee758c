import TwinDesk.Machine.Bus
import TwinDesk.Paint.Recording
import TwinDesk.Proofs.Link.Interleaving
import TwinDesk.Proofs.Link.Runs
import TwinDesk.Proofs.Sub.Requests

/-!
# A release that comes late

A bounded call may answer its command and run out of polls before the Main processor clears its
flag. The responder is then left in its cycle, and a mark of the dispatcher says so. A bounded call
minds the mark, and completes the release first. An unbounded one does not, and waits for a command
with a responder that looks for none.

* `Dispatcher.Used.settled` — whatever calls were made, the mark and the responder agree.
* `Dispatcher.releasesFirst` — the next bounded call completes the release.
* `Dispatcher.serve_hangs`, `Dispatcher.serve_deadlocks` — the next unbounded one does nothing, for
  ever, and a Main processor that waits for the flag to be `IDLE` waits for ever too.
* `Dispatcher.after_timeout` — what a bounded call that times out leaves.
-/

namespace TwinDesk

open Program

variable {W : Type} {exec : (a : Access) → W → Except Halt a.Answer × W} {limit : Nat}
  {world world' : W}

/-! ## How the responder's calls end -/

namespace Responder

variable {status : Status} {raw : UInt8} {responder : Responder}

/-- At rest, an acknowledgement finds a command or fails. -/
theorem ack_returns : (ack .atRest).Returns fun acked =>
    acked = (.error .protocolViolation, .atRest) ∨ ∃ raw, acked = (.ok (), ⟨.acked raw⟩) := by
  refine .after ?_
  rintro (_ | raw)
  · exact .inl rfl
  · exact .after fun _ => .inr ⟨raw, rfl⟩

/-- A look for the release is in vain, or leads to rest. -/
theorem pollRelease_returns : (pollRelease ⟨.signalled status⟩).Returns fun looked =>
    looked = (.ok false, ⟨.signalled status⟩) ∨ looked = (.ok true, .atRest) := by
  refine .after fun flag => ?_
  split
  · exact .inl rfl
  · exact .after fun _ => .inr rfl

theorem pollReleased_leaves {Ends : Except LinkError Unit → Responder → Prop}
    (ends : Ends (.ok ()) .atRest) {result : Except LinkError (Option Unit)}
    (ran : (pollReleased ⟨.signalled status⟩).run exec limit world =
      (.ok (result, responder), world')) :
    Poll.Leaves (· = ⟨.signalled status⟩) Ends result responder := by
  obtain ⟨looked, between, first, rest⟩ := parts_of_run_bind ran
  rcases Returns.of_run _ pollRelease_returns first with rfl | rfl
  · cases rest
    exact rfl
  · cases rest
    exact ends

/-- How a cycle within a budget ends: released, or with the release still to come. -/
def Finished (status : Status) : Except LinkError Unit → Responder → Prop
  | .ok (), responder => responder = .atRest
  | .error e, responder => e = .timeout ∧ responder = ⟨.signalled status⟩

theorem pollReleased_ends {budget : Budget} {result : Except LinkError Unit}
    (ran : (pollReleased.within budget ⟨.signalled status⟩).run exec limit world =
      (.ok (result, responder), world')) : Finished status result responder := by
  refine Poll.run_upTo (· = ⟨.signalled status⟩) (Finished status) ?_ ?_ rfl ran
  · rintro _ state' world world' result rfl ran
    exact pollReleased_leaves rfl ran
  · rintro _ rfl
    exact ⟨rfl, rfl⟩

theorem signal_eq (terminal : status.isTerminal = true) :
    signal status ⟨.acked raw⟩ =
      .access (.writeByte Side.sub.flag status.code) fun _ =>
        .done (.ok (), ⟨.signalled status⟩) := by
  rw [signal, terminal]
  rfl

theorem finishWithin_ends {budget : Budget} {result : Except LinkError Unit}
    (terminal : status.isTerminal = true)
    (ran : (finishWithin budget status ⟨.acked raw⟩).run exec limit world =
      (.ok (result, responder), world')) : Finished status result responder := by
  rw [finishWithin, signal_eq terminal] at ran
  obtain ⟨⟨⟩, between, -, rest⟩ := answered_of_run ran
  exact pollReleased_ends rest

/-- How a cycle without a budget ends, if it does. -/
def Released (_ : Status) (result : Except LinkError Unit) (responder : Responder) : Prop :=
  result = .ok () ∧ responder = .atRest

theorem finish_ends {result : Except LinkError Unit} (terminal : status.isTerminal = true)
    (ran : (finish status ⟨.acked raw⟩).run exec limit world =
      (.ok (result, responder), world')) : Released status result responder := by
  rw [finish, signal_eq terminal] at ran
  obtain ⟨⟨⟩, between, -, rest⟩ := answered_of_run ran
  refine Poll.run_forever (· = ⟨.signalled status⟩) (Released status) ?_ rfl rest
  rintro _ state' world world' result rfl ran
  exact pollReleased_leaves ⟨rfl, rfl⟩ ran

end Responder

/-- A Main processor that waits for the flag of the Sub processor to be `IDLE` looks at it, and goes
on waiting. -/
theorem Initiator.waitDone_goesRound {chip : GateArray} (status : Status)
    (busy : chip.flag .sub ≠ Status.idle.code) : ∃ next : UInt8 → _,
      (waitDone ⟨.releasing status⟩).step .main chip =
        .ok (.access (.readByte Side.sub.flag) next, chip) ∧
      next (chip.flag .sub) = waitDone ⟨.releasing status⟩ := by
  refine ⟨_, rfl, ?_⟩
  show Program.bind (Program.bind (if chip.flag .sub = Status.idle.code then _ else _) _) _ = _
  rw [if_neg busy]
  rfl

namespace Dispatcher

variable {R : Type}

/-! ## Between calls -/

/-- Where a dispatcher stands between its calls. -/
inductive Settled (d : Dispatcher R) : Prop where
  /-- It waits for a command. -/
  | rest (responder : d.responder = .atRest) (unreleased : d.unreleased = false)
  /-- It has answered a command, and its release is still to come. -/
  | late {status : Status} (terminal : status.isTerminal = true)
    (responder : d.responder = ⟨.signalled status⟩) (unreleased : d.unreleased = true)

theorem Settled.of_sameLink {d d' : Dispatcher R} (settled : d.Settled) (same : d.SameLink d') :
    d'.Settled := by
  cases settled with
  | rest responder unreleased =>
    exact .rest (same.responder.trans responder) (same.unreleased.trans unreleased)
  | late terminal responder unreleased =>
    exact .late terminal (same.responder.trans responder) (same.unreleased.trans unreleased)

/-- Without a budget, a dispatcher whose release is late goes round without a bus cycle. -/
theorem serve_of_signalled [Painter R] {d : Dispatcher R} {status : Status}
    (late : d.responder = ⟨.signalled status⟩) :
    ∃ next : UInt8 → _, d.serve = .spin (fun _ : Unit => .done (.inl ())) () next := by
  have look : d.responder.pollCommand = .done none := by
    rw [late]
    rfl
  rw [serve, Responder.waitCommand, look]
  exact ⟨_, rfl⟩

/-- The next unbounded call makes no bus cycle, and never returns. -/
def Hangs [Painter R] (d : Dispatcher R) : Prop :=
  ∀ {W : Type} (exec : (a : Access) → W → Except Halt a.Answer × W) (limit : Nat) (world : W),
    d.serve.run exec limit world = (.error .stuck, world)

theorem serve_hangs [Painter R] {d : Dispatcher R} {status : Status}
    (late : d.responder = ⟨.signalled status⟩) : d.Hangs := by
  intro W exec limit world
  obtain ⟨next, eq⟩ := serve_of_signalled late
  have goesRound (count : Nat) : repeatUntil
      (fun (_ : Unit) world => (done (.inl ()) : Program (Unit ⊕ UInt8)).run exec limit world)
      count () world = (.error .stuck, world) := by
    induction count with
    | zero => rfl
    | succ count ih => exact ih
  rw [eq, run, goesRound]

section

variable [Painter R] {d d' : Dispatcher R} {raw : UInt8} {budget : Budget}

/-- A command is refused, or it is carried out and answered, and its cycle ends as `finish` does. -/
theorem answer_ends {finish : Status → Responder → Program (Except LinkError Unit × Responder)}
    (Ends : Status → Except LinkError Unit → Responder → Prop)
    (finishes : ∀ {status : Status} {raw : UInt8} {responder : Responder} {world world' : W}
      {result : Except LinkError Unit}, status.isTerminal = true →
      (finish status ⟨.acked raw⟩).run exec limit world = (.ok (result, responder), world') →
        Ends status result responder)
    (rest : d.responder = .atRest) {result : Except LinkError Status}
    (ran : (d.answer raw finish).run exec limit world = (.ok (result, d'), world')) :
    (result = .error .protocolViolation ∧ d' = d) ∨
      ∃ status finished, status.isTerminal = true ∧ d'.unreleased = d.unreleased ∧
        result = finished.map (fun _ => status) ∧ Ends status finished d'.responder := by
  rw [answer, rest] at ran
  obtain ⟨acked, between, first, ran⟩ := parts_of_run_bind ran
  rcases Returns.of_run _ Responder.ack_returns first with rfl | ⟨opcode, rfl⟩
  · cases ran
    exact .inl ⟨rfl, by rw [← rest]⟩
  · obtain ⟨⟨status, carried⟩, between', second, ran⟩ := parts_of_run_bind ran
    rw [execute_eq] at second
    obtain ⟨⟨command, status', carried'⟩, between'', second, third⟩ := parts_of_run_bind second
    cases third
    obtain ⟨terminal, same⟩ := Returns.of_run _ (carryOut_answered _ raw) second
    have acked : carried.responder = ⟨.acked opcode⟩ := same.responder
    dsimp only at ran
    rw [acked] at ran
    obtain ⟨⟨finished, responder⟩, between, last, ran⟩ := parts_of_run_bind ran
    cases ran
    exact .inr ⟨status, finished, terminal, same.unreleased, rfl, finishes terminal last⟩

theorem settled_of_serve (settled : d.Settled) {result : Except LinkError Status}
    (ran : d.serve.run exec limit world = (.ok (result, d'), world')) : d'.Settled := by
  cases settled with
  | late terminal responder =>
    rw [serve_hangs responder] at ran
    cases ran
  | rest responder unreleased =>
    obtain ⟨raw, between, -, ran⟩ := parts_of_run_bind ran
    rcases answer_ends Responder.Released Responder.finish_ends responder ran with
      ⟨-, rfl⟩ | ⟨status, finished, -, same, -, -, rest⟩
    · exact .rest responder unreleased
    · exact .rest rest (same.trans unreleased)

omit [Painter R] in
/-- A release that was late is completed now, or still to come. -/
theorem completeRelease_ends (settled : d.Settled) {result : Except LinkError Unit}
    (ran : (d.completeRelease budget).run exec limit world = (.ok (result, d'), world')) :
    d'.Settled ∧ (result = .ok () → d'.responder = .atRest ∧ d'.unreleased = false) := by
  cases settled with
  | rest responder unreleased =>
    rw [completeRelease, unreleased] at ran
    cases ran
    exact ⟨.rest responder unreleased, fun _ => ⟨responder, unreleased⟩⟩
  | @late status terminal responder unreleased =>
    rw [completeRelease, unreleased, responder] at ran
    obtain ⟨⟨finished, responder'⟩, between, polled, ran⟩ := parts_of_run_bind ran
    have ends := Responder.pollReleased_ends polled
    rcases finished with e | ⟨⟨⟩⟩
    · cases ran
      exact ⟨.late terminal ends.2 rfl, fun ok => by cases ok⟩
    · cases ran
      exact ⟨.rest ends rfl, fun _ => ⟨ends, rfl⟩⟩

theorem settled_of_serveWithin (settled : d.Settled) {result : Except LinkError Status}
    (ran : (d.serveWithin budget).run exec limit world = (.ok (result, d'), world')) :
    d'.Settled := by
  obtain ⟨⟨released, d₁⟩, between, first, afterwards⟩ := parts_of_run_bind ran
  clear ran
  obtain ⟨settled₁, rest⟩ := completeRelease_ends settled first
  rcases released with e | ⟨⟨⟩⟩
  · cases afterwards
    exact settled₁
  obtain ⟨responder, unreleased⟩ := rest rfl
  obtain ⟨found, between', -, served⟩ := parts_of_run_bind afterwards
  clear afterwards
  rcases found with e | raw
  · cases served
    exact settled₁
  obtain ⟨⟨answered, d₂⟩, between'', second, marked⟩ := parts_of_run_bind served
  clear served
  rcases answer_ends Responder.Finished Responder.finishWithin_ends responder second with
    ⟨rfl, rfl⟩ | ⟨status, finished, terminal, same, rfl, ends⟩
  · cases marked
    exact settled₁
  · rcases finished with e | ⟨⟨⟩⟩
    · obtain ⟨rfl, late⟩ := ends
      cases marked
      exact .late terminal late rfl
    · cases marked
      exact .rest ends (same.trans unreleased)

omit [Painter R] in
theorem settled_of_boot (settled : d.Settled) {result : Except DesktopError Unit}
    (ran : d.boot.run exec limit world = (.ok (result, d'), world')) : d'.Settled := by
  unfold boot at ran
  generalize Desktop.fresh = fresh at ran
  obtain ⟨⟨⟩, between₁, -, ran₁⟩ := parts_of_run_bind ran
  obtain ⟨⟨⟩, between₂, -, ran₂⟩ := parts_of_run_bind ran₁
  obtain ⟨⟨made, desktop⟩, between₃, -, ran₃⟩ := parts_of_run_bind ran₂
  obtain ⟨⟨⟩, between₄, -, ran₄⟩ := parts_of_run_bind ran₃
  obtain ⟨⟨⟩, between₅, -, ran₅⟩ := parts_of_run_bind ran₄
  clear ran ran₁ ran₂ ran₃ ran₄
  cases ran₅
  exact settled.of_sameLink ⟨rfl, rfl⟩

/-- A dispatcher after any use, in any surroundings: boots, changes to its desktop from outside, and
calls with and without budgets, one after the other. -/
inductive Used : Dispatcher R → Prop where
  | initial (painter : R) (launcher : Launcher) : Used (initial painter launcher)
  | edit {d : Dispatcher R} (used : Used d) (desktop : Desktop) : Used { d with desktop }
  | boot {d d' : Dispatcher R} {W : Type} {exec : (a : Access) → W → Except Halt a.Answer × W}
    {limit : Nat} {world world' : W} {result : Except DesktopError Unit} (used : Used d)
    (ran : d.boot.run exec limit world = (.ok (result, d'), world')) : Used d'
  | serve {d d' : Dispatcher R} {W : Type} {exec : (a : Access) → W → Except Halt a.Answer × W}
    {limit : Nat} {world world' : W} {result : Except LinkError Status} (used : Used d)
    (ran : d.serve.run exec limit world = (.ok (result, d'), world')) : Used d'
  | serveWithin {d d' : Dispatcher R} {W : Type}
    {exec : (a : Access) → W → Except Halt a.Answer × W} {limit : Nat} {world world' : W}
    {result : Except LinkError Status} (budget : Budget) (used : Used d)
    (ran : (d.serveWithin budget).run exec limit world = (.ok (result, d'), world')) : Used d'

theorem Used.settled (used : d.Used) : d.Settled := by
  induction used with
  | initial => exact .rest rfl rfl
  | edit used desktop ih => exact ih.of_sameLink ⟨rfl, rfl⟩
  | boot used ran ih => exact settled_of_boot ih ran
  | serve used ran ih => exact settled_of_serve ih ran
  | serveWithin budget used ran ih => exact settled_of_serveWithin ih ran

/-! ## The call after a timeout -/

/-- The next bounded call waits for a command. -/
def AwaitsCommand (budget : Budget) (d : Dispatcher R) : Prop :=
  ∃ found, d.serveWithin budget = (Responder.waitCommandWithin budget .atRest).bind found

/-- The dispatcher once its release was seen. -/
def released (d : Dispatcher R) : Dispatcher R :=
  { d with responder := .atRest, unreleased := false }

/-- The next bounded call looks at the flag of the Main processor. If that is `NONE`, it writes
`IDLE`, and goes on as a dispatcher at rest, which waits for a command. -/
def ReleasesFirst (budget : Budget) (d : Dispatcher R) : Prop :=
  ∃ looked, d.serveWithin budget = .access (.readByte Side.main.flag) looked ∧
    looked Opcode.none.code = .access (.writeByte Side.sub.flag Status.idle.code)
      (fun _ => d.released.serveWithin budget) ∧
    d.released.AwaitsCommand budget

/-- A Main processor that waits for the Sub processor to come to rest, as it does after it has
cleared its flag, and an unbounded call of the dispatcher: whoever moves, both go on for ever, and
nothing changes on the chip. -/
def Deadlocks (d : Dispatcher R) : Prop :=
  ∀ (chip : GateArray) (status : Status) (schedule : Nat → Side) (n : Nat),
    chip.flag .sub ≠ Status.idle.code → ∃ main, main.value? = none ∧
      Duo.run schedule ⟨chip, Initiator.waitDone ⟨.releasing status⟩, d.serve⟩ n =
        .ok ⟨chip, main, d.serve⟩

theorem awaitsCommand (rest : d.responder = .atRest) (unreleased : d.unreleased = false) :
    d.AwaitsCommand budget := by
  obtain ⟨responder, desktop, painter, frames, cd, launcher, _⟩ := d
  subst rest unreleased
  exact ⟨_, rfl⟩

theorem releasesFirst {status : Status} (late : d.responder = ⟨.signalled status⟩)
    (unreleased : d.unreleased = true) : d.ReleasesFirst budget := by
  obtain ⟨_ | polls, positive⟩ := budget
  · exact absurd positive (Nat.lt_irrefl 0)
  obtain ⟨responder, desktop, painter, frames, cd, launcher, _⟩ := d
  subst late unreleased
  exact ⟨_, rfl, rfl, awaitsCommand rfl rfl⟩

theorem serve_deadlocks {status : Status} (late : d.responder = ⟨.signalled status⟩) :
    d.Deadlocks := by
  intro chip answer schedule n busy
  obtain ⟨next, eq⟩ := serve_of_signalled late
  have sub : d.serve.step .sub chip = .ok (d.serve, chip) := by
    rw [eq]
    rfl
  obtain ⟨looked, begins, again⟩ := Initiator.waitDone_goesRound answer busy
  have looks : (access (.readByte Side.sub.flag) looked).step .main chip =
      .ok (Initiator.waitDone ⟨.releasing answer⟩, chip) := by
    rw [step, chip.perform_readFlag .main .sub, ← again]
    rfl
  -- the Main processor is at the head of its loop, or about to look at the flag
  have goesRound : ∀ (n : Nat) (schedule : Nat → Side) (main : Program _),
      main = Initiator.waitDone ⟨.releasing answer⟩ ∨
          main = .access (.readByte Side.sub.flag) looked →
        ∃ main', main'.value? = none ∧
          Duo.run schedule ⟨chip, main, d.serve⟩ n = .ok ⟨chip, main', d.serve⟩ := by
    intro n
    induction n with
    | zero =>
      rintro schedule main (rfl | rfl)
      · exact ⟨_, rfl, rfl⟩
      · exact ⟨_, rfl, rfl⟩
    | succ n ih =>
      intro schedule main position
      rw [Duo.run]
      cases schedule 0 with
      | sub =>
        rw [Duo.step, sub]
        exact ih _ main position
      | main =>
        rcases position with rfl | rfl
        · rw [Duo.step, begins]
          exact ih _ _ (.inr rfl)
        · rw [Duo.step, looks]
          exact ih _ _ (.inl rfl)
  exact goesRound n schedule _ (.inl rfl)

/-- What a bounded call that times out leaves. Either there was no command, and the next call waits
for one. Or the release of a command is late: the next bounded call completes it first, but an
unbounded one never returns, even if the Main processor has cleared its flag and waits for `IDLE`.
-/
theorem after_timeout (used : d.Used)
    (timedOut : (d.serveWithin budget).run exec limit world =
      (.ok (.error .timeout, d'), world')) :
    (d'.responder = .atRest ∧ ∀ budget, d'.AwaitsCommand budget) ∨
    ((∃ status : Status, d'.responder = ⟨.signalled status⟩) ∧ (∀ budget, d'.ReleasesFirst budget) ∧
      d'.Hangs ∧ d'.Deadlocks) := by
  cases settled_of_serveWithin used.settled timedOut with
  | rest responder unreleased =>
    exact .inl ⟨responder, fun budget => awaitsCommand responder unreleased⟩
  | late terminal responder unreleased =>
    exact .inr ⟨⟨_, responder⟩, fun budget => releasesFirst responder unreleased,
      serve_hangs responder, serve_deadlocks responder⟩

end

/-- A command is posted and answered within one poll, and its release is late, since the Main
processor does not move meanwhile. -/
theorem after_timeout_cdPlay : ∃ (posted served : Bus) (d' : Dispatcher Recording),
    (Bus.initial true).run .main (Initiator.post (.cdPlay 3) .atRest) =
      (.ok (.ok (), ⟨.posted .cdPlay⟩), posted) ∧
    posted.run .sub ((initial Recording.empty (.standIns [])).serveWithin (.ofPolls 1)) =
      (.ok (.error .timeout, d'), served) ∧
    (∀ budget, d'.ReleasesFirst budget) ∧ d'.Hangs ∧ d'.Deadlocks := by
  have timedOut : ∃ (posted served : Bus) (d' : Dispatcher Recording),
      (Bus.initial true).run .main (Initiator.post (.cdPlay 3) .atRest) =
        (.ok (.ok (), ⟨.posted .cdPlay⟩), posted) ∧
      posted.run .sub ((initial Recording.empty (.standIns [])).serveWithin (.ofPolls 1)) =
        (.ok (.error .timeout, d'), served) ∧ d'.responder = ⟨.signalled .done⟩ :=
    ⟨_, _, _, rfl, rfl, rfl⟩
  obtain ⟨posted, served, d', post, timedOut, late⟩ := timedOut
  rcases after_timeout (.initial _ _) timedOut with ⟨rest, -⟩ | ⟨-, next⟩
  · cases late.symm.trans rest
  · exact ⟨posted, served, d', post, timedOut, next⟩

/-- The Main processor clears its flag after such a timeout, and waits for `IDLE`. An unbounded call
of the dispatcher goes round for ever then, and leaves the flag at `DONE`. -/
theorem late_release_hangs_serve : ∃ (posted served cleared : Bus) (d : Dispatcher Recording),
    (Bus.initial true).run .main (Initiator.post (.cdPlay 3) .atRest) =
      (.ok (.ok (), ⟨.posted .cdPlay⟩), posted) ∧
    posted.run .sub ((initial Recording.empty (.standIns [])).serveWithin (.ofPolls 1)) =
      (.ok (.error .timeout, d), served) ∧
    served.run .main (Initiator.pollCompletion ⟨.posted .cdPlay⟩) =
      (.ok (.ok none, ⟨.releasing .done⟩), cleared) ∧
    cleared.chip.flag .main = Opcode.none.code ∧ cleared.chip.flag .sub = Status.done.code ∧
    ∀ limit, d.serve.run (Bus.perform .sub) limit cleared = (.error .stuck, cleared) := by
  refine ⟨_, _, _, _, rfl, rfl, rfl, rfl, rfl, fun limit => ?_⟩
  exact serve_hangs rfl _ limit _

end Dispatcher

end TwinDesk
