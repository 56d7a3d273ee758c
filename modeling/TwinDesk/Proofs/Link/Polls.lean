import TwinDesk.Link.BankExchange
import TwinDesk.Link.Handshake

/-!
# Bounded and unbounded waits

A wait polls again and again. With a budget it gives up at some point, and until then nobody can
tell the difference: whatever the bus answers, the cycles are the same and so is the state that is
carried from one poll to the next. A wait that has given up can be taken up again, and the two
together are the very same program as one wait with the sum of both budgets.

* `Program.Reaches` — where a program gets to and by which bus cycles, if the bus answers so.
* `Program.Curtails` — one program is the other one, cut off after some rounds.
* `bounded_waits_refine_unbounded_waits` — for every call of the link that has a bounded twin.
-/

namespace TwinDesk

/-- What the bus answers to a cycle, in view of all the cycles that were made before it. -/
abbrev Answers : Type :=
  List Access → (a : Access) → a.Answer

namespace Program

variable {α β γ ρ σ : Type} {answers : Answers} {past past' between : List Access}
  {rounds more polls : Nat}

/-! ## Where a program gets to -/

/-- After the bus cycles `past` a processor that stands at `p` gets to stand at `p'`, after the
cycles `past'`; on the way its loops go round `rounds` times. -/
inductive Reaches (answers : Answers) :
    Nat → Program α → List Access → Program α → List Access → Prop where
  | refl {p : Program α} {past : List Access} : Reaches answers 0 p past p past
  | access {rounds : Nat} {a : Access} {next : a.Answer → Program α} {past past' : List Access}
      {p' : Program α}
      (rest : Reaches answers rounds (next (answers past a)) (past ++ [a]) p' past') :
      Reaches answers rounds (.access a next) past p' past'
  | round {σ β : Type} {rounds : Nat} {body : σ → Program (σ ⊕ β)} {start : σ}
      {next : β → Program α} {past past' : List Access} {p' : Program α}
      (rest : Reaches answers rounds
        ((body start).bind (Sum.elim (fun state => .spin body state next) next)) past p' past') :
      Reaches answers (rounds + 1) (.spin body start next) past p' past'

namespace Reaches

variable {p q r : Program α}

theorem trans (first : Reaches answers rounds p past q between)
    (second : Reaches answers more q between r past') :
    Reaches answers (rounds + more) p past r past' := by
  induction first with
  | refl => rwa [Nat.zero_add]
  | access _ ih => exact .access (ih second)
  | round _ ih =>
    rw [Nat.succ_add]
    exact .round (ih second)

/-- A composition goes where its first part goes. -/
theorem bind (reaches : Reaches answers rounds p past q past') (f : α → Program β) :
    Reaches answers rounds (p.bind f) past (q.bind f) past' := by
  induction reaches with
  | refl => exact .refl
  | access _ ih => exact .access ih
  | @round σ ρ rounds body start next past past' q _ ih =>
    refine .round ?_
    rw [bind_assoc] at ih
    have unfolded : (Sum.elim (fun state => spin body state fun result => (next result).bind f)
        fun result => (next result).bind f) =
        fun result => (Sum.elim (fun state => spin body state next) next result).bind f := by
      funext result
      cases result <;> rfl
    rw [unfolded]
    exact ih

/-- There is one way only: a processor that ends passes every point that it can get to. -/
theorem rest {value : α} (ends : Reaches answers rounds p past (done value) past')
    (reaches : Reaches answers more p past q between) :
    ∃ left, rounds = more + left ∧ Reaches answers left q between (done value) past' := by
  induction reaches generalizing rounds with
  | refl => exact ⟨rounds, (Nat.zero_add _).symm, ends⟩
  | access _ ih =>
    cases ends with
    | access rest => exact ih rest
  | round _ ih =>
    cases ends with
    | round rest =>
      obtain ⟨left, rfl, reaches⟩ := ih rest
      exact ⟨left, (Nat.succ_add _ _).symm, reaches⟩

end Reaches

/-! ## Programs that end at once -/

/-- A program without loops and faults, which ends in such a value. -/
def Prompt : {α : Type} → (α → Prop) → Program α → Prop
  | _, φ, done value => φ value
  | _, _, fault _ => False
  | _, φ, access _ next => ∀ answer, (next answer).Prompt φ
  | _, _, spin .. => False

namespace Prompt

variable {φ : α → Prop} {ψ : β → Prop} {p : Program α} {f g : α → Program β}

theorem cycle (a : Access) : (Program.cycle a).Prompt fun _ => True :=
  fun _ => trivial

theorem bind (prompt : p.Prompt φ) (rest : ∀ value, φ value → (f value).Prompt ψ) :
    (p.bind f).Prompt ψ := by
  induction p with
  | done value => exact rest value prompt
  | fault | spin => exact prompt.elim
  | access a next ih => exact fun answer => ih answer (prompt answer) rest

theorem ends (prompt : p.Prompt φ) (answers : Answers) (past : List Access) :
    ∃ value past', φ value ∧ Reaches answers 0 p past (done value) past' := by
  induction p generalizing past with
  | done value => exact ⟨value, past, prompt, .refl⟩
  | fault | spin => exact prompt.elim
  | access a next ih =>
    obtain ⟨value, past', holds, reaches⟩ := ih _ (prompt (answers past a)) (past ++ [a])
    exact ⟨value, past', holds, .access reaches⟩

/-- What follows matters for the values that come out. -/
theorem bind_congr (prompt : p.Prompt φ) (same : ∀ value, φ value → f value = g value) :
    p.bind f = p.bind g := by
  induction p with
  | done value => exact same value prompt
  | fault | spin => exact prompt.elim
  | access a next ih =>
    show access a _ = access a _
    congr 1
    funext answer
    exact ih answer (prompt answer) same

end Prompt

/-! ## Cut off after some rounds -/

/-- As long as `unbounded` ends within `polls` rounds, `bounded` ends in the same way; otherwise it
gives up after them, in the state in which the other one goes on. Both make the same bus cycles, and
`bounded` does not go round in loops. -/
structure Curtails (polls : Nat) (bounded : Program β) (unbounded : Program α) (embed : α → β)
    (timeout : σ → β) (rest : σ → Program α) : Prop where
  returns {answers : Answers} {past past' : List Access} {rounds : Nat} {result : α}
    (inTime : rounds ≤ polls) (ends : Reaches answers rounds unbounded past (done result) past') :
    Reaches answers 0 bounded past (done (embed result)) past'
  expires (answers : Answers) (past : List Access)
    (late : ∀ rounds ≤ polls, ∀ result past',
      ¬ Reaches answers rounds unbounded past (done result) past') :
    ∃ state past', Reaches answers 0 bounded past (done (timeout state)) past' ∧
      Reaches answers polls unbounded past (rest state) past'

/-- Polls until the verdict on what a poll gave is to end. -/
def pollUntil (poll : σ → Program ρ) (verdict : ρ → σ ⊕ α) : σ → Program α :=
  loop fun state => (poll state).bind fun given => done (verdict given)

section

variable {poll : σ → Program ρ} {verdict : ρ → σ ⊕ α} {φ : ρ → Prop} {embed : α → β}
  {timeout : σ → β} {rest : σ → Program α} {state : σ}

/-- One poll is one round. -/
theorem reaches_poll (verdict : ρ → σ ⊕ α) {given : ρ}
    (polled : Reaches answers 0 (poll state) past (done given) past') :
    Reaches answers 1 (pollUntil poll verdict state) past
      ((verdict given).elim (pollUntil poll verdict) done) past' := by
  refine .round ?_
  rw [bind_assoc]
  exact polled.bind _

/-- The first polls of the loop are those of a bounded wait, which ends with the loop or gives up
where the loop goes on. -/
theorem first_polls (prompt : ∀ state, (poll state).Prompt φ) {bounded : Nat → σ → Program β}
    (spent : ∀ state, bounded 0 state = done (timeout state))
    (next : ∀ polls state, bounded (polls + 1) state =
      (poll state).bind fun given => (verdict given).elim (bounded polls) (done ∘ embed))
    (answers : Answers) (past : List Access) (polls : Nat) (state : σ) :
    (∃ rounds ≤ polls, ∃ result past',
      Reaches answers rounds (pollUntil poll verdict state) past (done result) past' ∧
      Reaches answers 0 (bounded polls state) past (done (embed result)) past') ∨
    ∃ state' past',
      Reaches answers polls (pollUntil poll verdict state) past (pollUntil poll verdict state')
        past' ∧
      Reaches answers 0 (bounded polls state) past (done (timeout state')) past' := by
  induction polls generalizing state past with
  | zero =>
    right
    rw [spent]
    exact ⟨state, past, .refl, .refl⟩
  | succ polls ih =>
    obtain ⟨given, between, -, polled⟩ := (prompt state).ends answers past
    have round := reaches_poll verdict polled
    have bounded_round : Reaches answers 0 (bounded (polls + 1) state) past
        ((verdict given).elim (bounded polls) (done ∘ embed)) between := by
      rw [next]
      exact polled.bind _
    cases decided : verdict given with
    | inr result =>
      rw [decided] at round bounded_round
      exact .inl ⟨1, by omega, result, between, round, bounded_round⟩
    | inl state' =>
      rw [decided] at round bounded_round
      rcases ih between state' with
        ⟨rounds, le, result, past', ends, same⟩ | ⟨last, past', on, same⟩
      · exact .inl ⟨1 + rounds, by omega, result, past', round.trans ends, bounded_round.trans same⟩
      · refine .inr ⟨last, past', ?_, bounded_round.trans same⟩
        rw [Nat.add_comm]
        exact round.trans on

theorem pollUntil_unfinished {state' : σ} {result : α} (le : rounds ≤ polls)
    (on : Reaches answers polls (pollUntil poll verdict state) past (pollUntil poll verdict state')
      between) :
    ¬ Reaches answers rounds (pollUntil poll verdict state) past (done result) past' := by
  intro ends
  obtain ⟨left, rfl, rest⟩ := ends.rest on
  cases rest with
  | round => omega

/-- A bounded wait curtails the loop with the same polls. -/
theorem curtails_pollUntil (prompt : ∀ state, (poll state).Prompt φ)
    (bounded : Nat → σ → Program β) (spent : ∀ state, bounded 0 state = done (timeout state))
    (next : ∀ polls state, bounded (polls + 1) state =
      (poll state).bind fun given => (verdict given).elim (bounded polls) (done ∘ embed))
    (polls : Nat) (state : σ) :
    Curtails polls (bounded polls state) (pollUntil poll verdict state) embed timeout
      (pollUntil poll verdict) where
  returns {answers past past' rounds result} inTime ends := by
    rcases first_polls prompt spent next answers past polls state with
      ⟨_, _, _, _, ends', same⟩ | ⟨_, _, on, -⟩
    · obtain ⟨_, -, rest⟩ := ends.rest ends'
      cases rest
      exact same
    · exact (pollUntil_unfinished inTime on ends).elim
  expires answers past late := by
    rcases first_polls prompt spent next answers past polls state with
      ⟨rounds, le, result, past', ends, -⟩ | ⟨state', past', on, same⟩
    · exact (late rounds le result past' ends).elim
    · exact ⟨state', past', same, on⟩

theorem curtails_done (polls : Nat) (embed : α → β) (value : α) :
    Curtails polls (done (embed value)) (done value) embed timeout rest where
  returns _ ends := by
    cases ends
    exact .refl
  expires _ _ late := (late 0 (Nat.zero_le _) value _ .refl).elim

/-- What comes in front of both is the same. -/
theorem Curtails.after {p : Program γ} {ψ : γ → Prop} (prompt : p.Prompt ψ)
    {bounded : γ → Program β} {unbounded : γ → Program α}
    (curtails : ∀ value, Curtails polls (bounded value) (unbounded value) embed timeout rest) :
    Curtails polls (p.bind bounded) (p.bind unbounded) embed timeout rest where
  returns {answers past past' rounds result} inTime ends := by
    obtain ⟨value, between, -, reaches⟩ := prompt.ends answers past
    obtain ⟨left, rfl, rest⟩ := ends.rest (reaches.bind unbounded)
    rw [Nat.zero_add] at inTime
    exact (reaches.bind bounded).trans ((curtails value).returns inTime rest)
  expires answers past late := by
    obtain ⟨value, between, -, reaches⟩ := prompt.ends answers past
    obtain ⟨state, past', same, on⟩ := (curtails value).expires answers between
      fun rounds le result past' ends => by
        apply late rounds le result past'
        rw [← Nat.zero_add rounds]
        exact (reaches.bind unbounded).trans ends
    refine ⟨state, past', (reaches.bind bounded).trans same, ?_⟩
    rw [← Nat.zero_add polls]
    exact (reaches.bind unbounded).trans on

end

/-! ## Taking a wait up again -/

/-- A call, and if it runs out of its budget another one from where it left off. -/
def orAgain (call : Program (Except LinkError β × σ))
    (again : σ → Program (Except LinkError β × σ)) : Program (Except LinkError β × σ) := do
  match ← call with
  | (.error .timeout, state) => again state
  | outcome => return outcome

/-- The same for calls that carry no state. -/
def orElseAgain (call again : Program (Except LinkError β)) : Program (Except LinkError β) := do
  match ← call with
  | .error .timeout => again
  | outcome => return outcome

end Program

open Program

/-! ## The two ways to repeat a poll -/

variable {σ β : Type} {polls : Nat}

namespace Poll

variable {poll : Poll σ β} {φ : Except LinkError (Option β) × σ → Prop}

/-- Whether a poll is to be tried again, or ends the wait. -/
def verdict : Except LinkError (Option β) × σ → σ ⊕ (Except LinkError β × σ)
  | (.ok (some value), state) => .inr (.ok value, state)
  | (.ok none, state) => .inl state
  | (.error e, state) => .inr (.error e, state)

theorem forever_eq (poll : Poll σ β) : poll.forever = pollUntil poll verdict := by
  funext state
  rw [forever, pollUntil]
  congr 1
  funext state
  show (poll state).bind _ = (poll state).bind _
  congr 1
  funext given
  obtain ⟨_ | (_ | _), _⟩ := given <;> rfl

theorem upTo_succ (poll : Poll σ β) (polls : Nat) (state : σ) :
    poll.upTo (polls + 1) state =
      (poll state).bind fun given => (verdict given).elim (poll.upTo polls) (done ∘ id) := by
  show (poll state).bind _ = (poll state).bind _
  congr 1
  funext given
  obtain ⟨_ | (_ | _), _⟩ := given <;> rfl

/-- A poll that is no timeout by itself. -/
def Prompt (poll : Poll σ β) : Prop :=
  ∀ state, (poll state).Prompt fun given => given.1 ≠ .error .timeout

theorem Prompt.curtails (prompt : poll.Prompt) (budget : Budget) (state : σ) :
    Curtails budget.polls (poll.within budget state) (poll.forever state) id (.error .timeout, ·)
      poll.forever := by
  rw [forever_eq]
  exact curtails_pollUntil prompt poll.upTo (fun _ => rfl) (upTo_succ poll) budget.polls state

theorem Prompt.upTo_add (prompt : poll.Prompt) (polls more : Nat) (state : σ) :
    (poll.upTo polls state).orAgain (poll.upTo more) = poll.upTo (polls + more) state := by
  induction polls generalizing state with
  | zero =>
    rw [Nat.zero_add]
    rfl
  | succ polls ih =>
    rw [Nat.succ_add, upTo_succ, upTo_succ]
    show ((poll state).bind _).bind _ = _
    rw [bind_assoc]
    apply (prompt state).bind_congr
    rintro ⟨e | (_ | value), state'⟩ other
    · cases e with
      | timeout => exact (other rfl).elim
      | _ => rfl
    · exact ih state'
    · rfl

end Poll

section Looking

variable {look : Program (Option β)} {φ : Option β → Prop}

/-- Whether a look is to be repeated, or has found something. -/
def found : Option β → Unit ⊕ β
  | some value => .inr value
  | none => .inl ()

theorem await_eq (look : Program (Option β)) : await look = pollUntil (fun _ => look) found () := by
  rw [await, pollUntil]
  congr 1
  funext _
  show look.bind _ = look.bind _
  congr 1
  funext given
  cases given <;> rfl

/-- The looks of a bounded wait. -/
def lookUpTo (look : Program (Option β)) (polls : Nat) : Program (Except LinkError β) :=
  ((Poll.ofLook look).upTo polls ()).bind fun (result, _) => done result

theorem lookUpTo_succ (look : Program (Option β)) (polls : Nat) :
    lookUpTo look (polls + 1) =
      look.bind fun given => (found given).elim (fun _ => lookUpTo look polls) (done ∘ .ok) := by
  rw [lookUpTo, Poll.upTo_succ, Poll.ofLook]
  show ((look.bind _).bind _).bind _ = _
  rw [bind_assoc, bind_assoc]
  congr 1
  funext given
  cases given <;> rfl

theorem curtails_await (prompt : look.Prompt φ) (budget : Budget) :
    Curtails budget.polls (budget.await look) (await look) .ok (fun () => .error .timeout)
      fun () => await look := by
  rw [await_eq]
  exact curtails_pollUntil (fun _ => prompt) (fun polls _ => lookUpTo look polls) (fun _ => rfl)
    (fun polls _ => lookUpTo_succ look polls) budget.polls ()

theorem lookUpTo_add (look : Program (Option β)) (polls more : Nat) :
    (lookUpTo look polls).orElseAgain (lookUpTo look more) = lookUpTo look (polls + more) := by
  induction polls with
  | zero =>
    rw [Nat.zero_add]
    rfl
  | succ polls ih =>
    rw [Nat.succ_add, lookUpTo_succ, lookUpTo_succ, orElseAgain]
    show (look.bind _).bind _ = _
    rw [bind_assoc]
    congr 1
    funext given
    cases given with
    | none => exact ih
    | some value => rfl

end Looking

/-! ## The polls of the link -/

theorem Side.prompt_peerFlag (side : Side) : side.peerFlag.Prompt fun _ => True :=
  Prompt.cycle (.readByte _)

theorem Side.prompt_setFlag (side : Side) (value : UInt8) :
    (side.setFlag value).Prompt fun _ => True :=
  Prompt.cycle (.writeByte _ _)

namespace Initiator

theorem prompt_writeParams (params : Params) :
    (MainRegisters.writeParams params).Prompt fun _ => True := by
  intro _ _ _ _
  trivial

theorem prompt_post (cmd : Command) (initiator : Initiator) :
    (initiator.post cmd).Prompt fun given => given.1 ≠ .error .timeout := by
  rw [post]
  split
  · rintro ⟨⟩
  · refine (Side.prompt_peerFlag _).bind fun flag _ => ?_
    split
    · rintro ⟨⟩
    · refine (prompt_writeParams _).bind fun _ _ => ?_
      refine (Side.prompt_setFlag _ _).bind fun _ _ => ?_
      rintro ⟨⟩

theorem prompt_pollPost (cmd : Command) : (pollPost cmd).Prompt := by
  intro initiator
  refine (prompt_post cmd initiator).bind ?_
  rintro ⟨e | _, next⟩ other
  · cases e with
    | peerBusy => rintro ⟨⟩
    | timeout => exact (other rfl).elim
    | swapPending | protocolViolation => rintro ⟨⟩
  · rintro ⟨⟩

theorem prompt_awaitRest (status : Status) :
    (awaitRest status).Prompt fun given => given.1 ≠ .error .timeout := by
  refine (Side.prompt_peerFlag _).bind fun flag _ => ?_
  split <;> rintro ⟨⟩

theorem prompt_pollCompletion : pollCompletion.Prompt := by
  rintro ⟨phase⟩
  cases phase with
  | idle => rintro ⟨⟩
  | releasing status => exact prompt_awaitRest status
  | posted opcode =>
    refine (Side.prompt_peerFlag _).bind fun flag _ => ?_
    split
    · exact (Side.prompt_setFlag _ _).bind fun _ _ => prompt_awaitRest _
    · rintro ⟨⟩

end Initiator

namespace Responder

theorem prompt_pollCommand (responder : Responder) :
    responder.pollCommand.Prompt fun _ => True := by
  rw [pollCommand]
  split
  · trivial
  · exact (Side.prompt_peerFlag _).bind fun _ _ => trivial

theorem prompt_signal (status : Status) (responder : Responder) :
    (responder.signal status).Prompt fun _ => True := by
  rw [signal]
  split
  · trivial
  · exact (Side.prompt_setFlag _ _).bind fun _ _ => trivial

theorem prompt_pollRelease (responder : Responder) :
    responder.pollRelease.Prompt fun given => given.1 ≠ .error .timeout := by
  obtain ⟨phase⟩ := responder
  cases phase with
  | waiting | acked => rintro ⟨⟩
  | signalled status =>
    refine (Side.prompt_peerFlag _).bind fun flag _ => ?_
    split
    · rintro ⟨⟩
    · refine (Side.prompt_setFlag _ _).bind fun _ _ => ?_
      rintro ⟨⟩

theorem prompt_pollReleased : pollReleased.Prompt := by
  intro responder
  refine (prompt_pollRelease responder).bind ?_
  rintro ⟨e | (_ | _), next⟩ other
  · intro same
    exact other (congrArg _ (Except.error.inj same))
  · rintro ⟨⟩
  · rintro ⟨⟩

end Responder

theorem PendingSwap.prompt_poll (pending : PendingSwap) : pending.poll.Prompt fun _ => True := by
  have requested : pending.side.swapRequested.Prompt fun _ => True :=
    (Prompt.cycle _).bind fun _ _ => trivial
  have current : pending.side.currentBank.Prompt fun _ => True :=
    (Prompt.cycle _).bind fun _ _ => trivial
  refine requested.bind fun requested _ => ?_
  split
  · trivial
  · exact current.bind fun _ _ => trivial

/-! ## Every bounded call -/

namespace Budget

/-- The sum of two budgets. -/
def plus (first second : Budget) : Budget :=
  ⟨first.polls + second.polls, Nat.add_pos_left first.positive _⟩

/-- Within a budget every wait is what it is without one, cut off where the budget ends. -/
structure Faithful (budget : Budget) : Prop where
  send (cmd : Command) (initiator : Initiator) :
    Curtails budget.polls (initiator.sendWithin budget cmd) (initiator.send cmd) id
      (.error .timeout, ·) (·.send cmd)
  waitDone (initiator : Initiator) :
    Curtails budget.polls (initiator.waitDoneWithin budget) initiator.waitDone id
      (.error .timeout, ·) (·.waitDone)
  waitCommand (responder : Responder) :
    Curtails budget.polls (responder.waitCommandWithin budget) responder.waitCommand .ok
      (fun () => .error .timeout) fun () => responder.waitCommand
  /-- The status stays signalled, and only the release is still awaited. -/
  finish (status : Status) (responder : Responder) :
    Curtails budget.polls (responder.finishWithin budget status) (responder.finish status) id
      (.error .timeout, ·) Responder.pollReleased.forever
  waitSwap (pending : PendingSwap) :
    Curtails budget.polls (pending.waitWithin budget) pending.wait .ok
      (fun () => .error .timeout) fun () => pending.wait

/-- A wait that has run out of one budget and is taken up with another one is a wait with both. -/
structure Additive (first second : Budget) : Prop where
  send (cmd : Command) (initiator : Initiator) :
    (initiator.sendWithin first cmd).orAgain (·.sendWithin second cmd) =
      initiator.sendWithin (first.plus second) cmd
  waitDone (initiator : Initiator) :
    (initiator.waitDoneWithin first).orAgain (·.waitDoneWithin second) =
      initiator.waitDoneWithin (first.plus second)
  waitCommand (responder : Responder) :
    (responder.waitCommandWithin first).orElseAgain (responder.waitCommandWithin second) =
      responder.waitCommandWithin (first.plus second)
  waitSwap (pending : PendingSwap) :
    (pending.waitWithin first).orElseAgain (pending.waitWithin second) =
      pending.waitWithin (first.plus second)

theorem faithful (budget : Budget) : budget.Faithful where
  send cmd initiator := (Initiator.prompt_pollPost cmd).curtails budget initiator
  waitDone initiator := Initiator.prompt_pollCompletion.curtails budget initiator
  waitCommand responder := curtails_await responder.prompt_pollCommand budget
  finish status responder := by
    refine Curtails.after (responder.prompt_signal status) fun (result, responder) => ?_
    cases result with
    | error e => exact curtails_done budget.polls id (Except.error e, responder)
    | ok => exact Responder.prompt_pollReleased.curtails budget responder
  waitSwap pending := curtails_await pending.prompt_poll budget

theorem additive (first second : Budget) : first.Additive second where
  send cmd initiator := (Initiator.prompt_pollPost cmd).upTo_add first.polls second.polls initiator
  waitDone initiator :=
    Initiator.prompt_pollCompletion.upTo_add first.polls second.polls initiator
  waitCommand responder :=
    lookUpTo_add responder.pollCommand first.polls second.polls
  waitSwap pending := lookUpTo_add pending.poll first.polls second.polls

end Budget

/-- A bounded wait refines the unbounded one, whatever the bus answers and wherever the call starts;
and waiting twice is waiting once with both budgets. A budget without polls has one. -/
theorem bounded_waits_refine_unbounded_waits :
    (∀ polls, (Budget.ofPolls polls).polls = if polls = 0 then 1 else polls) ∧
      (∀ budget : Budget, budget.Faithful) ∧
      ∀ first second : Budget, first.Additive second := by
  refine ⟨fun polls => ?_, Budget.faithful, Budget.additive⟩
  show max 1 polls = _
  split <;> omega

end TwinDesk
