import TwinDesk.Proofs.Link.Outline

/-!
# Runs that end

A run of one processor in a world of its own, which moves with every bus cycle. A run that ends with
a value takes apart as the program does.

* `Program.run_bind_of_ok`, `Program.parts_of_run_bind` — a sequence runs part by part.
* `Program.Returns.of_run` — the value is one that the program returns.
* `Program.run_keeps` — what every bus cycle keeps, a run keeps.
* `Poll.run_upTo`, `Poll.run_forever` — a wait ends as one of its polls, or by a timeout.
* `Program.run_await_of_none` — a wait whose looks find nothing does not end.
-/

namespace TwinDesk

variable {W α β : Type} {exec : (a : Access) → W → Except Halt a.Answer × W} {limit : Nat}
  {world world' : W}

namespace Program

/-- A sequence goes on with the value of its first part. -/
theorem run_bind_of_ok {p : Program α} {first : α} (f : α → Program β)
    (begins : p.run exec limit world = (.ok first, world')) :
    (p >>= f).run exec limit world = (f first).run exec limit world' := by
  show (p.bind f).run exec limit world = _
  rw [run_bind, begins]

/-- A sequence ends with its first part if that has no value. -/
theorem run_bind_of_error {p : Program α} {halt : Halt} (f : α → Program β)
    (halts : p.run exec limit world = (.error halt, world')) :
    (p >>= f).run exec limit world = (.error halt, world') := by
  show (p.bind f).run exec limit world = _
  rw [run_bind, halts]

/-- A sequence that ends with a value has parts that do, one after the other. -/
theorem parts_of_run_bind {p : Program α} {f : α → Program β} {value : β}
    (ran : (p >>= f).run exec limit world = (.ok value, world')) :
    ∃ first between, p.run exec limit world = (.ok first, between) ∧
      (f first).run exec limit between = (.ok value, world') := by
  rcases begins : p.run exec limit world with ⟨halt | first, between⟩
  · cases (run_bind_of_error f begins).symm.trans ran
  · exact ⟨first, between, rfl, (run_bind_of_ok f begins).symm.trans ran⟩

/-- A bus cycle that is followed by a value was answered. -/
theorem answered_of_run {a : Access} {next : a.Answer → Program β} {value : β}
    (ran : (access a next).run exec limit world = (.ok value, world')) :
    ∃ answer between, exec a world = (.ok answer, between) ∧
      (next answer).run exec limit between = (.ok value, world') := by
  rw [run] at ran
  split at ran
  case h_1 answer between eq => exact ⟨answer, between, eq, ran⟩
  case h_2 => cases ran

theorem Returns.of_run {p : Program α} (φ : α → Prop) {value : α} (returns : p.Returns φ)
    (ran : p.run exec limit world = (.ok value, world')) : φ value := by
  induction p generalizing world with
  | done => cases ran; exact returns
  | fault => cases ran
  | access a next ih =>
    rw [run] at ran
    split at ran
    · exact ih _ φ (returns _) ran
    · cases ran
  | spin body start next _ ih =>
    rw [run] at ran
    split at ran
    · exact ih _ φ (returns _) ran
    · cases ran

/-- A loop that ends has a result: `I` holds of the states in between, and `φ` of the result. -/
theorem repeatUntil_ends {σ : Type} {step : σ → W → Except Halt (σ ⊕ β) × W} {count : Nat}
    (I : σ → Prop) (φ : β → Prop)
    (round : ∀ {state : σ} {world world' : W} {outcome : σ ⊕ β}, I state →
      step state world = (.ok outcome, world') → Sum.elim I φ outcome)
    {state : σ} {value : β} (start : I state)
    (ran : repeatUntil step count state world = (.ok value, world')) : φ value := by
  induction count generalizing state world with
  | zero => cases ran
  | succ count ih =>
    rw [repeatUntil] at ran
    split at ran
    case h_1 again => exact ih (round start again) ran
    case h_2 ends =>
      cases ran
      exact round start ends
    case h_3 => cases ran

/-! ### What every bus cycle keeps -/

variable {I : W → Prop}

theorem repeatUntil_keeps {σ : Type} {step : σ → W → Except Halt (σ ⊕ β) × W}
    (keeps : ∀ state world, I world → I (step state world).2) {count : Nat} {state : σ}
    (holds : I world) : I (repeatUntil step count state world).2 := by
  induction count generalizing state world with
  | zero => exact holds
  | succ count ih =>
    have here := keeps state world holds
    rw [repeatUntil]
    split
    case h_1 eq =>
      rw [eq] at here
      exact ih here
    case h_2 eq =>
      rw [eq] at here
      exact here
    case h_3 eq =>
      rw [eq] at here
      exact here

/-- An invariant of the bus cycles is one of the runs. -/
theorem run_keeps (keeps : ∀ a world, I world → I (exec a world).2) (p : Program α)
    (holds : I world) : I (p.run exec limit world).2 := by
  induction p generalizing world with
  | done => exact holds
  | fault => exact holds
  | access a next ih =>
    have here := keeps a world holds
    rw [run]
    split
    case h_1 eq =>
      rw [eq] at here
      exact ih _ here
    case h_2 eq =>
      rw [eq] at here
      exact here
  | spin body start next ihBody ih =>
    have here : I (repeatUntil (fun state => (body state).run exec limit) limit start world).2 :=
      repeatUntil_keeps (fun state _ => ihBody state) holds
    rw [run]
    split
    case h_1 eq =>
      rw [eq] at here
      exact ih _ here
    case h_2 eq =>
      rw [eq] at here
      exact here

end Program

/-! ## Waits that end -/

namespace Poll

variable {σ : Type} {poll : Poll σ β} {state state' : σ} {polls : Nat}

/-- A poll that fails without a look ends the wait at once. -/
theorem run_forever_of_error {e : LinkError} (patient : 0 < limit)
    (fails : poll state = .done (.error e, state')) :
    (poll.forever state).run exec limit world = (.ok (.error e, state'), world) := by
  cases limit with
  | zero => exact absurd patient (Nat.lt_irrefl 0)
  | succ more =>
    simp only [forever, Program.loop, Program.run, Program.repeatUntil, fails]
    rfl

theorem within_of_error {e : LinkError} (budget : Budget)
    (fails : poll state = .done (.error e, state')) :
    poll.within budget state = .done (.error e, state') := by
  obtain ⟨_ | more, positive⟩ := budget
  · exact absurd positive (Nat.lt_irrefl 0)
  · show (poll state).bind _ = _
    rw [fails]
    rfl

/-- What a poll leaves: `Waits` if it is to be tried again, and `Ends` if not. -/
def Leaves (Waits : σ → Prop) (Ends : Except LinkError β → σ → Prop) :
    Except LinkError (Option β) → σ → Prop
  | .ok none, state => Waits state
  | .ok (some value), state => Ends (.ok value) state
  | .error e, state => Ends (.error e) state

/-- A bounded wait ends as one of its polls, or with a timeout while it still waits. -/
theorem run_upTo (Waits : σ → Prop) (Ends : Except LinkError β → σ → Prop)
    (step : ∀ {state state' : σ} {world world' : W} {result : Except LinkError (Option β)},
      Waits state → (poll state).run exec limit world = (.ok (result, state'), world') →
        Leaves Waits Ends result state')
    (exhausted : ∀ {state : σ}, Waits state → Ends (.error .timeout) state)
    {result : Except LinkError β} (waits : Waits state)
    (ran : (poll.upTo polls state).run exec limit world = (.ok (result, state'), world')) :
    Ends result state' := by
  induction polls generalizing state world with
  | zero =>
    cases ran
    exact exhausted waits
  | succ polls ih =>
    obtain ⟨⟨answer, next⟩, between, first, rest⟩ := Program.parts_of_run_bind ran
    have here := step waits first
    rcases answer with e | (_ | value)
    · cases rest
      exact here
    · exact ih here rest
    · cases rest
      exact here

/-- A wait without a budget ends as one of its polls. -/
theorem run_forever (Waits : σ → Prop) (Ends : Except LinkError β → σ → Prop)
    (step : ∀ {state state' : σ} {world world' : W} {result : Except LinkError (Option β)},
      Waits state → (poll state).run exec limit world = (.ok (result, state'), world') →
        Leaves Waits Ends result state')
    {result : Except LinkError β} (waits : Waits state)
    (ran : (poll.forever state).run exec limit world = (.ok (result, state'), world')) :
    Ends result state' := by
  rw [forever, Program.loop, Program.run] at ran
  split at ran
  case h_2 => cases ran
  rename_i rounds
  cases ran
  refine Program.repeatUntil_ends Waits (fun ended => Ends ended.1 ended.2) ?_ waits rounds
  intro now between between' outcome waits ran
  obtain ⟨⟨answer, next⟩, polled, first, rest⟩ := Program.parts_of_run_bind ran
  have here := step waits first
  rcases answer with e | (_ | value)
  · cases rest
    exact here
  · cases rest
    exact here
  · cases rest
    exact here

end Poll

/-- A look that finds nothing, and leaves the world as it is, is repeated for ever. -/
theorem Program.run_await_of_none {look : Program (Option β)}
    (finds : look.run exec limit world = (.ok none, world)) :
    (await look).run exec limit world = (.error .stuck, world) := by
  have goesRound (body : Unit → Program (Unit ⊕ β))
      (again : (body ()).run exec limit world = (.ok (.inl ()), world)) (count : Nat) :
      repeatUntil (fun state world => (body state).run exec limit world) count () world =
        (.error .stuck, world) := by
    induction count with
    | zero => rfl
    | succ count ih =>
      rw [repeatUntil, again]
      exact ih
  rw [await, loop, run, goesRound]
  exact run_bind_of_ok _ finds

end TwinDesk
