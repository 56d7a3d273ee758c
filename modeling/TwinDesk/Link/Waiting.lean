import TwinDesk.Link.LinkError
import TwinDesk.Link.Program

/-!
# Waiting for the peer

Every wait of the link repeats a *poll*: a step that looks once, and either has a value, or fails,
or has to be tried again. There are two ways to repeat it. `Poll.forever` never gives up;
`Poll.within` tries as often as a budget allows and then reports a timeout. Both make the very same
bus cycles as long as the budget lasts. A poll that only looks, without a state and without errors,
is repeated by `Program.await` and `Budget.await`.

* `Poll.within_succ` — a budget of one more poll is one poll, and then the rest of the budget.
-/

namespace TwinDesk

/-- How often a bounded wait polls before it gives up: at least once. -/
structure Budget where
  polls : Nat
  positive : 0 < polls
  deriving DecidableEq, Repr

/-- The budget for `polls` attempts; an empty one is raised to a single attempt. -/
def Budget.ofPolls (polls : Nat) : Budget :=
  ⟨max 1 polls, by omega⟩

/-- A step that may be tried again: it carries a state, and answers with an error, with a value, or
with "not yet". -/
abbrev Poll (σ β : Type) : Type 1 :=
  σ → Program (Except LinkError (Option β) × σ)

namespace Poll

variable {σ β : Type}

/-- The poll that looks, carrying no state and never failing. -/
def ofLook (look : Program (Option β)) : Poll Unit β := fun _ => do
  return (.ok (← look), ())

/-- Polls until there is a value or an error. -/
def forever (poll : Poll σ β) (state : σ) : Program (Except LinkError β × σ) :=
  Program.loop
    (fun state => do
      match ← poll state with
      | (.ok (some value), state) => return .inr (.ok value, state)
      | (.ok none, state) => return .inl state
      | (.error e, state) => return .inr (.error e, state))
    state

/-- Polls at most `polls` times. -/
def upTo (poll : Poll σ β) : Nat → σ → Program (Except LinkError β × σ)
  | 0, state => return (.error .timeout, state)
  | polls + 1, state => do
    match ← poll state with
    | (.ok (some value), state) => return (.ok value, state)
    | (.ok none, state) => poll.upTo polls state
    | (.error e, state) => return (.error e, state)

/-- Polls as often as the budget allows. -/
def within (poll : Poll σ β) (budget : Budget) (state : σ) : Program (Except LinkError β × σ) :=
  poll.upTo budget.polls state

theorem within_succ (poll : Poll σ β) (polls : Nat) (state : σ) :
    poll.within ⟨polls + 1, by omega⟩ state =
      (poll state).bind fun
        | (.ok (some value), state) => .done (.ok value, state)
        | (.ok none, state) => poll.upTo polls state
        | (.error e, state) => .done (.error e, state) := by
  rfl

end Poll

/-- Looks until there is a value. -/
def Program.await {β : Type} (look : Program (Option β)) : Program β :=
  loop
    (fun _ => do
      match ← look with
      | some value => return .inr value
      | none => return .inl ())
    ()

/-- Looks as often as the budget allows. -/
def Budget.await {β : Type} (budget : Budget) (look : Program (Option β)) :
    Program (Except LinkError β) := do
  let (result, _) ← (Poll.ofLook look).within budget ()
  return result

end TwinDesk
