import Mathlib.Tactic.Choose
import TwinDesk.Link.Waiting
import TwinDesk.Proofs.Checked

/-!
# Proof outlines

Assertions for a program that shares the chip with the program of the other processor. An *outline*
puts an assertion before every bus cycle. The assertion speaks of a *world*: the chip together with
what an observer of both processors knows. Between two cycles of a program the other processor may
make any of its moves, so every assertion must outlast them; in return, each cycle of the program
has to be a move of its own side.

An outline says in particular that the program never faults.

* `Outline.weaken`, `Outline.bind`, `Outline.frame` — outlines follow the structure of programs.
* `Ahead.step` — one step of a program keeps the outline of what is left of it.
* `Ahead.moved` — a move of the other side does so as well.
-/

namespace TwinDesk

namespace Program

variable {α β : Type}

/-- Whatever the answers to its bus cycles are, a program that ends does so with such a value. -/
def Returns : {α : Type} → (α → Prop) → Program α → Prop
  | _, φ, .done value => φ value
  | _, _, .fault _ => True
  | _, φ, .access _ next => ∀ answer, (next answer).Returns φ
  | _, φ, .spin _ _ next => ∀ value, (next value).Returns φ

namespace Returns

variable {φ : α → Prop} {ψ : β → Prop} {f : α → Program β} {p : Program α}

theorem any (p : Program α) : p.Returns fun _ => True := by
  induction p with
  | done | fault => trivial
  | access a next ih => exact ih
  | spin body start next _ ih => exact ih

theorem mono {φ' : α → Prop} (returns : p.Returns φ) (weaker : ∀ value, φ value → φ' value) :
    p.Returns φ' := by
  induction p with
  | done value => exact weaker value returns
  | fault => trivial
  | access a next ih => exact fun answer => ih answer (returns answer) weaker
  | spin body start next _ ih => exact fun value => ih value (returns value) weaker

theorem bind (returns : p.Returns φ) (rest : ∀ value, φ value → (f value).Returns ψ) :
    (p.bind f).Returns ψ := by
  induction p with
  | done value => exact rest value returns
  | fault => trivial
  | access a next ih => exact fun answer => ih answer (returns answer) rest
  | spin body start next _ ih => exact fun value => ih value (returns value) rest

theorem after (rest : ∀ value, (f value).Returns ψ) : (p.bind f).Returns ψ :=
  (any p).bind fun value _ => rest value

theorem ofChecked {c : Checked α} (ensures : Ensures c φ) : (Program.ofChecked c).Returns φ := by
  cases c with
  | ok value => exact ensures value rfl
  | error => trivial

end Returns

end Program

/-- What the two processors may do to the world they share. -/
structure Rules where
  World : Type
  /-- The chip in a world. -/
  chip : World → GateArray
  /-- The moves of each processor. -/
  Moves : Side → World → World → Prop

namespace Rules

variable (rules : Rules)

/-- An assertion of one side that outlasts every move of the other. -/
def Stable (side : Side) (P : rules.World → Prop) : Prop :=
  ∀ ⦃w w' : rules.World⦄, rules.Moves side.peer w w' → P w → P w'

/-- An assertion that may stand before a bus cycle: it outlasts the other side, and entails what
holds between the cycles of the program. -/
structure Rests (side : Side) (between P : rules.World → Prop) : Prop where
  stable : rules.Stable side P
  between : ∀ w, P w → between w

/-- The bus cycle `a` succeeds, is a move of its side and leads from `P` to `Q`. -/
def Performs (side : Side) (a : Access) (P : rules.World → Prop)
    (Q : a.Answer → rules.World → Prop) : Prop :=
  ∀ w, P w → ∃ answer w', (rules.chip w).perform side a = .ok (answer, rules.chip w') ∧
    rules.Moves side w w' ∧ Q answer w'

/-- A move of one side that leaves the chip alone and leads from `P` to `Q`. -/
def Passes (side : Side) (P Q : rules.World → Prop) : Prop :=
  ∀ w, P w → ∃ w', rules.chip w' = rules.chip w ∧ rules.Moves side w w' ∧ Q w'

/-- A program of `side` leads from `P` to `Q` while the other side moves, and `between` holds before
each of its bus cycles. A loop has an assertion at its head, and one at the start of its body, which
is reached by a move of its own. -/
def Outline (side : Side) (between : rules.World → Prop) :
    {α : Type} → Program α → (rules.World → Prop) → (α → rules.World → Prop) → Prop
  | _, .done value, P, Q => ∀ w, P w → Q value w
  | _, .fault _, P, _ => ∀ w, ¬ P w
  | _, .access a next, P, Q =>
    ∃ (before : rules.World → Prop) (after : a.Answer → rules.World → Prop),
      (∀ w, P w → before w) ∧ rules.Rests side between before ∧
      rules.Performs side a before after ∧
      ∀ answer, Outline side between (next answer) (after answer) Q
  | _, .spin (σ := σ) (β := β) body start next, P, Q =>
    ∃ (head inside : σ → rules.World → Prop) (result : β → rules.World → Prop),
      (∀ w, P w → head start w) ∧ (∀ state, rules.Rests side between (head state)) ∧
      (∀ state, rules.Passes side (head state) (inside state)) ∧
      (∀ state, Outline side between (body state) (inside state) (Sum.elim head result)) ∧
      ∀ value, Outline side between (next value) (result value) Q

variable {rules} {side : Side} {between : rules.World → Prop} {α β : Type}

/-! ## Stable assertions -/

theorem Stable.and {P Q : rules.World → Prop} (hP : rules.Stable side P)
    (hQ : rules.Stable side Q) : rules.Stable side fun w => P w ∧ Q w := by
  intro w w' move ⟨p, q⟩
  exact ⟨hP move p, hQ move q⟩

/-- What every move keeps is stable for both sides. -/
def Kept (rules : Rules) (F : rules.World → Prop) : Prop :=
  ∀ ⦃side w w'⦄, rules.Moves side w w' → F w → F w'

/-! ## The structure of outlines -/

namespace Outline

/-- An outline may start from more and promise less. -/
theorem weaken {p : Program α} {P P' : rules.World → Prop} {Q Q' : α → rules.World → Prop}
    (outline : rules.Outline side between p P Q) (hP : ∀ w, P' w → P w)
    (hQ : ∀ value w, Q value w → Q' value w) : rules.Outline side between p P' Q' := by
  induction p generalizing P P' with
  | done value =>
    intro w h
    exact hQ _ _ (outline _ (hP _ h))
  | fault e =>
    intro w h
    exact outline _ (hP _ h)
  | access a next ih =>
    obtain ⟨before, after, enter, rests, performs, rest⟩ := outline
    refine ⟨before, after, fun w h => enter _ (hP _ h), rests, performs, fun answer => ?_⟩
    exact ih answer (rest answer) (fun _ h => h) hQ
  | spin body start next _ ih =>
    obtain ⟨head, inside, result, enter, rests, passes, around, rest⟩ := outline
    refine ⟨head, inside, result, fun w h => enter _ (hP _ h), rests, passes, around,
      fun value => ?_⟩
    exact ih value (rest value) (fun _ h => h) hQ

theorem strengthen {p : Program α} {P P' : rules.World → Prop} {Q : α → rules.World → Prop}
    (outline : rules.Outline side between p P Q) (hP : ∀ w, P' w → P w) :
    rules.Outline side between p P' Q :=
  outline.weaken hP fun _ _ h => h

/-- An outline says less if less is known between the cycles. -/
theorem relax {between' : rules.World → Prop} (weaker : ∀ w, between w → between' w)
    {p : Program α} {P : rules.World → Prop} {Q : α → rules.World → Prop}
    (outline : rules.Outline side between p P Q) : rules.Outline side between' p P Q := by
  have rests {P : rules.World → Prop} (rests : rules.Rests side between P) :
      rules.Rests side between' P :=
    ⟨rests.stable, fun w h => weaker w (rests.between w h)⟩
  induction p generalizing P with
  | done | fault => exact outline
  | access a next ih =>
    obtain ⟨before, after, enter, rest, performs, later⟩ := outline
    exact ⟨before, after, enter, rests rest, performs, fun answer => ih answer (later answer)⟩
  | spin body start next ihBody ih =>
    obtain ⟨head, inside, result, enter, rest, passes, around, later⟩ := outline
    exact ⟨head, inside, result, enter, fun state => rests (rest state), passes,
      fun state => ihBody state (around state), fun value => ih value (later value)⟩

theorem done {value : α} {P : rules.World → Prop} {Q : α → rules.World → Prop}
    (h : ∀ w, P w → Q value w) : rules.Outline side between (.done value) P Q := h

/-- A composition is outlined by its parts. -/
theorem bind {p : Program α} {f : α → Program β} {P : rules.World → Prop}
    {R : α → rules.World → Prop} {Q : β → rules.World → Prop}
    (outline : rules.Outline side between p P R)
    (rest : ∀ value, rules.Outline side between (f value) (R value) Q) :
    rules.Outline side between (p.bind f) P Q := by
  induction p generalizing P with
  | done value => exact (rest value).strengthen outline
  | fault e => exact outline
  | access a next ih =>
    obtain ⟨before, after, enter, rests, performs, later⟩ := outline
    exact ⟨before, after, enter, rests, performs, fun answer => ih answer (later answer) rest⟩
  | spin body start next _ ih =>
    obtain ⟨head, inside, result, enter, rests, passes, around, later⟩ := outline
    exact ⟨head, inside, result, enter, rests, passes, around,
      fun value => ih value (later value) rest⟩

/-- Nothing has to be shown of a program that is never started. -/
theorem of_false (p : Program α) (Q : α → rules.World → Prop) :
    rules.Outline side between p (fun _ => False) Q := by
  have rests : rules.Rests side between fun _ => False :=
    ⟨fun _ _ _ h => h, fun _ h => h.elim⟩
  induction p with
  | done value => exact fun _ h => h.elim
  | fault e => exact fun _ h => h
  | access a next ih =>
    exact ⟨_, fun _ _ => False, fun _ h => h, rests, fun _ h => h.elim, fun answer => ih answer Q⟩
  | spin body start next ihBody ih =>
    exact ⟨fun _ _ => False, fun _ _ => False, fun _ _ => False, fun _ h => h, fun _ => rests,
      fun _ _ h => h.elim, fun state => ihBody state _, fun value => ih value Q⟩

/-- What does not speak of the world is a hypothesis of the outline. -/
theorem assuming {p : Program α} {φ : Prop} {P : rules.World → Prop}
    {Q : α → rules.World → Prop} (outline : φ → rules.Outline side between p P Q) :
    rules.Outline side between p (fun w => φ ∧ P w) Q := by
  by_cases h : φ
  · exact (outline h).strengthen fun _ => And.right
  · exact (of_false p Q).strengthen fun _ both => h both.1

/-- An outline for every choice of something unknown is one for the unknown choice. -/
theorem of_exists {ι : Type} {p : Program α} {P : ι → rules.World → Prop}
    {Q : α → rules.World → Prop} (outline : ∀ i, rules.Outline side between p (P i) Q) :
    rules.Outline side between p (fun w => ∃ i, P i w) Q := by
  have any {R : ι → rules.World → Prop} (rests : ∀ i, rules.Rests side between (R i)) :
      rules.Rests side between fun w => ∃ i, R i w :=
    ⟨fun _ _ move ⟨i, h⟩ => ⟨i, (rests i).stable move h⟩, fun w ⟨i, h⟩ => (rests i).between w h⟩
  -- the assertions inside of the outline depend on the choice as well, so they are chosen with it
  induction p generalizing P with
  | done value => exact fun w ⟨i, h⟩ => outline i w h
  | fault e => exact fun w ⟨i, h⟩ => outline i w h
  | access a next ih =>
    choose before after enter rests performs rest using outline
    refine ⟨fun w => ∃ i, before i w, fun answer w => ∃ i, after i answer w,
      fun w ⟨i, h⟩ => ⟨i, enter i w h⟩, any rests, ?_,
      fun answer => ih answer fun i => rest i answer⟩
    rintro w ⟨i, h⟩
    obtain ⟨answer, w', eq, move, post⟩ := performs i w h
    exact ⟨answer, w', eq, move, i, post⟩
  | spin body start next ihBody ih =>
    choose head inside result enter rests passes around rest using outline
    refine ⟨fun state w => ∃ i, head i state w, fun state w => ∃ i, inside i state w,
      fun value w => ∃ i, result i value w, fun w ⟨i, h⟩ => ⟨i, enter i w h⟩,
      fun state => any fun i => rests i state, ?_, fun state => ihBody state fun i => ?_,
      fun value => ih value fun i => rest i value⟩
    · rintro state w ⟨i, h⟩
      obtain ⟨w', eq, move, post⟩ := passes i state w h
      exact ⟨w', eq, move, i, post⟩
    · refine (around i state).weaken (fun _ h => h) ?_
      rintro (state | value) w h
      · exact ⟨i, h⟩
      · exact ⟨i, h⟩

/-- What every move keeps may be added to an outline. -/
theorem frame {p : Program α} {P F : rules.World → Prop} {Q : α → rules.World → Prop}
    (kept : rules.Kept F) (outline : rules.Outline side between p P Q) :
    rules.Outline side (fun w => between w ∧ F w) p (fun w => P w ∧ F w)
      fun value w => Q value w ∧ F w := by
  have both {R : rules.World → Prop} (rests : rules.Rests side between R) :
      rules.Rests side (fun w => between w ∧ F w) fun w => R w ∧ F w :=
    ⟨rests.stable.and fun _ _ move => kept move, fun w h => ⟨rests.between w h.1, h.2⟩⟩
  induction p generalizing P with
  | done value => exact fun w h => ⟨outline w h.1, h.2⟩
  | fault e => exact fun w h => outline w h.1
  | access a next ih =>
    obtain ⟨before, after, enter, rests, performs, rest⟩ := outline
    refine ⟨fun w => before w ∧ F w, fun answer w => after answer w ∧ F w,
      fun w h => ⟨enter w h.1, h.2⟩, both rests, ?_, fun answer => ih answer (rest answer)⟩
    intro w h
    obtain ⟨answer, w', eq, move, post⟩ := performs w h.1
    exact ⟨answer, w', eq, move, post, kept move h.2⟩
  | spin body start next ihBody ih =>
    obtain ⟨head, inside, result, enter, rests, passes, around, rest⟩ := outline
    refine ⟨fun state w => head state w ∧ F w, fun state w => inside state w ∧ F w,
      fun value w => result value w ∧ F w, fun w h => ⟨enter w h.1, h.2⟩,
      fun state => both (rests state), ?_, fun state => ?_, fun value => ih value (rest value)⟩
    · intro state w h
      obtain ⟨w', eq, move, post⟩ := passes state w h.1
      exact ⟨w', eq, move, post, kept move h.2⟩
    · refine (ihBody state (around state)).weaken (fun _ h => h) ?_
      rintro (state | value) w h
      · exact h
      · exact h

/-- What holds of every value that a program can end with may be added to an outline. -/
theorem returning {φ : α → Prop} {p : Program α} {P : rules.World → Prop}
    {Q : α → rules.World → Prop} (returns : p.Returns φ)
    (outline : rules.Outline side between p P Q) :
    rules.Outline side between p P fun value w => φ value ∧ Q value w := by
  induction p generalizing P with
  | done value => exact fun w h => ⟨returns, outline w h⟩
  | fault e => exact outline
  | access a next ih =>
    obtain ⟨before, after, enter, rests, performs, rest⟩ := outline
    exact ⟨before, after, enter, rests, performs,
      fun answer => ih answer (returns answer) (rest answer)⟩
  | spin body start next _ ih =>
    obtain ⟨head, inside, result, enter, rests, passes, around, rest⟩ := outline
    exact ⟨head, inside, result, enter, rests, passes, around,
      fun value => ih value (returns value) (rest value)⟩

/-- A single bus cycle. -/
theorem cycle {a : Access} {P : rules.World → Prop} {Q : a.Answer → rules.World → Prop}
    (rests : rules.Rests side between P) (performs : rules.Performs side a P Q) :
    rules.Outline side between (Program.cycle a) P Q :=
  ⟨P, Q, fun _ h => h, rests, performs, fun _ _ h => h⟩

/-- A loop, by an assertion at its head. -/
theorem loop {σ : Type} {body : σ → Program (σ ⊕ β)} {start : σ}
    (head inside : σ → rules.World → Prop) {Q : β → rules.World → Prop}
    (rests : ∀ state, rules.Rests side between (head state))
    (passes : ∀ state, rules.Passes side (head state) (inside state))
    (around : ∀ state,
      rules.Outline side between (body state) (inside state) (Sum.elim head Q)) :
    rules.Outline side between (Program.loop body start) (head start) Q :=
  ⟨head, inside, Q, fun _ h => h, rests, passes, around, fun _ _ h => h⟩

/-- A wait without end, by an assertion before every poll. -/
theorem forever {σ : Type} {poll : Poll σ β} {state : σ} (head inside : σ → rules.World → Prop)
    {Q : Except LinkError β × σ → rules.World → Prop}
    (rests : ∀ state, rules.Rests side between (head state))
    (passes : ∀ state, rules.Passes side (head state) (inside state))
    (around : ∀ state, rules.Outline side between (poll state) (inside state) fun
      | (.ok (some value), state) => Q (.ok value, state)
      | (.ok none, state) => head state
      | (.error e, state) => Q (.error e, state)) :
    rules.Outline side between (poll.forever state) (head state) Q := by
  refine loop head inside rests passes fun state => (around state).bind ?_
  rintro ⟨e | (_ | value), state⟩ w h
  · exact h
  · exact h
  · exact h

/-- Looking until there is a value, by an assertion before every look. -/
theorem await {look : Program (Option β)} {head inside : rules.World → Prop}
    {Q : β → rules.World → Prop} (rests : rules.Rests side between head)
    (passes : rules.Passes side head inside)
    (around : rules.Outline side between look inside fun
      | some value => Q value
      | none => head) :
    rules.Outline side between (Program.await look) head Q := by
  refine loop (fun _ => head) (fun _ => inside) (fun _ => rests) (fun _ => passes)
    fun _ => around.bind ?_
  rintro (_ | value) w h
  · exact h
  · exact h

/-- A bounded wait, by an assertion before every poll. -/
theorem upTo {σ : Type} {poll : Poll σ β} (head : σ → rules.World → Prop)
    {Q : Except LinkError β × σ → rules.World → Prop}
    (around : ∀ state, rules.Outline side between (poll state) (head state) fun
      | (.ok (some value), state) => Q (.ok value, state)
      | (.ok none, state) => head state
      | (.error e, state) => Q (.error e, state))
    (timeout : ∀ state w, head state w → Q (.error .timeout, state) w) (polls : Nat) (state : σ) :
    rules.Outline side between (poll.upTo polls state) (head state) Q := by
  induction polls generalizing state with
  | zero => exact .done (timeout state)
  | succ polls ih =>
    refine (around state).bind ?_
    rintro ⟨e | (_ | value), state⟩
    · exact .done fun w h => h
    · exact ih state
    · exact .done fun w h => h

/-- Looking within a budget, by an assertion before every look. -/
theorem awaitWithin {look : Program (Option β)} {head : rules.World → Prop}
    {Q : Except LinkError β → rules.World → Prop}
    (around : rules.Outline side between look head fun
      | some value => Q (.ok value)
      | none => head)
    (timeout : ∀ w, head w → Q (.error .timeout) w) (budget : Budget) :
    rules.Outline side between (budget.await look) head Q := by
  refine bind (upTo (fun _ => head) (Q := fun result => Q result.1) (fun _ => around.bind ?_)
    (fun _ => timeout) budget.polls ()) fun result => .done fun w h => h
  rintro (_ | value)
  · exact .done fun w h => h
  · exact .done fun w h => h

end Outline

end Rules

/-! ## Steps of a program -/

namespace Program

variable {α β : Type}

/-- One step of a program: a bus cycle, or the next round of a loop. A program that has ended stays
as it is. -/
def step (side : Side) (chip : GateArray) : Program α → Except Fault (Program α × GateArray)
  | done value => .ok (done value, chip)
  | fault e => .error e
  | access a next => (chip.perform side a).map fun (answer, chip) => (next answer, chip)
  | spin body start next =>
    .ok ((body start).bind (Sum.elim (fun state => spin body state next) next), chip)

/-- The value of a program that has ended. -/
def value? : Program α → Option α
  | done value => some value
  | _ => none

theorem eq_done_of_value? {p : Program α} {value : α} (h : p.value? = some value) :
    p = done value := by
  cases p <;> simp_all [value?]

end Program

namespace Rules

variable {rules : Rules} {side : Side} {between : rules.World → Prop} {α : Type}

/-- What is left of a program leads to `Q` from the world `w` on. While it has not ended, its
assertion outlasts the other side. -/
def Ahead (side : Side) (between : rules.World → Prop) (p : Program α)
    (Q : α → rules.World → Prop) (w : rules.World) : Prop :=
  ∃ P, (p.value? = none → rules.Rests side between P) ∧ rules.Outline side between p P Q ∧ P w

namespace Ahead

variable {p : Program α} {Q : α → rules.World → Prop} {w w' : rules.World}

/-- A program with an outline is ahead wherever its precondition holds. -/
theorem of_outline {P : rules.World → Prop} (outline : rules.Outline side between p P Q)
    (h : P w) : Ahead side between p Q w := by
  cases p with
  | done value =>
    refine ⟨P, ?_, outline, h⟩
    intro running
    cases running
  | fault e => exact absurd h (outline w)
  | access a next =>
    obtain ⟨before, after, enter, rests, rest⟩ := outline
    exact ⟨before, fun _ => rests, ⟨before, after, fun _ h => h, rests, rest⟩, enter w h⟩
  | spin body start next =>
    obtain ⟨head, inside, result, enter, rests, rest⟩ := outline
    exact ⟨head start, fun _ => rests start, ⟨head, inside, result, fun _ h => h, rests, rest⟩,
      enter w h⟩

theorem moved (ahead : Ahead side between p Q w) (running : p.value? = none)
    (move : rules.Moves side.peer w w') : Ahead side between p Q w' := by
  obtain ⟨P, rests, outline, h⟩ := ahead
  exact ⟨P, rests, outline, (rests running).stable move h⟩

theorem finished {value : α} (ahead : Ahead side between (.done value) Q w) : Q value w := by
  obtain ⟨P, -, outline, h⟩ := ahead
  exact outline w h

/-- Before it has ended, a program is between two of its bus cycles. -/
theorem between_of_running (ahead : Ahead side between p Q w) (running : p.value? = none) :
    between w := by
  obtain ⟨P, rests, -, h⟩ := ahead
  exact (rests running).between w h

/-- A step succeeds, is a move, and keeps the outline of what is left. -/
theorem step (ahead : Ahead side between p Q w) (running : p.value? = none) :
    ∃ p' w', p.step side (rules.chip w) = .ok (p', rules.chip w') ∧ rules.Moves side w w' ∧
      Ahead side between p' Q w' := by
  obtain ⟨P, -, outline, hw⟩ := ahead
  cases p with
  | done value => cases running
  | fault e => exact absurd hw (outline w)
  | access a next =>
    obtain ⟨before, after, enter, -, performs, rest⟩ := outline
    obtain ⟨answer, w', eq, move, post⟩ := performs w (enter w hw)
    refine ⟨next answer, w', ?_, move, of_outline (rest answer) post⟩
    simp only [Program.step, eq, Except.map]
  | spin body start next =>
    obtain ⟨head, inside, result, enter, rests, passes, around, rest⟩ := outline
    obtain ⟨w', eq, move, post⟩ := passes start w (enter w hw)
    -- one round of the loop, and then the same loop from the state that the round leaves
    have unrolled : rules.Outline side between
        ((body start).bind (Sum.elim (fun state => .spin body state next) next))
        (inside start) Q := by
      refine (around start).bind ?_
      rintro (state | value)
      · exact ⟨head, inside, result, fun _ h => h, rests, passes, around, rest⟩
      · exact rest value
    refine ⟨_, w', ?_, move, of_outline unrolled post⟩
    rw [eq]
    rfl

end Ahead

end Rules

end TwinDesk
