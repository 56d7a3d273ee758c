import TwinDesk.Proofs.Link.Chip
import TwinDesk.Proofs.Link.Interleaving

/-!
# Calls that end

Where two programs get through under some schedule, so do the calls that begin with them. And a
program without a loop gets through on its own, as long as nothing stops it.

* `System.reaches_of_run` — a run of two programs is a run of two calls.
* `System.reaches_end` — a call of the Main processor without a loop ends.
-/

namespace TwinDesk

open Relation

namespace Program

variable {α β : Type}

/-- A composition makes the steps of its first part. -/
theorem step_bind {p : Program α} (running : p.value? = none) (f : α → Program β) (side : Side)
    (chip : GateArray) :
    (p.bind f).step side chip = (p.step side chip).map fun (p', chip') => (p'.bind f, chip') := by
  cases p with
  | done value => cases running
  | fault e => rfl
  | access a next =>
    show (chip.perform side a).map _ = ((chip.perform side a).map _).map _
    cases chip.perform side a <;> rfl
  | spin body first next =>
    show Except.ok (_, chip) = Except.ok (((body first).bind _).bind f, chip)
    rw [bind_assoc]
    congr
    funext result
    cases result <;> rfl

/-- Where a composition takes a step and goes on well, its first part has taken the step. -/
theorem step_of_bind {γ δ : Type*} {p : Program α} (running : p.value? = none)
    {f : α → Program β} {side : Side} {chip : GateArray} {g : Program β × GateArray → γ}
    {rest : γ → Except Fault δ} {result : δ}
    (eq : (((p.bind f).step side chip).map g).bind rest = .ok result) :
    ∃ p' chip', p.step side chip = .ok (p', chip') ∧ rest (g (p'.bind f, chip')) = .ok result := by
  rw [step_bind running] at eq
  cases step : p.step side chip with
  | error e =>
    rw [step] at eq
    cases eq
  | ok next =>
    rw [step] at eq
    exact ⟨next.1, next.2, rfl, eq⟩

/-- Nothing stops a composition but what stops its first part. -/
theorem exists_step_bind_iff {p : Program α} (running : p.value? = none) (f : α → Program β)
    (side : Side) (chip : GateArray) : (∃ next, (p.bind f).step side chip = .ok next) ↔
      ∃ next, p.step side chip = .ok next := by
  rw [step_bind running]
  cases p.step side chip with
  | error e => exact iff_of_false nofun nofun
  | ok next => exact iff_of_true ⟨_, rfl⟩ ⟨_, rfl⟩

theorem value?_bind {p : Program α} (running : p.value? = none) (f : α → Program β) :
    (p.bind f).value? = none := by
  cases p with
  | done value => cases running
  | _ => rfl

/-- A program without a loop. -/
def Straight : {α : Type} → Program α → Prop
  | _, done _ => True
  | _, fault _ => True
  | _, access _ next => ∀ answer, (next answer).Straight
  | _, spin .. => False

namespace Straight

theorem bind {p : Program α} {f : α → Program β} (straight : p.Straight)
    (rest : ∀ value, (f value).Straight) : (p.bind f).Straight := by
  induction p with
  | done value => exact rest value
  | fault => trivial
  | access a next ih => exact fun answer => ih answer (straight answer) rest
  | spin => exact straight.elim

theorem cycle (a : Access) : (Program.cycle a).Straight :=
  fun _ => trivial

theorem ofChecked (checked : Checked α) : (Program.ofChecked checked).Straight := by
  cases checked <;> trivial

end Straight

end Program

open Program

namespace Processor

variable {S α : Type} {role : Role S} {side : Side} {p p' : Program α} {chip chip' : GateArray}

/-- A call makes the steps of the program that it goes on with. -/
theorem step_calling (running : p.value? = none) (eq : p.step side chip = .ok (p', chip'))
    (f : α → Program (GateArray → S)) (state : S) :
    (calling state (p.bind f)).Step role side chip (resume chip' state (p'.bind f)) chip' := by
  refine .cycle ?_
  rw [step_bind running, eq]
  rfl

/-- It makes no others. -/
theorem of_step_calling (running : p.value? = none) {f : α → Program (GateArray → S)} {state : S}
    {next : Processor S} (step : (calling state (p.bind f)).Step role side chip next chip') :
    ∃ p', p.step side chip = .ok (p', chip') ∧ next = resume chip' state (p'.bind f) := by
  cases step with
  | cycle eq =>
    rw [step_bind running] at eq
    obtain ⟨⟨p', _⟩, stepped, same⟩ := Checked.map_eq_ok_iff.mp eq
    cases same
    exact ⟨p', stepped, rfl⟩

/-- A call makes the steps of the program that it begins with. -/
theorem step_of_step (running : p.value? = none) (eq : p.step side chip = .ok (p', chip'))
    (f : α → Program (GateArray → S)) (before : GateArray) (state : S) :
    (resume before state (p.bind f)).Step role side chip
      (resume chip' state (p'.bind f)) chip' := by
  have calling : resume before state (p.bind f) = .calling state (p.bind f) := by
    unfold resume
    rw [value?_bind running]
  rw [calling]
  exact step_calling running eq f state

end Processor

namespace System

variable {M S α β α' β' : Type} {main : Role M} {sub : Role S}

/-- A run of two programs to their ends is a run of two calls that begin with them. -/
theorem reaches_of_run (f : α → α') (g : β → β') (F : α → Program (GateArray → M))
    (G : β → Program (GateArray → S)) (m : M) (s : S) {n : Nat} {schedule : Nat → Side}
    {chip chip' chipM chipS : GateArray} {p : Program α} {q : Program β} {a : α'} {b : β'}
    (run : Duo.run schedule ⟨chip, p.bind (done ∘ f), q.bind (done ∘ g)⟩ n =
      .ok ⟨chip', .done a, .done b⟩) :
    ∃ value value' chipM' chipS', (f value = a ∧ g value' = b) ∧ ReflTransGen (Turn main sub)
      ⟨chip, .resume chipM m (p.bind F), .resume chipS s (q.bind G)⟩
      ⟨chip', .resume chipM' m (F value), .resume chipS' s (G value')⟩ := by
  induction n generalizing schedule chip chipM chipS p q with
  | zero =>
    obtain ⟨rfl, ended, ended'⟩ := Duo.mk.inj (Except.ok.inj run)
    cases runningM : p.value? with
    | none => simpa [ended, value?] using value?_bind runningM (done ∘ f)
    | some value =>
      cases runningS : q.value? with
      | none => simpa [ended', value?] using value?_bind runningS (done ∘ g)
      | some value' =>
        rw [eq_done_of_value? runningM] at ended ⊢
        rw [eq_done_of_value? runningS] at ended' ⊢
        exact ⟨value, value', chipM, chipS, ⟨done.inj ended, done.inj ended'⟩, .refl⟩
  | succ n ih =>
    -- a program that has ended lets its turns pass, and so does the call that began with it
    change (Duo.step _ (schedule 0)).bind _ = _ at run
    cases turn : schedule 0 with
    | main =>
      rw [turn] at run
      cases running : p.value? with
      | some value =>
        rw [eq_done_of_value? running] at run ⊢
        exact ih (p := done value) run
      | none =>
        obtain ⟨p', _, eq, run⟩ := step_of_bind running run
        obtain ⟨value, value', chipM', chipS', same, reaches⟩ := ih run
        exact ⟨value, value', chipM', chipS', same,
          .head (.processor (.main _ (Processor.step_of_step running eq F _ m))) reaches⟩
    | sub =>
      rw [turn] at run
      cases running : q.value? with
      | some value =>
        rw [eq_done_of_value? running] at run ⊢
        exact ih (q := done value) run
      | none =>
        obtain ⟨q', _, eq, run⟩ := step_of_bind running run
        obtain ⟨value, value', chipM', chipS', same, reaches⟩ := ih run
        exact ⟨value, value', chipM', chipS', same,
          .head (.processor (.sub _ (Processor.step_of_step running eq G _ s))) reaches⟩

/-- A call of the Main processor ends if nothing stops it and its program has no loop. -/
theorem reaches_end (f : α → GateArray → M) {p : Program α} (straight : p.Straight) {state : M}
    {chip before : GateArray} {s : Processor S}
    (runs : ∀ system, ReflTransGen (Turn main sub)
      ⟨chip, .resume before state (p.bind (done ∘ f)), s⟩ system →
        ∀ state rest, system.main = .calling state rest →
          ∃ next, rest.step .main system.chip = .ok next) :
    ∃ system value chip', ReflTransGen (Turn main sub)
      ⟨chip, .resume before state (p.bind (done ∘ f)), s⟩ system ∧
        system.main = .free (f value chip') := by
  induction p generalizing chip before with
  | done value => exact ⟨_, value, before, .refl, rfl⟩
  | fault e =>
    obtain ⟨next, eq⟩ := runs _ .refl state _ rfl
    cases eq
  | access a next ih =>
    obtain ⟨⟨rest, chip'⟩, eq⟩ := runs _ .refl state _ rfl
    obtain ⟨⟨answer, _⟩, performed, same⟩ := Checked.map_eq_ok_iff.mp eq
    cases same
    have turn : Turn main sub ⟨chip, .resume before state ((access a next).bind (done ∘ f)), s⟩
        ⟨chip', .resume chip' state ((next answer).bind (done ∘ f)), s⟩ :=
      .processor (.main s (.cycle eq))
    obtain ⟨system, value, chip'', reaches, ended⟩ := ih answer f (straight answer)
      fun system reaches => runs system (.head turn reaches)
    exact ⟨system, value, chip'', .head turn reaches, ended⟩
  | spin => exact straight.elim

end System

end TwinDesk
