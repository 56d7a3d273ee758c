import TwinDesk.Fault

/-!
# Computations that do not fault

`Yields c Q` says that a checked computation ends in a value, and that the value satisfies `Q`.
Sequences, folds and traversals of such computations are of the same kind. `Ensures c Q` leaves
open whether there is a value.
-/

namespace TwinDesk

universe u v

variable {α β γ : Type}

namespace Checked

theorem map_eq_ok_iff {α : Type u} {β : Type v} {f : α → β} {c : Except Fault α} {value : β} :
    c.map f = .ok value ↔ ∃ a, c = .ok a ∧ f a = value := by
  cases c <;> simp [Except.map]

theorem bind_eq_ok_iff {f : α → Checked β} {c : Checked α} {value : β} :
    (c >>= f) = .ok value ↔ ∃ a, c = .ok a ∧ f a = .ok value := by
  cases c <;> simp [Bind.bind, Except.bind]

end Checked

/-- The computation has a value, which satisfies `Q`. -/
def Yields (c : Checked α) (Q : α → Prop) : Prop :=
  ∃ value, c = .ok value ∧ Q value

/-- The computation has a value. -/
@[reducible] def Succeeds (c : Checked α) : Prop :=
  Yields c fun _ => True

namespace Yields

variable {c : Checked α} {P Q : α → Prop} {R : β → Prop}

theorem pure {value : α} (h : Q value) : Yields (Pure.pure value) Q :=
  ⟨value, rfl, h⟩

theorem mono (yields : Yields c P) (h : ∀ value, P value → Q value) : Yields c Q := by
  obtain ⟨value, eq, holds⟩ := yields
  exact ⟨value, eq, h value holds⟩

theorem bind {f : α → Checked β} (yields : Yields c Q)
    (next : ∀ value, Q value → Yields (f value) R) : Yields (c >>= f) R := by
  obtain ⟨value, rfl, holds⟩ := yields
  exact next value holds

theorem of_ok {value : α} (yields : Yields c Q) (eq : c = .ok value) : Q value := by
  obtain ⟨value', rfl, holds⟩ := yields
  cases eq
  exact holds

/-- A fold of steps that keep `Q`. -/
theorem foldlM {f : β → γ → Checked β} {xs : List γ} {start : β} (begins : R start)
    (step : ∀ value, ∀ x ∈ xs, R value → Yields (f value x) R) : Yields (xs.foldlM f start) R := by
  induction xs generalizing start with
  | nil => exact pure begins
  | cons x rest ih =>
    rw [List.foldlM_cons]
    refine (step start x List.mem_cons_self begins).bind ?_
    intro value holds
    exact ih holds fun value x mem => step value x (List.mem_cons_of_mem _ mem)

theorem mapM {f : γ → Checked β} {xs : List γ} (each : ∀ x ∈ xs, Yields (f x) R) :
    Yields (xs.mapM f) fun values => ∀ value ∈ values, R value := by
  induction xs with
  | nil => exact pure fun _ none => absurd none List.not_mem_nil
  | cons x rest ih =>
    rw [List.mapM_cons]
    refine (each x List.mem_cons_self).bind ?_
    intro value holds
    refine (ih fun x mem => each x (List.mem_cons_of_mem _ mem)).bind fun values all => pure ?_
    exact List.forall_mem_cons.mpr ⟨holds, all⟩

end Yields

/-- If the computation has a value, it satisfies `Q`. -/
def Ensures (c : Checked α) (Q : α → Prop) : Prop :=
  ∀ value, c = .ok value → Q value

namespace Ensures

variable {c : Checked α} {Q : α → Prop} {R : β → Prop}

theorem any (c : Checked α) : Ensures c fun _ => True :=
  fun _ _ => trivial

theorem pure {value : α} (h : Q value) : Ensures (Pure.pure value) Q := by
  rintro _ ⟨⟩
  exact h

theorem bind {f : α → Checked β} (ensures : Ensures c Q)
    (next : ∀ value, Q value → Ensures (f value) R) : Ensures (c >>= f) R := by
  intro result eq
  obtain ⟨value, first, rest⟩ := Checked.bind_eq_ok_iff.mp eq
  exact next value (ensures value first) result rest

theorem yields (ensures : Ensures c Q) (succeeds : Succeeds c) : Yields c Q := by
  obtain ⟨value, eq, -⟩ := succeeds
  exact ⟨value, eq, ensures value eq⟩

/-- A fold of steps that keep `Q`. -/
theorem foldlM {f : β → γ → Checked β} {xs : List γ} {start : β} (begins : R start)
    (step : ∀ value, ∀ x ∈ xs, R value → Ensures (f value x) R) :
    Ensures (xs.foldlM f start) R := by
  induction xs generalizing start with
  | nil => exact pure begins
  | cons x rest ih =>
    rw [List.foldlM_cons]
    refine (step start x List.mem_cons_self begins).bind ?_
    intro value holds
    exact ih holds fun value x mem => step value x (List.mem_cons_of_mem _ mem)

end Ensures

end TwinDesk
