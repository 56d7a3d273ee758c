import TwinDesk.Proofs.Window.Coherent

/-!
# Damage that is pending

What waits to be painted keeps waiting until it is painted: no operation on the windows takes damage
back, and a window that goes leaves its place behind as damage. The only exception is
`Pool.clear`, which drops the damage together with the windows.

* `Pool.KeepsDamage` — no damage is lost on the way from one pool to another.
* `Pool.isLive_of_layers` — a pixel that is not damaged has lost no window.
* `Pool.pending_until_painted` — the operations lose no damage, whatever went before.
* `Pool.clear_forgets_damage` — dropping all windows does.
-/

namespace TwinDesk

variable {P : Type} {contents : SlotTable (Option P)} {window : Window} {p : Point}

/-! ## What a layer tells of its window -/

namespace Window

theorem id_of_layer {seen : Window × Option P} (layer : window.layer contents p = some seen) :
    seen.1.id = window.id := by
  unfold Window.layer at layer
  split at layer
  · cases layer
    unfold seenAt
    split <;> rfl
  · cases layer

theorem exists_layer (visible : window.isVisible = true)
    (inside : window.frame.contains p = true) : ∃ seen, window.layer contents p = some seen := by
  rw [← Option.ne_none_iff_exists', ne_eq, layer_eq_none_iff, visible, inside]
  decide

end Window

namespace Pool

variable {pool pool' : Pool} {id : WindowId}

theorem get?_eq (pool : Pool) (id : WindowId) : pool.get? id = id.slot?.bind pool.slots.get := by
  rw [get?, find?]
  cases id.slot? with
  | none => rfl
  | some slot =>
    show ((pool.slots.get slot).bind _).map _ = pool.slots.get slot
    cases pool.slots.get slot <;> rfl

theorem get?_id (pool : Pool) (slot : Slot) : pool.get? slot.id = pool.slots.get slot := by
  rw [get?_eq, slot.slot?_id]
  rfl

theorem get?_eq_some_iff : pool.get? id = some window ↔
    ∃ slot, id.slot? = some slot ∧ pool.slots.get slot = some window := by
  rw [get?_eq, Option.bind_eq_some_iff]

/-- Every window that is open is painted. -/
theorem Listed.mem_backToFront (h : pool.Listed) (known : pool.get? id = some window) :
    window ∈ pool.backToFront := by
  obtain ⟨slot, -, known⟩ := get?_eq_some_iff.mp known
  have listed : slot ∈ pool.order.frontToBack := by
    rw [h.mem_iff, known]
    rfl
  rw [backToFront, h.wellFormed.backToFront_eq]
  exact List.mem_filterMap.mpr ⟨slot, List.mem_reverse.mpr listed, known⟩

namespace Sound

theorem id_of_get? (h : pool.Sound) (known : pool.get? id = some window) : window.id = id := by
  obtain ⟨slot, named, known⟩ := get?_eq_some_iff.mp known
  exact (h slot window known).2.trans (Slot.id_of_slot? named)

theorem isLive_of_mem (h : pool.Sound) (mem : window ∈ pool.backToFront) :
    pool.isLive window.id = true := by
  obtain ⟨slot, -, known⟩ := List.mem_filterMap.mp mem
  rw [(h slot window known).2, isLive_id, known]
  rfl

end Sound

/-! ## Keeping the damage -/

/-- No damage is lost on the way from one pool to another. -/
structure KeepsDamage (pool pool' : Pool) : Prop where
  kept : ∀ p, Layout.screen.contains p = true → pool.damage.covers p = true →
    pool'.damage.covers p = true
  /-- Where a window has gone, the screen waits to be painted. -/
  closed : ∀ id window, pool.get? id = some window → window.isVisible = true →
    pool'.isLive id = false → ∀ p, Layout.screen.contains p = true →
      window.frame.contains p = true → pool'.damage.covers p = true

/-- As long as a pixel has the same layers, the windows that it shows are open. -/
theorem isLive_of_layers (listed : pool.Listed) (sound : pool.Sound) (sound' : pool'.Sound)
    (same : pool'.layers contents p = pool.layers contents p)
    (known : pool.get? id = some window) (visible : window.isVisible = true)
    (inside : window.frame.contains p = true) : pool'.isLive id = true := by
  obtain ⟨seen, layer⟩ : ∃ seen, window.layer contents p = some seen :=
    Window.exists_layer visible inside
  have mem : seen ∈ pool'.layers contents p := by
    rw [same]
    exact List.mem_filterMap.mpr ⟨window, listed.mem_backToFront known, layer⟩
  obtain ⟨window', mem', layer'⟩ := List.mem_filterMap.mp mem
  have named : window'.id = id := by
    rw [← Window.id_of_layer layer', Window.id_of_layer layer, sound.id_of_get? known]
  rw [← named]
  exact sound'.isLive_of_mem mem'

/-- Both follow from what the operations report: a pixel that is not damaged afterwards was not
damaged before, and has the layers that it had. -/
theorem Edit.keepsDamage (edit : Edit) (listed : pool.Listed) (sound : pool.Sound) :
    pool.KeepsDamage (edit.run pool) := by
  -- the contents of the windows do not matter here, so let them have none
  have spared {p : Point} (onScreen : Layout.screen.contains p = true) :
      Spared (.replicate (none : Option Unit)) p pool (edit.run pool) :=
    edit.spared onScreen listed.wellFormed
  constructor
  · intro p onScreen covered
    by_contra clean
    obtain ⟨before, -⟩ := spared onScreen (Bool.eq_false_iff.mpr clean)
    cases before.symm.trans covered
  · intro id window known visible gone p onScreen inside
    by_contra clean
    obtain ⟨-, same⟩ := spared onScreen (Bool.eq_false_iff.mpr clean)
    have live := isLive_of_layers listed sound (edit.sound sound) same known visible inside
    cases gone.symm.trans live

/-- Whatever callers have done to the pool: no operation on its windows loses damage. -/
theorem pending_until_painted (actions : List Action) (edit : Edit) :
    (actions.foldl Action.run empty).KeepsDamage (edit.run (actions.foldl Action.run empty)) :=
  edit.keepsDamage (Action.coherent_run actions coherent_empty).toListed
    (Action.sound_run actions sound_empty)

/-! ## Dropping all windows -/

/-- A window is opened, and nobody has painted it yet. -/
def unpainted : Pool :=
  [Action.perform (.edit (.allocate ⟨8, 24, 108, 104⟩ "A" .plain .visible))].foldl Action.run empty

/-- The window waits to be painted, and once it is dropped, nobody cleans up behind it. -/
theorem clear_forgets_damage : ¬ unpainted.KeepsDamage (Operation.clear.run unpainted) := by
  intro keeps
  have lost : unpainted.clear.damage.covers ⟨8, 24⟩ = true :=
    keeps.kept ⟨8, 24⟩ (by decide) (by decide)
  exact absurd lost (by decide)

end Pool

end TwinDesk
