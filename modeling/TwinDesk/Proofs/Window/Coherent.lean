import TwinDesk.Proofs.Window.Layers

/-!
# The parts of the pool agree

The pool says four times which windows are open: by its slots, by the order, by the active window
and by the highlights. No operation, whether it is done or refused, lets them drift apart; and a
window is opened as long as there is room, with the lowest id that is free.

* `Pool.Coherent` — how slots, order, activity and highlights hang together.
* `Pool.Edit.coherent` — every operation keeps it.
* `Pool.Consistent`, `Pool.consistent_run` — what callers see of it after any operations.
* `Pool.Action`, `Pool.LeadsTo` — all that callers do with a pool, once and any number of times.
-/

namespace TwinDesk

/-! ## Order -/

namespace ZOrder.WellFormed

variable {z : ZOrder} {slot other : Slot}

theorem nodup (h : z.WellFormed) : z.frontToBack.Nodup := by
  obtain ⟨slots, lists⟩ := h
  rw [lists.frontToBack_eq]
  exact lists.nodup

theorem backToFront_eq (h : z.WellFormed) : z.backToFront = z.frontToBack.reverse := by
  obtain ⟨slots, lists⟩ := h
  rw [lists.frontToBack_eq, lists.backToFront_eq]

theorem front_eq (h : z.WellFormed) : z.front = z.frontToBack.head? := by
  obtain ⟨slots, lists⟩ := h
  rw [lists.frontToBack_eq]
  exact lists.front

theorem mem_unlink (h : z.WellFormed) :
    other ∈ (z.unlink slot).frontToBack ↔ other ≠ slot ∧ other ∈ z.frontToBack := by
  obtain ⟨slots, lists⟩ := h
  rw [(lists.unlink slot).frontToBack_eq, lists.frontToBack_eq]
  exact lists.nodup.mem_erase_iff

theorem mem_pushTop (h : z.WellFormed) :
    other ∈ (z.pushTop slot).frontToBack ↔ other = slot ∨ other ∈ z.frontToBack := by
  obtain ⟨slots, lists⟩ := h
  rw [(lists.pushTop slot).frontToBack_eq, lists.frontToBack_eq, List.mem_cons,
    lists.nodup.mem_erase_iff]
  tauto

theorem mem_pushBottom (h : z.WellFormed) :
    other ∈ (z.pushBottom slot).frontToBack ↔ other = slot ∨ other ∈ z.frontToBack := by
  obtain ⟨slots, lists⟩ := h
  rw [(lists.pushBottom slot).frontToBack_eq, lists.frontToBack_eq, List.mem_append,
    List.mem_singleton, lists.nodup.mem_erase_iff]
  tauto

end ZOrder.WellFormed

/-! ## Highlights -/

namespace WindowFlags

/-- Whether a window is visible has nothing to do with whether it is highlighted. -/
theorem highlighted_insert_visible (flags : WindowFlags) :
    (flags.insert .visible).contains .highlighted = flags.contains .highlighted := by
  obtain ⟨⟨bits⟩⟩ := flags
  revert bits
  decide

theorem highlighted_remove_visible (flags : WindowFlags) :
    (flags.remove .visible).contains .highlighted = flags.contains .highlighted := by
  obtain ⟨⟨bits⟩⟩ := flags
  revert bits
  decide

end WindowFlags

namespace Pool

variable {pool pool' : Pool} {slot other : Slot} {window : Window}

/-! ## Coherence -/

/-- The order is over the slots with a window. -/
structure Listed (pool : Pool) : Prop where
  wellFormed : pool.order.WellFormed
  mem_iff : ∀ slot, slot ∈ pool.order.frontToBack ↔ (pool.slots.get slot).isSome

/-- The window in front is open, since the order lists open windows only. -/
theorem Listed.isSome_of_front (h : pool.Listed) (front : pool.order.front = some slot) :
    (pool.slots.get slot).isSome := by
  rw [← h.mem_iff]
  exact List.mem_of_head? (h.wellFormed.front_eq.symm.trans front)

theorem Listed.vacant_of_front (h : pool.Listed) (front : pool.order.front = none)
    (slot : Slot) : pool.slots.get slot = none := by
  have empty : pool.order.frontToBack = [] :=
    List.head?_eq_none_iff.mp (h.wellFormed.front_eq.symm.trans front)
  have absent := h.mem_iff slot
  rw [empty] at absent
  simpa using absent

/-- The window in a slot is highlighted if it is the active one. -/
def Lit (pool : Pool) (slot : Slot) : Prop :=
  ∀ window ∈ pool.slots.get slot, window.isActive = decide (pool.active = some slot)

/-- How the parts of the pool hang together at all times. -/
structure Coherent (pool : Pool) : Prop extends Listed pool where
  lit : ∀ slot, pool.Lit slot
  /-- The active window is open. -/
  alive : ∀ slot ∈ pool.active, (pool.slots.get slot).isSome
  /-- Some window is active unless none is open. -/
  awake : pool.active = none → ∀ slot, pool.slots.get slot = none

theorem coherent_empty : empty.Coherent where
  wellFormed := .empty
  mem_iff slot := by
    have vacant : (empty.slots.get slot).isSome = false := by
      rw [empty, SlotTable.get_replicate]
      rfl
    have unlisted : empty.order.frontToBack = [] := ZOrder.lists_empty.frontToBack_eq
    rw [vacant, unlisted]
    simp
  lit slot window known := by
    cases (SlotTable.get_replicate _ slot).symm.trans known
  alive slot known := by
    cases known
  awake _ slot := SlotTable.get_replicate _ slot

/-! ### What the building blocks leave alone -/

@[simp] theorem active_invalidate (rect : Rect) : (pool.invalidate rect).active = pool.active := by
  rw [invalidate]

@[simp] theorem active_invalidateSlot : (pool.invalidateSlot slot).active = pool.active := by
  unfold invalidateSlot
  split
  · exact active_invalidate _
  · rfl

theorem get_modify_of_ne {f : Window → Window} (ne : other ≠ slot) :
    (pool.modify slot f).slots.get other = pool.slots.get other :=
  SlotTable.get_set_of_ne _ _ ne

@[simp] theorem isSome_get_modify (f : Window → Window) :
    ((pool.modify slot f).slots.get other).isSome = (pool.slots.get other).isSome := by
  by_cases same : other = slot
  · rw [same, get_modify_self, Option.isSome_map]
  · rw [get_modify_of_ne same]

namespace Coherent

/-- Damage has no part in it. -/
theorem of_same (h : pool.Coherent) (slots : pool'.slots = pool.slots)
    (order : pool'.order = pool.order) (active : pool'.active = pool.active) :
    pool'.Coherent := by
  obtain ⟨⟨wellFormed, mem_iff⟩, lit, alive, awake⟩ := h
  unfold Lit at lit
  rw [← order, ← slots] at mem_iff
  rw [← slots, ← active] at lit alive awake
  rw [← order] at wellFormed
  exact ⟨⟨wellFormed, mem_iff⟩, lit, alive, awake⟩

theorem invalidate (h : pool.Coherent) (rect : Rect) : (pool.invalidate rect).Coherent :=
  h.of_same (slots_invalidate rect) (order_invalidate rect) (active_invalidate rect)

theorem invalidateSlot (h : pool.Coherent) : (pool.invalidateSlot slot).Coherent :=
  h.of_same slots_invalidateSlot order_invalidateSlot active_invalidateSlot

/-- A window changes, but not its highlight. -/
theorem modify (h : pool.Coherent) {f : Window → Window}
    (keeps : ∀ window ∈ pool.slots.get slot, (f window).isActive = window.isActive) :
    (pool.modify slot f).Coherent where
  wellFormed := h.wellFormed
  mem_iff other := by
    rw [isSome_get_modify]
    exact h.mem_iff other
  lit other window known := by
    by_cases same : other = slot
    · subst same
      rw [get_modify_self] at known
      obtain ⟨old, found, rfl⟩ := Option.map_eq_some_iff.mp known
      exact (keeps old found).trans (h.lit other old found)
    · rw [get_modify_of_ne same] at known
      exact h.lit other window known
  alive other known := by
    rw [isSome_get_modify]
    exact h.alive other known
  awake none other := by
    have vacant := h.awake none other
    rw [← Option.isNone_iff_eq_none, ← Option.not_isSome] at vacant ⊢
    rw [isSome_get_modify]
    exact vacant

end Coherent

/-! ### Making a window the active one -/

theorem get_deactivateOthers_of_ne (ne : other ≠ slot) :
    (pool.deactivateOthers slot).slots.get other =
      if pool.active = some other then
        (pool.slots.get other).map fun window =>
          { window with flags := window.flags.remove .highlighted }
      else pool.slots.get other := by
  unfold deactivateOthers
  split
  · rename_i old active
    split
    · rename_i same
      rw [if_neg]
      rw [active, same, Option.some_inj]
      exact Ne.symm ne
    · rw [slots_invalidateSlot, active]
      by_cases same : old = other
      · rw [if_pos (congrArg some same), same]
        exact get_modify_self _
      · rw [if_neg fun eq => same (Option.some.inj eq)]
        exact get_modify_of_ne (Ne.symm same)
  · rename_i none
    rw [none]
    rfl

theorem isSome_get_deactivateOthers :
    ((pool.deactivateOthers slot).slots.get other).isSome = (pool.slots.get other).isSome := by
  by_cases same : other = slot
  · rw [same, get_deactivateOthers]
  · rw [get_deactivateOthers_of_ne same]
    split
    · exact Option.isSome_map
    · rfl

theorem isSome_get_activate :
    ((pool.activate slot).slots.get other).isSome = (pool.slots.get other).isSome := by
  apply (isSome_get_modify _).trans
  exact isSome_get_deactivateOthers

/-- The active window gets its highlight, the only one that is missing. -/
theorem Coherent.highlight (listed : pool.Listed) (active : pool.active = some slot)
    (lit : ∀ other, other ≠ slot → pool.Lit other) (occupied : (pool.slots.get slot).isSome) :
    (pool.addFlags slot .highlighted).Coherent where
  wellFormed := listed.wellFormed
  mem_iff other := by
    rw [addFlags, isSome_get_modify]
    exact listed.mem_iff other
  lit other window found := by
    have active' : (pool.addFlags slot .highlighted).active = some slot := active
    by_cases same : other = slot
    · subst same
      obtain ⟨old, -, rfl⟩ := Option.map_eq_some_iff.mp ((get_modify_self _).symm.trans found)
      rw [decide_eq_true active']
      exact WindowFlags.contains_insert _ _
    · exact lit other same window ((get_modify_of_ne same).symm.trans found)
  alive other eq := by
    obtain rfl := Option.some.inj (active.symm.trans eq)
    rw [addFlags, isSome_get_modify]
    exact occupied
  awake none := by
    cases active.symm.trans none

/-- The highlight goes over to a window; whether that one had it before does not matter. -/
theorem Coherent.activate (listed : pool.Listed) (lit : ∀ other, other ≠ slot → pool.Lit other)
    (occupied : (pool.slots.get slot).isSome) : (pool.activate slot).Coherent := by
  refine Coherent.highlight ⟨?_, fun other => ?_⟩ rfl ?_ ?_
  · exact wellFormed_activate listed.wellFormed
  · have order : (pool.deactivateOthers slot).order = pool.order := order_deactivateOthers
    rw [isSome_get_deactivateOthers, ← listed.mem_iff, ← order]
  · intro other ne window found
    have found : (pool.deactivateOthers slot).slots.get other = some window := found
    rw [decide_eq_false fun eq => ne (Option.some.inj eq).symm]
    rw [get_deactivateOthers_of_ne ne] at found
    split at found
    · obtain ⟨old, -, rfl⟩ := Option.map_eq_some_iff.mp found
      exact WindowFlags.contains_remove (by decide)
    · rename_i inactive
      rw [lit other ne window found, decide_eq_false inactive]
  · rw [isSome_get_deactivateOthers]
    exact occupied

/-! ### The operations -/

namespace Coherent

theorem allocate (h : pool.Coherent) (frame : Rect) (title : String) (style : WindowStyle)
    (flags : WindowFlags) : (pool.allocate frame title style flags).2.Coherent := by
  unfold Pool.allocate
  split
  · exact h
  · rename_i slot _
    dsimp only
    generalize Window.create slot.id frame title style flags = window
    let opened : Pool := { pool with
      slots := pool.slots.set slot (some window)
      order := pool.order.pushTop slot }
    have known : opened.slots.get slot = some window := SlotTable.get_set_self _ _ _
    have elsewhere {other : Slot} (ne : other ≠ slot) :
        opened.slots.get other = pool.slots.get other := SlotTable.get_set_of_ne _ _ ne
    have listed : opened.Listed := by
      refine ⟨h.wellFormed.pushTop slot, fun other => h.wellFormed.mem_pushTop.trans ?_⟩
      by_cases same : other = slot
      · simp [same, known]
      · rw [elsewhere same, ← h.mem_iff]
        exact or_iff_right same
    -- of the new window itself nothing is known yet: the caller may have asked for a highlight
    have lit : ∀ other, other ≠ slot → opened.Lit other := by
      intro other ne window found
      rw [elsewhere ne] at found
      exact h.lit other window found
    have active : (opened.activate slot).Coherent := by
      apply Coherent.activate listed lit
      rw [known]
      rfl
    split
    · exact active.invalidateSlot
    · exact active

/-- A window that closes leaves the order and its slot. -/
theorem listed_unlink (h : pool.Coherent) (slot : Slot) : Listed { pool with
    order := pool.order.unlink slot
    slots := pool.slots.set slot none } := by
  refine ⟨h.wellFormed.unlink slot, fun other => h.wellFormed.mem_unlink.trans ?_⟩
  by_cases same : other = slot
  · simp [same, SlotTable.get_set_self]
  · rw [SlotTable.get_set_of_ne _ _ same, ← h.mem_iff]
    exact and_iff_right same

theorem lit_unlink (h : pool.Coherent) (slot other : Slot) : Lit { pool with
    order := pool.order.unlink slot
    slots := pool.slots.set slot none } other := by
  intro window found
  by_cases same : other = slot
  · rw [same, SlotTable.get_set_self] at found
    cases found
  · exact h.lit other window ((SlotTable.get_set_of_ne _ _ same).symm.trans found)

/-- Activity is passed on to the window that is now in front. -/
theorem free (h : pool.Coherent) (id : WindowId) : (pool.free id).2.Coherent := by
  unfold Pool.free
  split
  · exact h
  · rename_i slot window found
    have known := (find?_eq_some_iff.mp found).2
    have marked := h.invalidate window.frame
    rw [← slots_invalidate window.frame] at known
    dsimp only
    generalize pool.invalidate window.frame = pool at marked known ⊢
    have listed := marked.listed_unlink slot
    have lit := marked.lit_unlink slot
    have gone : (pool.slots.set slot none).get slot = none := SlotTable.get_set_self _ _ _
    split
    · rename_i active
      -- the highlight went with the window, so that no other has one
      have dark (other : Slot) :
          ∀ window ∈ (pool.slots.set slot none).get other, window.isActive = false := by
        intro window found
        rw [lit other window found]
        apply decide_eq_false
        intro same
        obtain rfl := Option.some.inj (active.symm.trans same)
        cases gone.symm.trans found
      split
      · rename_i next front
        have passed : Listed { pool with
            order := pool.order.unlink slot
            slots := pool.slots.set slot none
            active := (pool.order.unlink slot).front } := ⟨listed.wellFormed, listed.mem_iff⟩
        refine (Coherent.highlight passed front (fun other ne window found => ?_)
          (passed.isSome_of_front front)).invalidateSlot
        rw [dark other window found]
        exact (decide_eq_false fun eq => ne (Option.some.inj (eq.symm.trans front))).symm
      · -- nobody is in front: it was the last window
        rename_i front
        have vacant := listed.vacant_of_front front
        refine ⟨⟨listed.wellFormed, listed.mem_iff⟩, ?_, ?_, fun _ => vacant⟩
        · intro other window found
          cases (vacant other).symm.trans found
        · intro other eq
          cases front.symm.trans eq
    · -- activity stays where it is, and so it is with a window that stays
      rename_i inactive
      refine ⟨listed, lit, fun other active => ?_, fun none => ?_⟩
      · have ne : other ≠ slot := fun same => inactive (same ▸ active)
        rw [SlotTable.get_set_of_ne _ _ ne]
        exact marked.alive other active
      · cases (marked.awake none slot).symm.trans known

theorem select (h : pool.Coherent) (id : WindowId) : (pool.select id).2.Coherent := by
  unfold Pool.select
  split
  · exact h
  · rename_i slot window found
    have occupied : (pool.slots.get slot).isSome := by
      rw [(find?_eq_some_iff.mp found).2]
      rfl
    split
    · exact h
    · have listed : Listed { pool with order := pool.order.pushTop slot } := by
        refine ⟨h.wellFormed.pushTop slot, fun other => h.wellFormed.mem_pushTop.trans ?_⟩
        rw [h.mem_iff]
        apply or_iff_right_of_imp
        rintro rfl
        exact occupied
      exact (Coherent.activate listed (fun other _ => h.lit other) occupied).invalidateSlot

theorem sendToBack (h : pool.Coherent) (id : WindowId) : (pool.sendToBack id).2.Coherent := by
  unfold Pool.sendToBack
  split
  · exact h
  · rename_i slot window found
    have occupied : (pool.slots.get slot).isSome := by
      rw [(find?_eq_some_iff.mp found).2]
      rfl
    split
    · exact h
    · have lowered : Coherent { pool with order := pool.order.pushBottom slot } := by
        refine ⟨⟨h.wellFormed.pushBottom slot, fun other => ?_⟩, h.lit, h.alive, h.awake⟩
        rw [h.wellFormed.mem_pushBottom, h.mem_iff]
        apply or_iff_right_of_imp
        rintro rfl
        exact occupied
      exact lowered.invalidateSlot

theorem reveal (h : pool.Coherent) (id : WindowId) : (pool.reveal id).2.Coherent := by
  unfold Pool.reveal
  split
  · exact h
  · split
    · exact h
    · refine (h.modify fun window _ => ?_).invalidate _
      exact WindowFlags.highlighted_insert_visible _

theorem hide (h : pool.Coherent) (id : WindowId) : (pool.hide id).2.Coherent := by
  unfold Pool.hide
  split
  · exact h
  · split
    · refine (h.modify fun window _ => ?_).invalidate _
      exact WindowFlags.highlighted_remove_visible _
    · exact h

theorem reframe (h : pool.Coherent) (id : WindowId) (frame : Rect → Rect) :
    (pool.reframe id frame).2.Coherent := by
  unfold Pool.reframe
  split
  · exact h
  · rename_i slot window found
    have known := (find?_eq_some_iff.mp found).2
    refine Coherent.invalidate (Coherent.invalidate (h.modify fun old same => ?_) _) _
    obtain rfl := Option.some.inj (known.symm.trans same)
    rfl

theorem setTitle (h : pool.Coherent) (id : WindowId) (title : String) :
    (pool.setTitle id title).2.Coherent := by
  unfold Pool.setTitle
  split
  · exact h
  · generalize Title.ofText title = kept
    refine (h.modify fun window _ => ?_).invalidate _
    rfl

theorem invalidateWindow (h : pool.Coherent) (id : WindowId) :
    (pool.invalidateWindow id).2.Coherent := by
  unfold Pool.invalidateWindow
  split
  · exact h
  · exact h.invalidate _

theorem endUpdate (h : pool.Coherent) : pool.endUpdate.Coherent :=
  h.of_same rfl rfl rfl

end Coherent

/-- Every operation keeps the parts together. -/
theorem Edit.coherent (edit : Edit) (h : pool.Coherent) : (edit.run pool).Coherent := by
  cases edit with
  | allocate frame title style flags => exact h.allocate frame title style flags
  | free id => exact h.free id
  | select id => exact h.select id
  | sendToBack id => exact h.sendToBack id
  | reveal id => exact h.reveal id
  | hide id => exact h.hide id
  | moveTo id x y => exact h.reframe id _
  | resize id width height => exact h.reframe id _
  | setTitle id title => exact h.setTitle id title
  | invalidate rect => exact h.invalidate rect
  | invalidateWindow id => exact h.invalidateWindow id

/-! ### Which slots the operations occupy -/

/-- A new window takes no place from another. -/
theorem isSome_get_allocate (frame : Rect) (title : String) (style : WindowStyle)
    (flags : WindowFlags) (occupied : (pool.slots.get slot).isSome) :
    ((pool.allocate frame title style flags).2.slots.get slot).isSome := by
  unfold allocate
  split
  · exact occupied
  · rename_i new _
    dsimp only
    generalize Window.create new.id frame title style flags = window
    have opened : ((pool.slots.set new (some window)).get slot).isSome := by
      by_cases same : slot = new
      · rw [same, SlotTable.get_set_self]
        rfl
      · rw [SlotTable.get_set_of_ne _ _ same]
        exact occupied
    split
    · rw [slots_invalidateSlot, isSome_get_activate]
      exact opened
    · rw [isSome_get_activate]
      exact opened

theorem isSome_get_free {id : WindowId} (ne : slot.id ≠ id) :
    ((pool.free id).2.slots.get slot).isSome = (pool.slots.get slot).isSome := by
  unfold free
  split
  · rfl
  · rename_i closed window found
    have named := (find?_eq_some_iff.mp found).1
    have ne' : slot ≠ closed := by
      rintro rfl
      exact ne (Slot.id_of_slot? named)
    have emptied : ((pool.slots.set closed none).get slot).isSome =
        (pool.slots.get slot).isSome := by
      rw [SlotTable.get_set_of_ne _ _ ne']
    dsimp only
    split
    · split
      · rw [slots_invalidateSlot, addFlags, isSome_get_modify, slots_invalidate]
        exact emptied
      · exact emptied
    · exact emptied

/-- Closing a window opens none. -/
theorem isSome_of_free {id : WindowId} (occupied : ((pool.free id).2.slots.get slot).isSome) :
    (pool.slots.get slot).isSome := by
  by_cases same : slot.id = id
  · by_contra vacant
    have unknown : pool.find? id = none := by
      rw [find?, ← same, slot.slot?_id]
      show (pool.slots.get slot).bind _ = none
      rw [Option.not_isSome_iff_eq_none.mp vacant]
      rfl
    rw [free, unknown] at occupied
    exact vacant occupied
  · rwa [isSome_get_free same] at occupied

theorem isSome_get_select (id : WindowId) :
    ((pool.select id).2.slots.get slot).isSome = (pool.slots.get slot).isSome := by
  unfold select
  split
  · rfl
  · split
    · rfl
    · rw [slots_invalidateSlot, isSome_get_activate]

theorem isSome_get_reframe (id : WindowId) (frame : Rect → Rect) :
    ((pool.reframe id frame).2.slots.get slot).isSome = (pool.slots.get slot).isSome := by
  unfold reframe
  split
  · rfl
  · rw [slots_invalidate, slots_invalidate, isSome_get_modify]

/-! ## What callers see -/

theorem isLive_iff {id : WindowId} : pool.isLive id = true ↔
    ∃ slot, id.slot? = some slot ∧ (pool.slots.get slot).isSome := by
  constructor
  · intro live
    obtain ⟨⟨slot, window⟩, found⟩ := Option.isSome_iff_exists.mp live
    obtain ⟨named, known⟩ := find?_eq_some_iff.mp found
    refine ⟨slot, named, ?_⟩
    rw [known]
    rfl
  · rintro ⟨slot, named, occupied⟩
    obtain ⟨window, known⟩ := Option.isSome_iff_exists.mp occupied
    rw [isLive, find?_eq_some_iff.mpr ⟨named, known⟩]
    rfl

theorem isLive_id : pool.isLive slot.id = (pool.slots.get slot).isSome := by
  rw [Bool.eq_iff_iff, isLive_iff, slot.slot?_id]
  simp

/-- What the parts of the pool say of each other, as callers see it. -/
structure Consistent (pool : Pool) : Prop where
  /-- Nothing is in the order but windows. -/
  ids_eq : pool.frontToBack.map (·.id) = pool.order.frontToBack.map Slot.id
  nodup : (pool.frontToBack.map (·.id)).Nodup
  mem_iff : ∀ id, id ∈ pool.frontToBack.map (·.id) ↔ pool.isLive id = true
  backToFront_eq : pool.backToFront = pool.frontToBack.reverse
  /-- The slot of a live id has the window of that id. -/
  own : ∀ id, pool.isLive id = true →
    ∃ slot window, id.slot? = some slot ∧ pool.slots.get slot = some window ∧ window.id = id
  vacant : ∀ slot, pool.isLive slot.id = false → pool.slots.get slot = none
  length_eq : pool.frontToBack.length = pool.size
  size_le : pool.size ≤ 16
  /-- A window is active exactly if one is open. -/
  active : pool.activeId.isSome = true ↔ pool.size ≠ 0
  alive : ∀ id ∈ pool.activeId, pool.isLive id = true
  /-- The active window is the one with a highlight. -/
  highlighted : ∀ window ∈ pool.frontToBack,
    window.isActive = true ↔ pool.activeId = some window.id
  /-- A window can be opened unless there are sixteen. -/
  exhausted : ∀ frame title style flags,
    (∃ error, (pool.allocate frame title style flags).1 = .error error) ↔ pool.size = 16
  /-- A new window has the lowest id that is free. -/
  lowest : ∀ frame title style flags id, (pool.allocate frame title style flags).1 = .ok id →
    pool.isLive id = false ∧ ∀ other, pool.isLive other = false → id.byte ≤ other.byte

theorem size_eq_zero_iff : pool.size = 0 ↔ ∀ slot, pool.slots.get slot = none := by
  rw [size, List.countP_eq_zero]
  simp [Slot.mem_all]

theorem size_le : pool.size ≤ 16 := by
  apply Nat.le_trans List.countP_le_length
  rw [Slot.all, List.length_finRange]
  exact Nat.le_refl _

theorem freeSlot?_eq_none_iff_size : pool.freeSlot? = none ↔ pool.size = 16 := by
  have length : Slot.all.length = 16 := List.length_finRange
  rw [freeSlot?, size, ← length, List.find?_eq_none, List.countP_eq_length]
  simp only [Bool.not_eq_true, Option.isNone_eq_false_iff]

/-- The free slot that is found is the lowest one. -/
theorem freeSlot?_eq_some (found : pool.freeSlot? = some slot) :
    pool.slots.get slot = none ∧ ∀ lower < slot, (pool.slots.get lower).isSome := by
  obtain ⟨vacant, index, bound, rfl, lower⟩ := List.find?_eq_some_iff_getElem.mp found
  refine ⟨Option.isNone_iff_eq_none.mp vacant, fun other below => ?_⟩
  have known := lower other.val (by simpa [Slot.all, Fin.lt_def] using below)
  simpa [Slot.all] using known

theorem not_isLive_of_freeSlot? (found : pool.freeSlot? = some slot) :
    pool.isLive slot.id = false ∧
      ∀ other, pool.isLive other = false → slot.id.byte ≤ other.byte := by
  obtain ⟨vacant, lower⟩ := freeSlot?_eq_some found
  refine ⟨by rw [isLive_id, vacant]; rfl, fun other dead => ?_⟩
  have value : slot.id.byte.toNat = slot.val := by
    have := slot.isLt
    simp only [Slot.id, UInt8.toNat_ofNat', Layout.maxWindows] at *
    omega
  rw [UInt8.le_iff_toNat_le, value]
  -- a smaller id would name a lower slot, and those are all occupied
  by_contra below
  have bound : other.byte.toNat < Layout.maxWindows := by
    have := slot.isLt
    omega
  have named : other.slot? = some ⟨other.byte.toNat, bound⟩ := dif_pos bound
  rw [← Slot.id_of_slot? named, isLive_id, lower _ (Nat.lt_of_not_le below)] at dead
  cases dead

theorem allocate_fst (frame : Rect) (title : String) (style : WindowStyle) (flags : WindowFlags) :
    (pool.allocate frame title style flags).1 =
      match pool.freeSlot? with
      | none => .error .poolExhausted
      | some slot => .ok slot.id := by
  unfold allocate
  cases pool.freeSlot? <;> rfl

theorem map_id_filterMap {windows : SlotTable (Option Window)} {slots : List Slot}
    (each : ∀ slot ∈ slots, ∃ window, windows.get slot = some window ∧ window.id = slot.id) :
    (slots.filterMap windows.get).map (·.id) = slots.map Slot.id := by
  induction slots with
  | nil => rfl
  | cons slot rest ih =>
    obtain ⟨window, known, id⟩ := each slot List.mem_cons_self
    rw [List.filterMap_cons_some known, List.map_cons, List.map_cons, id,
      ih fun other mem => each other (List.mem_cons_of_mem _ mem)]

theorem Coherent.map_id_frontToBack (h : pool.Coherent) (sound : pool.Sound) :
    pool.frontToBack.map (·.id) = pool.order.frontToBack.map Slot.id := by
  apply map_id_filterMap
  intro slot mem
  obtain ⟨window, known⟩ := Option.isSome_iff_exists.mp ((h.mem_iff slot).mp mem)
  exact ⟨window, known, (sound slot window known).2⟩

/-- The order has every open window once. -/
theorem Listed.length_frontToBack (h : pool.Listed) :
    pool.order.frontToBack.length = pool.size := by
  rw [size, List.countP_eq_length_filter]
  apply List.Perm.length_eq
  have nodup : Slot.all.Nodup := List.nodup_finRange _
  rw [List.perm_ext_iff_of_nodup h.wellFormed.nodup (nodup.filter _)]
  intro slot
  rw [h.mem_iff, List.mem_filter]
  exact (and_iff_right slot.mem_all).symm

theorem activeId_eq_some_id : pool.activeId = some slot.id ↔ pool.active = some slot :=
  (Option.map_injective fun _ _ => Slot.id_injective).eq_iff (b := some slot)

theorem Coherent.isSome_activeId_iff (h : pool.Coherent) :
    pool.activeId.isSome = true ↔ pool.size ≠ 0 := by
  rw [ne_eq, size_eq_zero_iff, activeId, Option.isSome_map]
  constructor
  · intro active none
    obtain ⟨slot, active⟩ := Option.isSome_iff_exists.mp active
    have occupied := h.alive slot active
    rw [none slot] at occupied
    cases occupied
  · intro some
    by_contra idle
    exact some (h.awake (Option.not_isSome_iff_eq_none.mp idle))

theorem Coherent.consistent (h : pool.Coherent) (sound : pool.Sound) : pool.Consistent where
  ids_eq := h.map_id_frontToBack sound
  nodup := by
    rw [h.map_id_frontToBack sound]
    exact h.wellFormed.nodup.map fun _ _ => Slot.id_injective
  mem_iff id := by
    rw [h.map_id_frontToBack sound, List.mem_map, isLive_iff]
    constructor
    · rintro ⟨slot, mem, rfl⟩
      exact ⟨slot, slot.slot?_id, (h.mem_iff slot).mp mem⟩
    · rintro ⟨slot, named, occupied⟩
      exact ⟨slot, (h.mem_iff slot).mpr occupied, Slot.id_of_slot? named⟩
  backToFront_eq := by
    rw [backToFront, frontToBack, h.wellFormed.backToFront_eq, List.filterMap_reverse]
  own id live := by
    obtain ⟨slot, named, occupied⟩ := isLive_iff.mp live
    obtain ⟨window, known⟩ := Option.isSome_iff_exists.mp occupied
    exact ⟨slot, window, named, known,
      (sound slot window known).2.trans (Slot.id_of_slot? named)⟩
  vacant slot dead := by
    rwa [isLive_id, Option.isSome_eq_false_iff, Option.isNone_iff_eq_none] at dead
  length_eq := by
    have length := congrArg List.length (h.map_id_frontToBack sound)
    rw [List.length_map, List.length_map] at length
    rw [length, h.length_frontToBack]
  size_le := size_le
  active := h.isSome_activeId_iff
  alive id known := by
    obtain ⟨slot, active, rfl⟩ := Option.map_eq_some_iff.mp known
    rw [isLive_id]
    exact h.alive slot active
  highlighted window mem := by
    obtain ⟨slot, -, known⟩ := List.mem_filterMap.mp mem
    rw [h.lit slot window known, decide_eq_true_iff, (sound slot window known).2,
      activeId_eq_some_id]
  exhausted frame title style flags := by
    rw [allocate_fst, ← freeSlot?_eq_none_iff_size]
    cases pool.freeSlot? with
    | none => simp
    | some slot => simp
  lowest frame title style flags id opened := by
    rw [allocate_fst] at opened
    split at opened
    · cases opened
    · rename_i slot found
      cases opened
      exact not_isLive_of_freeSlot? found

/-! ## Any operations -/

/-- An operation of the pool. -/
inductive Operation where
  | edit (change : Edit)
  | clear

/-- The pool after an operation, whatever it answers. -/
def Operation.run (pool : Pool) : Operation → Pool
  | .edit change => change.run pool
  | .clear => pool.clear

theorem Operation.coherent (operation : Operation) (h : pool.Coherent) :
    (operation.run pool).Coherent := by
  cases operation with
  | edit change => exact change.coherent h
  | clear => exact coherent_empty

theorem Operation.sound (operation : Operation) (h : pool.Sound) : (operation.run pool).Sound := by
  cases operation with
  | edit change => exact change.sound h
  | clear => exact sound_empty

theorem coherent_run (operations : List Operation) (h : pool.Coherent) :
    (operations.foldl Operation.run pool).Coherent := by
  induction operations generalizing pool with
  | nil => exact h
  | cons operation rest ih => exact ih (operation.coherent h)

theorem sound_run (operations : List Operation) (h : pool.Sound) :
    (operations.foldl Operation.run pool).Sound := by
  induction operations generalizing pool with
  | nil => exact h
  | cons operation rest ih => exact ih (operation.sound h)

/-- Whatever is done to the pool, and whether it is done or refused: after every operation the
order, the slots, the active window and the highlights agree. -/
theorem consistent_run (operations : List Operation) :
    (operations.foldl Operation.run empty).Consistent :=
  (coherent_run operations coherent_empty).consistent (sound_run operations sound_empty)

/-! ## Any use -/

/-- What callers do with the pool: operations, and reports and updates of its damage. -/
inductive Action where
  | perform (operation : Operation)
  | invalidateMenuBar
  | endUpdate

/-- The pool after an action. -/
def Action.run (pool : Pool) : Action → Pool
  | .perform operation => operation.run pool
  | .invalidateMenuBar => { pool with damage := pool.damage.invalidateMenuBar }
  | .endUpdate => pool.endUpdate

theorem Action.coherent (action : Action) (h : pool.Coherent) : (action.run pool).Coherent := by
  cases action with
  | perform operation => exact operation.coherent h
  | invalidateMenuBar => exact h.of_same rfl rfl rfl
  | endUpdate => exact h.endUpdate

theorem Action.sound (action : Action) (h : pool.Sound) : (action.run pool).Sound := by
  cases action with
  | perform operation => exact operation.sound h
  | invalidateMenuBar => exact h.of_slots rfl
  | endUpdate => exact h.of_slots rfl

theorem Action.wellFormed (action : Action) (h : pool.order.WellFormed) :
    (action.run pool).order.WellFormed := by
  cases action with
  | perform operation =>
    cases operation with
    | edit change => exact change.wellFormed h
    | clear => exact .empty
  | invalidateMenuBar => exact h
  | endUpdate => exact h

/-- What callers do leads from one pool to the other. -/
def LeadsTo (pool pool' : Pool) : Prop :=
  ∃ actions : List Action, actions.foldl Action.run pool = pool'

namespace LeadsTo

variable {pool' pool'' : Pool}

theorem rfl : LeadsTo pool pool :=
  ⟨[], by rfl⟩

theorem trans (first : LeadsTo pool pool') (second : LeadsTo pool' pool'') :
    LeadsTo pool pool'' := by
  obtain ⟨actions, rfl⟩ := first
  obtain ⟨others, rfl⟩ := second
  exact ⟨actions ++ others, List.foldl_append⟩

theorem edit (change : Edit) : LeadsTo pool (change.run pool) :=
  ⟨[.perform (.edit change)], by rfl⟩

/-- What every action keeps outlives any use of the pool. -/
theorem keeps {I : Pool → Prop} (leads : LeadsTo pool pool')
    (step : ∀ (pool : Pool) (action : Action), I pool → I (action.run pool)) (h : I pool) :
    I pool' := by
  obtain ⟨actions, rfl⟩ := leads
  exact List.foldlRecOn actions Action.run h fun pool h action _ => step pool action h

theorem coherent (leads : LeadsTo pool pool') (h : pool.Coherent) : pool'.Coherent :=
  leads.keeps (fun _ action => action.coherent) h

theorem sound (leads : LeadsTo pool pool') (h : pool.Sound) : pool'.Sound :=
  leads.keeps (fun _ action => action.sound) h

theorem wellFormed (leads : LeadsTo pool pool') (h : pool.order.WellFormed) :
    pool'.order.WellFormed :=
  leads.keeps (I := fun pool => pool.order.WellFormed) (fun _ action => action.wellFormed) h

end LeadsTo

namespace Action

theorem coherent_run (actions : List Action) (h : pool.Coherent) :
    (actions.foldl run pool).Coherent :=
  LeadsTo.coherent ⟨actions, rfl⟩ h

theorem sound_run (actions : List Action) (h : pool.Sound) : (actions.foldl run pool).Sound :=
  LeadsTo.sound ⟨actions, rfl⟩ h

end Action

end Pool

end TwinDesk
