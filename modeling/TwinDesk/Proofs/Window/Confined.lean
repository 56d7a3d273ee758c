import TwinDesk.Proofs.Window.Pending

/-!
# Operations on one window

An operation on the windows is either refused, and then nothing has happened, or it changes the one
window that it is about. The others keep everything but the highlight, which moves with the activity,
and they keep their order among each other.

* `Pool.Confined` — a change of one window, seen from the others.
* `Pool.Named` — what becomes of an operation on a window that a caller names.
* `Pool.Edit.OneWindow`, `Pool.Edit.oneWindow` — what callers see of it, after any use of the pool.
-/

namespace TwinDesk

namespace Window

/-- All of a window but the highlight. -/
def unlit (window : Window) : Window :=
  { window with flags := window.flags.remove .highlighted }

theorem unlit_highlight (window : Window) :
    { window with flags := window.flags.insert .highlighted }.unlit = window.unlit := by
  simp only [unlit, WindowFlags.remove_insert]

theorem unlit_dim (window : Window) :
    { window with flags := window.flags.remove .highlighted }.unlit = window.unlit := by
  simp only [unlit, WindowFlags.remove_remove]

end Window

namespace Pool

variable {pool pool' pool'' : Pool} {slot other : Slot} {target : Option Slot} {window : Window}
  {id : WindowId}

/-! ## Changes of one window -/

/-- A change of the target, seen from the other windows: they stay as they are but for the
highlight, and in the same order. Without a target this is about all windows. -/
structure Confined (target : Option Slot) (pool pool' : Pool) : Prop where
  windows : ∀ other, some other ≠ target →
    (pool'.slots.get other).map Window.unlit = (pool.slots.get other).map Window.unlit
  order : pool'.order.frontToBack.filter (some · ≠ target) =
    pool.order.frontToBack.filter (some · ≠ target)

namespace Confined

theorem rfl : Confined target pool pool :=
  ⟨fun _ _ => by rfl, by rfl⟩

theorem trans (first : Confined target pool pool') (second : Confined target pool' pool'') :
    Confined target pool pool'' :=
  ⟨fun other ne => (second.windows other ne).trans (first.windows other ne),
    second.order.trans first.order⟩

theorem of_same (slots : pool'.slots = pool.slots) (order : pool'.order = pool.order) :
    Confined target pool pool' :=
  ⟨fun other _ => by rw [slots], by rw [order]⟩

theorem invalidate (rect : Rect) : Confined target pool (pool.invalidate rect) :=
  of_same (slots_invalidate rect) (order_invalidate rect)

theorem invalidateSlot : Confined target pool (pool.invalidateSlot slot) :=
  of_same slots_invalidateSlot order_invalidateSlot

/-- Anything may happen to the target. -/
theorem set (value : Option Window) :
    Confined (some slot) pool { pool with slots := pool.slots.set slot value } where
  windows other ne := by
    rw [SlotTable.get_set_of_ne _ _ fun same => ne (congrArg some same)]
  order := by rfl

/-- The highlight may come and go anywhere. -/
theorem relight {f : Window → Window} (keeps : ∀ window, (f window).unlit = window.unlit) :
    Confined target pool (pool.modify slot f) where
  windows other _ := by
    by_cases same : other = slot
    · rw [same, get_modify_self, Option.map_map]
      congr 1
      exact funext keeps
    · rw [get_modify_of_ne same]
  order := by rfl

theorem highlight : Confined target pool (pool.addFlags slot .highlighted) :=
  relight Window.unlit_highlight

theorem dim : Confined target pool (pool.dropFlags slot .highlighted) :=
  relight Window.unlit_dim

theorem activate : Confined target pool (pool.activate slot) := by
  have others : Confined target pool (pool.deactivateOthers slot) := by
    unfold deactivateOthers
    split
    · split
      · exact rfl
      · exact dim.trans invalidateSlot
    · exact rfl
  exact (others.trans (of_same (by rfl) (by rfl))).trans highlight

/-! ### The target moves in the order -/

theorem filter_erase {slots : List Slot} (nodup : slots.Nodup) :
    (slots.erase slot).filter (some · ≠ some slot) = slots.filter (some · ≠ some slot) := by
  rw [nodup.erase_eq_filter, List.filter_filter]
  exact List.filter_congr fun other _ => by simp

theorem unlink (wf : pool.order.WellFormed) :
    Confined (some slot) pool { pool with order := pool.order.unlink slot } := by
  obtain ⟨slots, lists⟩ := wf
  refine ⟨fun _ _ => by rfl, ?_⟩
  dsimp only
  rw [(lists.unlink slot).frontToBack_eq, lists.frontToBack_eq, filter_erase lists.nodup]

theorem pushTop (wf : pool.order.WellFormed) :
    Confined (some slot) pool { pool with order := pool.order.pushTop slot } := by
  obtain ⟨slots, lists⟩ := wf
  refine ⟨fun _ _ => by rfl, ?_⟩
  dsimp only
  rw [(lists.pushTop slot).frontToBack_eq, lists.frontToBack_eq,
    List.filter_cons_of_neg (by simp), filter_erase lists.nodup]

theorem pushBottom (wf : pool.order.WellFormed) :
    Confined (some slot) pool { pool with order := pool.order.pushBottom slot } := by
  obtain ⟨slots, lists⟩ := wf
  refine ⟨fun _ _ => by rfl, ?_⟩
  dsimp only
  rw [(lists.pushBottom slot).frontToBack_eq, lists.frontToBack_eq, List.filter_append,
    List.filter_cons_of_neg (by simp), List.filter_nil, List.append_nil, filter_erase lists.nodup]

/-- What callers see of the windows. -/
theorem get? (h : Confined target pool pool') (ne : some id ≠ target.map Slot.id) :
    (pool'.get? id).map Window.unlit = (pool.get? id).map Window.unlit := by
  rw [get?_eq, get?_eq]
  cases named : id.slot? with
  | none => rfl
  | some slot =>
    apply h.windows slot
    rintro rfl
    exact ne (congrArg some (Slot.id_of_slot? named).symm)

/-- What callers see of the order. -/
theorem ids (h : Confined target pool pool') (before : pool.Consistent)
    (after : pool'.Consistent) :
    (pool'.frontToBack.map (·.id)).filter (some · ≠ target.map Slot.id) =
      (pool.frontToBack.map (·.id)).filter (some · ≠ target.map Slot.id) := by
  have named : (fun slot : Slot => decide (some slot.id ≠ target.map Slot.id)) =
      fun slot => decide (some slot ≠ target) := by
    funext slot
    have injective := Option.map_injective fun _ _ => Slot.id_injective
    exact decide_eq_decide.mpr (not_congr (injective.eq_iff (a := some slot)))
  rw [before.ids_eq, after.ids_eq, List.filter_map, List.filter_map]
  show (pool'.order.frontToBack.filter fun slot => decide (some slot.id ≠ _)).map _ =
    (pool.order.frontToBack.filter fun slot => decide (some slot.id ≠ _)).map _
  rw [named, h.order]

end Confined

/-! ## Operations on a window that is named -/

/-- What becomes of an operation on the window of an id: it is refused where there is none, and
otherwise it changes that window. Which window is active may change if the operation `moves` that. -/
inductive Named (pool : Pool) (id : WindowId) (moves : Prop) : Outcome Unit → Prop where
  | refused (dead : pool.find? id = none) : Named pool id moves (.error .noSuchWindow, pool)
  | done {slot : Slot} {window : Window} {pool' : Pool} (found : pool.find? id = some (slot, window))
    (confined : Confined (some slot) pool pool') (active : moves ∨ pool'.active = pool.active) :
    Named pool id moves (.ok (), pool')

namespace Named

theorem free (wf : pool.order.WellFormed) (id : WindowId) :
    Named pool id (pool.activeId = some id) (pool.free id) := by
  unfold Pool.free
  split
  · exact .refused ‹_›
  · rename_i slot window found
    have named := Slot.id_of_slot? (find?_eq_some_iff.mp found).1
    dsimp only
    have marking : Confined (some slot) pool (pool.invalidate window.frame) := .invalidate _
    have wf : (pool.invalidate window.frame).order.WellFormed := wellFormed_invalidate wf _
    have active : (pool.invalidate window.frame).active = pool.active := active_invalidate _
    generalize pool.invalidate window.frame = marked at marking wf active ⊢
    let closed : Pool := { marked with
      order := marked.order.unlink slot
      slots := marked.slots.set slot none }
    have gone : Confined (some slot) pool closed :=
      (marking.trans (Confined.unlink wf)).trans (Confined.set none)
    have passed : Confined (some slot) pool { closed with active := closed.order.front } :=
      gone.trans (.of_same rfl rfl)
    split
    · rename_i first
      have moves : pool.activeId = some id := by
        rw [activeId, ← active, first, ← named]
        rfl
      split
      · exact .done found ((passed.trans .highlight).trans .invalidateSlot) (.inl moves)
      · exact .done found passed (.inl moves)
    · exact .done found gone (.inr active)

theorem select (wf : pool.order.WellFormed) (id : WindowId) :
    Named pool id True (pool.select id) := by
  unfold Pool.select
  split
  · exact .refused ‹_›
  · rename_i slot window found
    split
    · exact .done found .rfl (.inl trivial)
    · have raised : Confined (some slot) pool { pool with order := pool.order.pushTop slot } :=
        .pushTop wf
      exact .done found ((raised.trans .activate).trans .invalidateSlot) (.inl trivial)

theorem sendToBack (wf : pool.order.WellFormed) (id : WindowId) :
    Named pool id False (pool.sendToBack id) := by
  unfold Pool.sendToBack
  split
  · exact .refused ‹_›
  · rename_i slot window found
    split
    · exact .done found .rfl (.inr rfl)
    · have lowered :
          Confined (some slot) pool { pool with order := pool.order.pushBottom slot } :=
        .pushBottom wf
      exact .done found (lowered.trans .invalidateSlot) (.inr active_invalidateSlot)

/-- The window is changed in place, and a part of the screen is reported. -/
theorem modify (found : pool.find? id = some (slot, window)) (f : Window → Window) (rect : Rect) :
    Named pool id False (.ok (), (pool.modify slot f).invalidate rect) :=
  .done found ((Confined.set _).trans (.invalidate rect)) (.inr (active_invalidate rect))

theorem reveal (id : WindowId) : Named pool id False (pool.reveal id) := by
  unfold Pool.reveal
  split
  · exact .refused ‹_›
  · rename_i slot window found
    split
    · exact .done found .rfl (.inr rfl)
    · exact modify found _ _

theorem hide (id : WindowId) : Named pool id False (pool.hide id) := by
  unfold Pool.hide
  split
  · exact .refused ‹_›
  · rename_i slot window found
    split
    · exact modify found _ _
    · exact .done found .rfl (.inr rfl)

theorem reframe (id : WindowId) (frame : Rect → Rect) :
    Named pool id False (pool.reframe id frame) := by
  unfold Pool.reframe
  split
  · exact .refused ‹_›
  · rename_i slot window found
    refine .done found (((Confined.set _).trans (.invalidate _)).trans (.invalidate _)) (.inr ?_)
    exact (active_invalidate _).trans (active_invalidate _)

theorem setTitle (id : WindowId) (title : String) :
    Named pool id False (pool.setTitle id title) := by
  unfold Pool.setTitle
  split
  · exact .refused ‹_›
  · rename_i slot window found
    exact modify found _ _

theorem invalidateWindow (id : WindowId) : Named pool id False (pool.invalidateWindow id) := by
  unfold Pool.invalidateWindow
  split
  · exact .refused ‹_›
  · rename_i slot window found
    exact .done found (.invalidate _) (.inr (active_invalidate _))

end Named

/-! ## Any operation -/

/-- What becomes of an operation: it is refused, or it changes its target, if it has one. -/
inductive Atomic (pool : Pool) (moves : Prop) :
    Except DesktopError (Option WindowId) → Pool → Prop where
  | refused (error : DesktopError) : Atomic pool moves (.error error) pool
  | done (target : Option Slot) {pool' : Pool} (confined : Confined target pool pool')
    (active : moves ∨ pool'.active = pool.active) :
    Atomic pool moves (.ok (target.map Slot.id)) pool'

namespace Atomic

variable {moves : Prop} {error : DesktopError} {answer : Except DesktopError (Option WindowId)}
  {changed : Option WindowId}

theorem eq_of_error (h : Atomic pool moves (.error error) pool') : pool' = pool := by
  cases h
  rfl

theorem confined (h : Atomic pool moves (.ok changed) pool') :
    ∃ target : Option Slot, target.map Slot.id = changed ∧ Confined target pool pool' := by
  cases h with
  | done target confined _ => exact ⟨target, by rfl, confined⟩

theorem moves_of_ne (h : Atomic pool moves answer pool') (ne : pool'.activeId ≠ pool.activeId) :
    moves := by
  cases h with
  | refused => exact absurd rfl ne
  | done _ _ active =>
    apply active.resolve_right
    intro same
    rw [activeId, activeId, same] at ne
    exact ne rfl

end Atomic

/-- What an operation on the window of an id tells of its window. -/
def answerOn (id : WindowId) (outcome : Outcome Unit) : Except DesktopError (Option WindowId) :=
  outcome.1.map fun _ => some id

theorem Named.atomic {moves : Prop} {outcome : Outcome Unit} (h : Named pool id moves outcome) :
    Atomic pool moves (answerOn id outcome) outcome.2 := by
  cases h with
  | refused => exact .refused _
  | done found confined active =>
    rw [← Slot.id_of_slot? (find?_eq_some_iff.mp found).1]
    exact .done _ confined active

theorem Named.confined {moves : Prop} {outcome : Outcome Unit}
    (h : Named pool slot.id moves outcome) : Confined (some slot) pool outcome.2 := by
  cases h with
  | refused => exact .rfl
  | done found confined _ =>
    cases slot.slot?_id.symm.trans (find?_eq_some_iff.mp found).1
    exact confined

theorem Named.error_iff {moves : Prop} {outcome : Outcome Unit} (h : Named pool id moves outcome) :
    (∃ error, answerOn id outcome = .error error) ↔ pool.isLive id = false := by
  rw [isLive]
  cases h with
  | refused dead =>
    rw [dead]
    exact iff_of_true ⟨_, rfl⟩ rfl
  | done found =>
    rw [found]
    refine iff_of_false ?_ Bool.noConfusion
    rintro ⟨error, refused⟩
    cases refused

theorem atomic_allocate (wf : pool.order.WellFormed) (frame : Rect) (title : String)
    (style : WindowStyle) (flags : WindowFlags) :
    Atomic pool True ((pool.allocate frame title style flags).1.map some)
      (pool.allocate frame title style flags).2 := by
  unfold allocate
  split
  · exact .refused _
  · rename_i slot found
    dsimp only
    generalize Window.create slot.id frame title style flags = window
    let filled : Pool := { pool with slots := pool.slots.set slot (some window) }
    let opened : Pool := { filled with order := filled.order.pushTop slot }
    have confined : Confined (some slot) pool opened := (Confined.set _).trans (Confined.pushTop wf)
    have active : Confined (some slot) pool (opened.activate slot) := confined.trans .activate
    split
    · exact .done (some slot) (active.trans .invalidateSlot) (.inl trivial)
    · exact .done (some slot) active (.inl trivial)

namespace Edit

/-- What an operation answers: the window that it has changed, if it is about one. -/
def answer (pool : Pool) : Edit → Except DesktopError (Option WindowId)
  | allocate frame title style flags => (pool.allocate frame title style flags).1.map some
  | free id => answerOn id (pool.free id)
  | select id => answerOn id (pool.select id)
  | sendToBack id => answerOn id (pool.sendToBack id)
  | reveal id => answerOn id (pool.reveal id)
  | hide id => answerOn id (pool.hide id)
  | moveTo id x y => answerOn id (pool.moveTo id x y)
  | resize id width height => answerOn id (pool.resize id width height)
  | setTitle id title => answerOn id (pool.setTitle id title)
  | invalidate _ => .ok none
  | invalidateWindow id => answerOn id (pool.invalidateWindow id)

/-- The window that the caller names. -/
def named? : Edit → Option WindowId
  | allocate .. | invalidate _ => none
  | free id | select id | sendToBack id | reveal id | hide id | moveTo id _ _ | resize id _ _
  | setTitle id _ | invalidateWindow id => some id

/-- The operations that choose the active window: opening one, selecting one, and closing the one
that is active. -/
def MovesActivity (pool : Pool) : Edit → Prop
  | allocate .. | select _ => True
  | free id => pool.activeId = some id
  | _ => False

theorem atomic (edit : Edit) (wf : pool.order.WellFormed) :
    Atomic pool (edit.MovesActivity pool) (edit.answer pool) (edit.run pool) := by
  cases edit with
  | allocate frame title style flags => exact atomic_allocate wf frame title style flags
  | free id => exact (Named.free wf id).atomic
  | select id => exact (Named.select wf id).atomic
  | sendToBack id => exact (Named.sendToBack wf id).atomic
  | reveal id => exact (Named.reveal id).atomic
  | hide id => exact (Named.hide id).atomic
  | moveTo id x y => exact (Named.reframe id _).atomic
  | resize id width height => exact (Named.reframe id _).atomic
  | setTitle id title => exact (Named.setTitle id title).atomic
  | invalidate rect => exact .done none (.invalidate rect) (.inr (active_invalidate rect))
  | invalidateWindow id => exact (Named.invalidateWindow id).atomic

theorem error_iff (edit : Edit) (wf : pool.order.WellFormed) (named : edit.named? = some id) :
    (∃ error, edit.answer pool = .error error) ↔ pool.isLive id = false := by
  cases edit with
  | allocate | invalidate => cases named
  | free => cases named; exact (Named.free wf id).error_iff
  | select => cases named; exact (Named.select wf id).error_iff
  | sendToBack => cases named; exact (Named.sendToBack wf id).error_iff
  | reveal => cases named; exact (Named.reveal id).error_iff
  | hide => cases named; exact (Named.hide id).error_iff
  | moveTo => cases named; exact (Named.reframe id _).error_iff
  | resize => cases named; exact (Named.reframe id _).error_iff
  | setTitle => cases named; exact (Named.setTitle id _).error_iff
  | invalidateWindow => cases named; exact (Named.invalidateWindow id).error_iff

end Edit

/-! ### What callers see -/

/-- A window is highlighted if it is the active one. -/
theorem Coherent.isActive_eq (h : pool.Coherent) (known : pool.get? id = some window) :
    window.isActive = decide (pool.activeId = some id) := by
  obtain ⟨slot, named, known⟩ := get?_eq_some_iff.mp known
  rw [h.lit slot window known, decide_eq_decide, ← Slot.id_of_slot? named, activeId_eq_some_id]

namespace Edit

/-- An operation is refused without an effect, or is about one window. -/
structure OneWindow (edit : Edit) (pool : Pool) : Prop where
  /-- A refused operation changes nothing, not even the damage. -/
  refused : ∀ error, edit.answer pool = .error error → edit.run pool = pool
  /-- An id that a caller names, any byte, is refused unless it is that of a window. -/
  refused_iff : ∀ id, edit.named? = some id →
    ((∃ error, edit.answer pool = .error error) ↔ pool.isLive id = false)
  /-- Other windows keep everything but the highlight. -/
  windows : ∀ target, edit.answer pool = .ok target → ∀ id, some id ≠ target →
    ((edit.run pool).get? id).map Window.unlit = (pool.get? id).map Window.unlit
  /-- Other windows keep their order. -/
  order : ∀ target, edit.answer pool = .ok target →
    ((edit.run pool).frontToBack.map (·.id)).filter (some · ≠ target) =
      (pool.frontToBack.map (·.id)).filter (some · ≠ target)
  /-- Only the windows that were or are active change their highlight. -/
  highlights : ∀ id window window', pool.get? id = some window →
    (edit.run pool).get? id = some window' → window'.isActive ≠ window.isActive →
      pool.activeId = some id ∨ (edit.run pool).activeId = some id
  active : (edit.run pool).activeId ≠ pool.activeId → edit.MovesActivity pool

theorem oneWindow (edit : Edit) (coherent : pool.Coherent) (sound : pool.Sound) :
    edit.OneWindow pool := by
  have coherent' : (edit.run pool).Coherent := edit.coherent coherent
  have before : pool.Consistent := coherent.consistent sound
  have after : (edit.run pool).Consistent := coherent'.consistent (edit.sound sound)
  have atomic : Atomic pool (edit.MovesActivity pool) (edit.answer pool) (edit.run pool) :=
    edit.atomic coherent.wellFormed
  constructor
  case refused =>
    intro error refused
    rw [refused] at atomic
    exact atomic.eq_of_error
  case refused_iff =>
    exact fun id => edit.error_iff coherent.wellFormed
  case windows =>
    intro target done id ne
    rw [done] at atomic
    obtain ⟨slot, rfl, confined⟩ := atomic.confined
    exact confined.get? ne
  case order =>
    intro target done
    rw [done] at atomic
    obtain ⟨slot, rfl, confined⟩ := atomic.confined
    exact confined.ids before after
  case highlights =>
    intro id window window' known known' changed
    rw [coherent.isActive_eq known, coherent'.isActive_eq known'] at changed
    by_contra idle
    rw [not_or] at idle
    rw [decide_eq_false idle.1, decide_eq_false idle.2] at changed
    exact changed rfl
  case active =>
    exact atomic.moves_of_ne

end Edit

/-- After any use of the pool: an operation is refused without an effect, or is about one window. -/
theorem refused_or_oneWindow (actions : List Action) (edit : Edit) :
    edit.OneWindow (actions.foldl Action.run empty) :=
  edit.oneWindow (Action.coherent_run actions coherent_empty) (Action.sound_run actions sound_empty)

end Pool

end TwinDesk
