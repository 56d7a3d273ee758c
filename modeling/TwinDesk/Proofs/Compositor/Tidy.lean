import TwinDesk.Proofs.Compositor.Repaint
import TwinDesk.Proofs.Window.Coherent

/-!
# Contents of open windows

A content belongs to a window, and goes when the window is closed: no slot without a window has a
content. Input that is passed to an open window is never refused.

* `Compositor.Tidy` — the invariant, together with coherent windows.
* `Compositor.Still` — changes that windows and contents take no part in.
* `Compositor.Tidy.openWindow`, `Compositor.Tidy.closeWindow`, `Compositor.Tidy.attach`,
  `Compositor.Tidy.forward` — the operations keep the invariant.
-/

namespace TwinDesk

namespace Pool

variable {pool : Pool} {id : WindowId}

/-! ## Answers -/

theorem find?_of_isLive (live : pool.isLive id = true) :
    ∃ slot window, pool.find? id = some (slot, window) := by
  obtain ⟨⟨slot, window⟩, found⟩ := Option.isSome_iff_exists.mp live
  exact ⟨slot, window, found⟩

/-- An open window can be selected. -/
theorem select_fst (live : pool.isLive id = true) : (pool.select id).1 = .ok () := by
  obtain ⟨slot, window, found⟩ := find?_of_isLive live
  rw [select, found]
  dsimp only
  split <;> rfl

/-- An open window can be moved. -/
theorem reframe_fst (live : pool.isLive id = true) (frame : Rect → Rect) :
    (pool.reframe id frame).1 = .ok () := by
  obtain ⟨slot, window, found⟩ := find?_of_isLive live
  rw [reframe, found]

/-- An open window can be closed. -/
theorem free_fst (live : pool.isLive id = true) : (pool.free id).1 = .ok () := by
  obtain ⟨slot, window, found⟩ := find?_of_isLive live
  rw [free, found]
  dsimp only
  split
  · split <;> rfl
  · rfl

/-- Where nothing can be closed, nothing changes. -/
theorem eq_of_free_error {pool' : Pool} {e : DesktopError} (eq : pool.free id = (.error e, pool')) :
    pool' = pool := by
  unfold free at eq
  split at eq
  · cases eq
    rfl
  · dsimp only at eq
    split at eq
    · split at eq <;> cases eq
    · cases eq

/-- Whether windows are open can be told slot by slot. -/
theorem isLive_congr {pool' : Pool}
    (same : ∀ slot, (pool'.slots.get slot).isSome = (pool.slots.get slot).isSome) :
    pool'.isLive id = pool.isLive id := by
  rw [Bool.eq_iff_iff, isLive_iff, isLive_iff]
  simp only [same]

/-- What is hit is open. -/
theorem isLive_of_hitTest (sound : pool.Sound) {p : Point} {part : Part}
    (hit : pool.hitTest p = ⟨part, some id⟩) : pool.isLive id = true := by
  unfold hitTest at hit
  split at hit
  · cases hit
  · split at hit
    · rename_i window found
      cases hit
      have mem : window ∈ pool.frontToBack := List.mem_of_find?_eq_some found
      obtain ⟨slot, -, known⟩ := List.mem_filterMap.mp mem
      rw [(sound slot window known).2, isLive_id, known]
      rfl
    · cases hit

end Pool

namespace Compositor

variable {P : Type} {c c' c'' : Compositor P}

/-! ## Changes elsewhere -/

/-- Windows and contents stay as they are, up to the damage. -/
structure Still (c c' : Compositor P) : Prop where
  slots : c'.windows.slots = c.windows.slots
  order : c'.windows.order = c.windows.order
  active : c'.windows.active = c.windows.active
  contents : c'.contents = c.contents

theorem Still.trans (first : Still c c') (second : Still c' c'') : Still c c'' where
  slots := second.slots.trans first.slots
  order := second.order.trans first.order
  active := second.active.trans first.active
  contents := second.contents.trans first.contents

theorem hitTest_of_still (still : Still c c') (p : Point) :
    c'.windows.hitTest p = c.windows.hitTest p := by
  unfold Pool.hitTest Pool.windowAt? Pool.frontToBack
  rw [still.slots, still.order]

theorem still_invalidate (rect : Rect) : Still c (c.invalidate rect) where
  slots := Pool.slots_invalidate rect
  order := Pool.order_invalidate rect
  active := Pool.active_invalidate rect
  contents := rfl

theorem still_moveCursor (p : Point) : Still c (c.moveCursor p) := by
  have moved : Still c { c with cursor := p } := ⟨rfl, rfl, rfl, rfl⟩
  exact (moved.trans (still_invalidate _)).trans (still_invalidate _)

theorem still_trackMenu {α : Type} {result : α} {step : MenuBar → Checked (α × MenuBar)}
    (eq : c.trackMenu step = .ok (result, c')) : Still c c' := by
  obtain ⟨before, -, eq⟩ := Checked.bind_eq_ok_iff.mp eq
  obtain ⟨⟨result', menus⟩, -, eq⟩ := Checked.bind_eq_ok_iff.mp eq
  obtain ⟨after, -, eq⟩ := Checked.bind_eq_ok_iff.mp eq
  cases eq
  exact ⟨rfl, rfl, rfl, rfl⟩

theorem still_menuMouseMove {p : Point} (eq : c.menuMouseMove p = .ok c') : Still c c' := by
  obtain ⟨⟨⟨⟩, moved⟩, tracked, eq⟩ := Checked.bind_eq_ok_iff.mp eq
  cases eq
  exact still_trackMenu tracked

/-! ## The invariant -/

/-- The windows are as they should be, and no slot without a window has a content. -/
structure Tidy (c : Compositor P) : Prop where
  sound : c.windows.Sound
  windows : c.windows.Coherent
  contents : ∀ slot, (c.contents.get slot).isSome → (c.windows.slots.get slot).isSome

theorem tidy_initial : (initial : Compositor P).Tidy where
  sound := Pool.sound_empty.invalidate _
  windows := Pool.coherent_empty.invalidate _
  contents slot attached := by
    have vacant : ((initial : Compositor P).contents.get slot) = none :=
      SlotTable.get_replicate _ slot
    rw [vacant] at attached
    cases attached

namespace Tidy

theorem of_still (h : c.Tidy) (still : Still c c') : c'.Tidy where
  sound := h.sound.of_slots still.slots
  windows := h.windows.of_same still.slots still.order still.active
  contents slot attached := by
    rw [still.contents] at attached
    rw [still.slots]
    exact h.contents slot attached

theorem invalidate (h : c.Tidy) (rect : Rect) : (c.invalidate rect).Tidy :=
  h.of_still (still_invalidate rect)

/-- An operation on the windows that closes none. -/
theorem withWindows (h : c.Tidy) {windows : Pool} (sound : windows.Sound)
    (coherent : windows.Coherent)
    (keeps : ∀ slot, (c.windows.slots.get slot).isSome → (windows.slots.get slot).isSome) :
    { c with windows }.Tidy where
  sound := sound
  windows := coherent
  contents slot attached := keeps slot (h.contents slot attached)

/-- A content for an open window. -/
theorem withContent (h : c.Tidy) {slot : Slot} {window : Window}
    (known : c.windows.slots.get slot = some window) (content : P) :
    { c with contents := c.contents.set slot (some content) }.Tidy where
  sound := h.sound
  windows := h.windows
  contents other attached := by
    by_cases same : other = slot
    · rw [same, known]
      rfl
    · apply h.contents other
      rwa [SlotTable.get_set_of_ne _ _ same] at attached

theorem openWindow (h : c.Tidy) (frame : Rect) (title : String) (style : WindowStyle)
    (flags : WindowFlags) : (c.openWindow frame title style flags).2.Tidy :=
  h.withWindows (h.sound.allocate frame title style flags)
    (h.windows.allocate frame title style flags) fun _ => Pool.isSome_get_allocate _ _ _ _

theorem select (h : c.Tidy) (id : WindowId) :
    { c with windows := (c.windows.select id).2 }.Tidy := by
  refine h.withWindows (h.sound.select id) (h.windows.select id) fun slot occupied => ?_
  rwa [Pool.isSome_get_select]

theorem reframe (h : c.Tidy) (id : WindowId) (frame : Rect → Rect) :
    { c with windows := (c.windows.reframe id frame).2 }.Tidy := by
  refine h.withWindows (h.sound.reframe id frame) (h.windows.reframe id frame) ?_
  intro slot occupied
  rwa [Pool.isSome_get_reframe]

/-- The content goes with the window. -/
theorem closeWindow (h : c.Tidy) (id : WindowId) : (c.closeWindow id).2.Tidy := by
  have sound := h.sound.free id
  have coherent := h.windows.free id
  have others {slot : Slot} (ne : slot.id ≠ id) :
      ((c.windows.free id).2.slots.get slot).isSome = (c.windows.slots.get slot).isSome :=
    Pool.isSome_get_free ne
  unfold Compositor.closeWindow
  rcases freed : c.windows.free id with ⟨e | ⟨⟨⟩⟩, windows⟩
  · rw [Pool.eq_of_free_error freed]
    exact h
  · rw [freed] at sound coherent others
    cases named : id.slot? with
    | none =>
      refine h.withWindows sound coherent fun slot occupied => ?_
      rw [others]
      · exact occupied
      · rintro rfl
        cases named.symm.trans slot.slot?_id
    | some closed =>
      refine ⟨sound, coherent, fun slot attached => ?_⟩
      have attached : ((c.contents.set closed none).get slot).isSome := attached
      have ne : slot ≠ closed := by
        rintro rfl
        rw [SlotTable.get_set_self] at attached
        cases attached
      rw [SlotTable.get_set_of_ne _ _ ne] at attached
      have ne' : slot.id ≠ id := by
        rw [← Slot.id_of_slot? named]
        exact fun same => ne (Slot.id_injective same)
      rw [others ne']
      exact h.contents slot attached

theorem attach (h : c.Tidy) (id : WindowId) (content : P) : (c.attach id content).2.Tidy := by
  unfold Compositor.attach
  split
  · exact h
  · rename_i slot window found
    exact (h.withContent (Pool.find?_eq_some_iff.mp found).2 content).invalidate _

theorem forward (h : c.Tidy) {id : WindowId} {input : P → Window → Checked (P × Bool)}
    {result : Except DesktopError Bool} (eq : c.forward id input = .ok (result, c')) :
    c'.Tidy := by
  unfold Compositor.forward at eq
  split at eq
  · cases eq
    exact h
  · rename_i slot window found
    split at eq
    · cases eq
      exact h
    · obtain ⟨⟨content, changed⟩, -, eq⟩ := Checked.bind_eq_ok_iff.mp eq
      cases eq
      have handled := h.withContent (Pool.find?_eq_some_iff.mp found).2 content
      cases changed with
      | false => exact handled
      | true => exact handled.invalidate _

end Tidy

/-! ### Input -/

theorem slots_attach (id : WindowId) (content : P) :
    (c.attach id content).2.windows.slots = c.windows.slots := by
  unfold attach
  split
  · rfl
  · exact Pool.slots_invalidate _

/-- Input leaves the windows as they are, up to the damage. -/
theorem slots_forward {id : WindowId} {input : P → Window → Checked (P × Bool)}
    {result : Except DesktopError Bool} (eq : c.forward id input = .ok (result, c')) :
    c'.windows.slots = c.windows.slots := by
  unfold forward at eq
  split at eq
  · cases eq
    rfl
  · split at eq
    · cases eq
      rfl
    · obtain ⟨⟨content, changed⟩, -, eq⟩ := Checked.bind_eq_ok_iff.mp eq
      cases eq
      cases changed with
      | false => rfl
      | true => exact Pool.slots_invalidate _

/-- An open window accepts input. -/
theorem forward_ok {id : WindowId} (live : c.windows.isLive id = true)
    {input : P → Window → Checked (P × Bool)} {result : Except DesktopError Bool}
    (eq : c.forward id input = .ok (result, c')) : ∃ changed, result = .ok changed := by
  obtain ⟨slot, window, found⟩ := Pool.find?_of_isLive live
  rw [forward, found] at eq
  dsimp only at eq
  split at eq
  · cases eq
    exact ⟨false, rfl⟩
  · obtain ⟨⟨content, changed⟩, -, eq⟩ := Checked.bind_eq_ok_iff.mp eq
    cases eq
    exact ⟨changed, rfl⟩

/-- An open window can be closed. -/
theorem closeWindow_fst {id : WindowId} (live : c.windows.isLive id = true) :
    (c.closeWindow id).1 = .ok () := by
  have answer := Pool.free_fst live
  unfold closeWindow
  split
  · rfl
  · rename_i result windows _ freed _
    rw [freed] at answer
    exact answer

/-- Closing a window opens none. -/
theorem isSome_of_closeWindow {id : WindowId} {slot : Slot}
    (occupied : ((c.closeWindow id).2.windows.slots.get slot).isSome) :
    (c.windows.slots.get slot).isSome := by
  rw [windows_closeWindow] at occupied
  exact Pool.isSome_of_free occupied

/-- Closing a window leaves the others open. -/
theorem isLive_closeWindow {id other : WindowId} (ne : other ≠ id)
    (live : c.windows.isLive other = true) :
    (c.closeWindow id).2.windows.isLive other = true := by
  obtain ⟨slot, named, occupied⟩ := Pool.isLive_iff.mp live
  obtain rfl := Slot.id_of_slot? named
  rw [windows_closeWindow, Pool.isLive_id, Pool.isSome_get_free ne]
  exact occupied

/-! ### Any edit -/

theorem Still.coherent (h : c.windows.Coherent) (still : Still c c') : c'.windows.Coherent :=
  h.of_same still.slots still.order still.active

/-- Slots, order, activity and highlights agree after any edit. -/
theorem Edit.coherent [WindowContent P] (h : c.windows.Coherent) (e : Edit P)
    (edited : c.edit e = .ok c') : c'.windows.Coherent :=
  (e.leadsTo edited).coherent h

end Compositor

end TwinDesk
