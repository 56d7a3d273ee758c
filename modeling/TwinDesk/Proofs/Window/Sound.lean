import TwinDesk.Proofs.Geometry.Bounds
import TwinDesk.Proofs.Window.Titles
import TwinDesk.Window.Hit

/-!
# Sound windows

What holds of every window in the pool, whatever was done to the pool before: its frame lies on the
screen, its parts are where frame and style put them, its title is short, and its id is its slot.
The parts of such a window are never far off the screen.

* `Window.Sound`, `Window.sound_create` — the invariant, and new windows.
* `Pool.Sound` — the invariant of the pool; every operation keeps it.
-/

namespace TwinDesk

/-! ## Windows -/

namespace Rect

theorem OnScreen.inset {frame : Rect} (h : frame.OnScreen) : frame.inset.Within 321 := by
  obtain ⟨left, top, right, bottom⟩ := h
  have border : Layout.borderWidth.toInt = 1 := rfl
  constructor
  · simp only [Coord.Within, Rect.inset, Coord.toInt_addSat, border]
    omega
  · simp only [Coord.Within, Rect.inset, Coord.toInt_addSat, border]
    omega
  · simp only [Coord.Within, Rect.inset, Coord.toInt_subSat, border]
    omega
  · simp only [Coord.Within, Rect.inset, Coord.toInt_subSat, border]
    omega

end Rect

/-- What holds of a window at all times. -/
structure Window.Sound (window : Window) : Prop where
  frame : window.frame.OnScreen
  decoration : window.decoration = .ofFrame window.frame window.style
  title : window.title.text.length ≤ 31

namespace Window

variable {window : Window}

theorem sound_withFrame (title : window.title.text.length ≤ 31) (frame : Rect) :
    (window.withFrame frame).Sound :=
  ⟨frame.onScreen_clipTo, rfl, title⟩

theorem sound_create (id : WindowId) (frame : Rect) (title : String) (style : WindowStyle)
    (flags : WindowFlags) : (create id frame title style flags).Sound := by
  unfold create
  apply sound_withFrame
  exact Title.length_ofText title

namespace Sound

theorem withFlags (h : window.Sound) (flags : WindowFlags) : { window with flags }.Sound :=
  ⟨h.frame, h.decoration, h.title⟩

theorem withTitle (h : window.Sound) (text : String) :
    { window with title := .ofText text }.Sound :=
  ⟨h.frame, h.decoration, Title.length_ofText text⟩

/-! ### The parts of a window -/

/-- The lower edge of a title bar in a frame on the screen. -/
theorem barBottom {frame : Rect} (h : frame.OnScreen) :
    (min (frame.inset.top.addSat Layout.titleBarHeight) frame.inset.bottom).toInt =
      min (frame.top.toInt + 19) (frame.bottom.toInt - 1) := by
  obtain ⟨-, top, -, bottom⟩ := h
  have border : Layout.borderWidth.toInt = 1 := rfl
  have bar : Layout.titleBarHeight.toInt = 18 := rfl
  simp only [Rect.inset, Coord.toInt_min, Coord.toInt_addSat, Coord.toInt_subSat, border, bar]
  omega

theorem titleBar (h : window.Sound) : window.titleBar.Within 321 := by
  have inner := h.frame.inset
  have bottom := barBottom h.frame
  rw [Window.titleBar, h.decoration, Decoration.ofFrame]
  split
  · refine ⟨inner.left, inner.top, inner.right, ?_⟩
    have := h.frame.top
    have := h.frame.bottom
    rw [Coord.Within, bottom]
    omega
  · show Rect.empty.Within 321
    exact ⟨by decide, by decide, by decide, by decide⟩

theorem content (h : window.Sound) : window.content.Within 321 := by
  have inner := h.frame.inset
  have bottom := barBottom h.frame
  have one : (1 : Coord).toInt = 1 := rfl
  rw [Window.content, h.decoration, Decoration.ofFrame]
  split
  · refine ⟨inner.left, ?_, inner.right, inner.bottom⟩
    have := h.frame.top
    have := h.frame.bottom
    rw [Coord.Within, Coord.toInt_addSat, bottom, one]
    omega
  · exact inner

theorem closeBox (h : window.Sound) {box : Rect} (eq : window.closeBox? = some box) :
    box.Within 400 := by
  unfold closeBox? at eq
  split at eq
  · cases eq
    have bar := h.titleBar
    obtain ⟨left, top, right, bottom⟩ := bar
    unfold Coord.Within at left top right bottom
    have size : Layout.closeBoxSize.toInt = 12 := rfl
    have x : Layout.closeBoxInsetX.toInt = 4 := rfl
    have y : Layout.closeBoxInsetY.toInt = 3 := rfl
    constructor
    · simp only [Coord.Within, Rect.intersection, Rect.ofOriginSize, Coord.toInt_max,
        Coord.toInt_addSat, x]
      omega
    · simp only [Coord.Within, Rect.intersection, Rect.ofOriginSize, Coord.toInt_max,
        Coord.toInt_addSat, y]
      omega
    · simp only [Coord.Within, Rect.intersection, Rect.ofOriginSize, Coord.toInt_min,
        Coord.toInt_addSat, x, size]
      omega
    · simp only [Coord.Within, Rect.intersection, Rect.ofOriginSize, Coord.toInt_min,
        Coord.toInt_addSat, y, size]
      omega
  · cases eq

theorem growBox (h : window.Sound) {box : Rect} (eq : window.growBox? = some box) :
    box.Within 400 := by
  unfold growBox? at eq
  split at eq
  · cases eq
    obtain ⟨left, top, right, bottom⟩ := h.frame.inset
    unfold Coord.Within at left top right bottom
    have size : Layout.growBoxSize.toInt = 12 := rfl
    constructor
    · simp only [Coord.Within, Rect.intersection, Coord.toInt_max, Coord.toInt_subSat, size]
      omega
    · simp only [Coord.Within, Rect.intersection, Coord.toInt_max, Coord.toInt_subSat, size]
      omega
    · simp only [Coord.Within, Rect.intersection, Coord.toInt_min]
      omega
    · simp only [Coord.Within, Rect.intersection, Coord.toInt_min]
      omega
  · cases eq

end Sound

end Window

/-! ## The pool -/

namespace Pool

variable {pool : Pool} {slot : Slot} {window : Window}

theorem find?_eq_some_iff {id : WindowId} :
    pool.find? id = some (slot, window) ↔
      id.slot? = some slot ∧ pool.slots.get slot = some window := by
  unfold find?
  cases id.slot? with
  | none => simp
  | some found =>
    cases known : pool.slots.get found with
    | none => grind
    | some window' => grind

/-! ### What the building blocks leave alone -/

@[simp] theorem slots_invalidate (rect : Rect) : (pool.invalidate rect).slots = pool.slots := by
  rw [invalidate]

@[simp] theorem order_invalidate (rect : Rect) : (pool.invalidate rect).order = pool.order := by
  rw [invalidate]

@[simp] theorem damage_invalidate (rect : Rect) :
    (pool.invalidate rect).damage = pool.damage.invalidate rect := by
  rw [invalidate]

@[simp] theorem slots_invalidateSlot : (pool.invalidateSlot slot).slots = pool.slots := by
  unfold invalidateSlot
  split
  · exact slots_invalidate _
  · rfl

@[simp] theorem order_invalidateSlot : (pool.invalidateSlot slot).order = pool.order := by
  unfold invalidateSlot
  split
  · exact order_invalidate _
  · rfl

/-! ### Soundness -/

/-- What holds of the pool at all times. -/
def Sound (pool : Pool) : Prop :=
  ∀ slot window, pool.slots.get slot = some window → window.Sound ∧ window.id = slot.id

theorem sound_empty : empty.Sound := by
  intro slot window known
  rw [empty, SlotTable.get_replicate] at known
  cases known

namespace Sound

/-- Soundness is about the windows alone. -/
theorem of_slots {pool' : Pool} (h : pool.Sound) (same : pool'.slots = pool.slots) :
    pool'.Sound := by
  intro slot window known
  rw [same] at known
  exact h slot window known

theorem set (h : pool.Sound) {value : Option Window}
    (good : ∀ window ∈ value, window.Sound ∧ window.id = slot.id) :
    { pool with slots := pool.slots.set slot value }.Sound := by
  intro other window known
  change (pool.slots.set slot value).get other = some window at known
  by_cases same : other = slot
  · subst same
    rw [SlotTable.get_set_self] at known
    exact good window known
  · rw [SlotTable.get_set_of_ne _ _ same] at known
    exact h other window known

theorem modify (h : pool.Sound) {f : Window → Window}
    (keeps : ∀ window, pool.slots.get slot = some window → window.Sound →
      (f window).Sound ∧ (f window).id = window.id) : (pool.modify slot f).Sound := by
  apply h.set
  intro window known
  obtain ⟨old, found, rfl⟩ := Option.map_eq_some_iff.mp known
  obtain ⟨sound, id⟩ := h slot old found
  obtain ⟨sound', id'⟩ := keeps old found sound
  exact ⟨sound', id'.trans id⟩

theorem addFlags (h : pool.Sound) (flags : WindowFlags) : (pool.addFlags slot flags).Sound :=
  h.modify fun _ _ sound => ⟨sound.withFlags _, rfl⟩

theorem dropFlags (h : pool.Sound) (flags : WindowFlags) : (pool.dropFlags slot flags).Sound :=
  h.modify fun _ _ sound => ⟨sound.withFlags _, rfl⟩

theorem invalidate (h : pool.Sound) (rect : Rect) : (pool.invalidate rect).Sound :=
  h.of_slots (slots_invalidate rect)

theorem invalidateSlot (h : pool.Sound) : (pool.invalidateSlot slot).Sound :=
  h.of_slots slots_invalidateSlot

theorem activate (h : pool.Sound) : (pool.activate slot).Sound := by
  have others : (pool.deactivateOthers slot).Sound := by
    unfold deactivateOthers
    split
    · split
      · exact h
      · exact (h.dropFlags _).invalidateSlot
    · exact h
  have active : { pool.deactivateOthers slot with active := some slot }.Sound := others.of_slots rfl
  exact active.addFlags _

theorem allocate (h : pool.Sound) (frame : Rect) (title : String) (style : WindowStyle)
    (flags : WindowFlags) : (pool.allocate frame title style flags).2.Sound := by
  unfold Pool.allocate
  split
  · exact h
  · rename_i slot _
    have opened : Pool.Sound { pool with
        slots := pool.slots.set slot (some (Window.create slot.id frame title style flags))
        order := pool.order.pushTop slot } := by
      refine (h.set fun window known => ?_).of_slots rfl
      cases known
      exact ⟨Window.sound_create _ _ _ _ _, rfl⟩
    dsimp only
    split
    · exact opened.activate.invalidateSlot
    · exact opened.activate

theorem free (h : pool.Sound) (id : WindowId) : (pool.free id).2.Sound := by
  unfold Pool.free
  split
  · exact h
  · rename_i slot window _
    have marked := h.invalidate window.frame
    dsimp only
    generalize pool.invalidate window.frame = pool at marked ⊢
    have closed : Pool.Sound { pool with
        order := pool.order.unlink slot
        slots := pool.slots.set slot none } := by
      refine (marked.set fun window known => ?_).of_slots rfl
      cases known
    split
    · split
      · have passed : Pool.Sound { pool with
            order := pool.order.unlink slot
            slots := pool.slots.set slot none
            active := (pool.order.unlink slot).front } := closed.of_slots rfl
        exact (passed.addFlags _).invalidateSlot
      · exact closed.of_slots rfl
    · exact closed

theorem select (h : pool.Sound) (id : WindowId) : (pool.select id).2.Sound := by
  unfold Pool.select
  split
  · exact h
  · rename_i slot _ _
    split
    · exact h
    · have raised : { pool with order := pool.order.pushTop slot }.Sound := h.of_slots rfl
      exact raised.activate.invalidateSlot

theorem sendToBack (h : pool.Sound) (id : WindowId) : (pool.sendToBack id).2.Sound := by
  unfold Pool.sendToBack
  split
  · exact h
  · rename_i slot _ _
    split
    · exact h
    · have lowered : { pool with order := pool.order.pushBottom slot }.Sound := h.of_slots rfl
      exact lowered.invalidateSlot

theorem reveal (h : pool.Sound) (id : WindowId) : (pool.reveal id).2.Sound := by
  unfold Pool.reveal
  split
  · exact h
  · split
    · exact h
    · exact (h.addFlags _).invalidate _

theorem hide (h : pool.Sound) (id : WindowId) : (pool.hide id).2.Sound := by
  unfold Pool.hide
  split
  · exact h
  · split
    · exact (h.dropFlags _).invalidate _
    · exact h

theorem setTitle (h : pool.Sound) (id : WindowId) (title : String) :
    (pool.setTitle id title).2.Sound := by
  unfold Pool.setTitle
  split
  · exact h
  · rename_i slot window _
    have renamed : (pool.modify slot fun window => { window with title := .ofText title }).Sound :=
      h.modify fun _ _ sound => ⟨sound.withTitle title, rfl⟩
    exact renamed.invalidate _

theorem invalidateWindow (h : pool.Sound) (id : WindowId) : (pool.invalidateWindow id).2.Sound := by
  unfold Pool.invalidateWindow
  split
  · exact h
  · exact h.invalidate _

theorem reframe (h : pool.Sound) (id : WindowId) (frame : Rect → Rect) :
    (pool.reframe id frame).2.Sound := by
  unfold Pool.reframe
  split
  · exact h
  · rename_i slot window found
    have known := (find?_eq_some_iff.mp found).2
    have moved : (pool.modify slot fun _ => window.withFrame (frame window.frame)).Sound := by
      apply h.modify
      intro other same sound
      obtain rfl := Option.some.inj (known.symm.trans same)
      exact ⟨Window.sound_withFrame sound.title _, rfl⟩
    exact moved.of_slots rfl

theorem moveTo (h : pool.Sound) (id : WindowId) (x y : Coord) : (pool.moveTo id x y).2.Sound :=
  h.reframe id _

end Sound

/-- The windows of a sound pool, in their order. -/
theorem Sound.of_mem_backToFront (h : pool.Sound) (mem : window ∈ pool.backToFront) :
    window.Sound := by
  obtain ⟨slot, -, known⟩ := List.mem_filterMap.mp mem
  exact (h slot window known).1

end Pool

end TwinDesk
