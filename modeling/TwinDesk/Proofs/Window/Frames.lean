import TwinDesk.Proofs.Geometry.Edges
import TwinDesk.Proofs.Window.Pending

/-!
# Exact frames

Callers open, move and size windows with any coordinates, and the sums of these need not be
coordinates. The frame that a window gets is the one of unbounded integers all the same, with every
edge moved onto the screen.

* `Pool.get?_allocate` — the window that is opened in a free slot.
* `Pool.get?_reframe` — the window whose frame is replaced.
* `Pool.ExactFrames`, `Pool.exact_frames` — the frames that windows get, after any use of the pool.
-/

namespace TwinDesk

namespace Pool

variable {pool : Pool} {slot : Slot} {id : WindowId} {window : Window}

/-! ## Frames -/

/-- The window that is opened in a free slot. -/
theorem get?_allocate (found : pool.freeSlot? = some slot) (frame : Rect) (title : String)
    (style : WindowStyle) (flags : WindowFlags) :
    ∃ window, (pool.allocate frame title style flags).2.get? slot.id = some window ∧
      window.frame = frame.clipTo Layout.screen := by
  unfold allocate
  rw [found]
  dsimp only
  generalize known : Window.create slot.id frame title style flags = window
  have frame : window.frame = frame.clipTo Layout.screen := by
    rw [← known]
    rfl
  let pool' : Pool := { pool with
    slots := pool.slots.set slot (some window)
    order := pool.order.pushTop slot }
  have active : (pool'.activate slot).slots.get slot = _ :=
    get_activate (SlotTable.get_set_self _ _ _)
  refine ⟨{ window with flags := window.flags.insert .highlighted }, ?_, frame⟩
  rw [get?_id]
  split
  · rw [slots_invalidateSlot]
    exact active
  · exact active

/-- A window gets another frame, which may depend on the one that it has. -/
theorem get?_reframe (known : pool.get? id = some window) (frame : Rect → Rect) :
    (pool.reframe id frame).1 = .ok () ∧
      (pool.reframe id frame).2.get? id = some (window.withFrame (frame window.frame)) := by
  obtain ⟨slot, named, occupied⟩ := get?_eq_some_iff.mp known
  have found : pool.find? id = some (slot, window) := find?_eq_some_iff.mpr ⟨named, occupied⟩
  unfold reframe
  rw [found]
  refine ⟨rfl, ?_⟩
  rw [get?_eq_some_iff]
  refine ⟨slot, named, ?_⟩
  rw [slots_invalidate, slots_invalidate, get_modify_self, occupied]
  rfl

/-! ## What callers see -/

/-- The operation is carried out, and the window then has these edges. -/
def Frames (outcome : Outcome Unit) (id : WindowId) (edges : Edges) : Prop :=
  outcome.1 = .ok () ∧ ∃ window, outcome.2.get? id = some window ∧ window.frame.edges = edges

/-- The frames that windows get are those of unbounded integers, moved onto the screen. -/
structure ExactFrames (pool : Pool) : Prop where
  /-- A window is opened where it belongs, unless there are sixteen. -/
  allocate : ∀ x y width height title style flags,
    let opened := pool.allocate (.ofOriginSize x y width height) title style flags
    pool.size = 16 ∧ opened.1 = .error .poolExhausted ∨
      ∃ id window, opened.1 = .ok id ∧ opened.2.get? id = some window ∧
        window.frame.edges =
          (Edges.ofOriginSize x.toInt y.toInt width.toInt height.toInt).clampTo .screen
  moveTo : ∀ id window, pool.get? id = some window → ∀ x y,
    Frames (pool.moveTo id x y) id ((window.frame.edges.moveTo x.toInt y.toInt).clampTo .screen)
  resize : ∀ id window, pool.get? id = some window → ∀ width height,
    Frames (pool.resize id width height) id
      ((window.frame.edges.resize width.toInt height.toInt).clampTo .screen)

theorem frames_moveTo (sound : pool.Sound) (known : pool.get? id = some window) (x y : Coord) :
    Frames (pool.moveTo id x y) id
      ((window.frame.edges.moveTo x.toInt y.toInt).clampTo .screen) := by
  obtain ⟨done, moved⟩ := get?_reframe known fun old =>
    old.offset (x.subSat old.left) (y.subSat old.top)
  obtain ⟨slot, -, occupied⟩ := get?_eq_some_iff.mp known
  have onScreen : window.frame.OnScreen := (sound slot window occupied).1.frame
  exact ⟨done, _, moved, Rect.edges_offset_clipTo onScreen x y⟩

theorem frames_resize (known : pool.get? id = some window) (width height : Coord) :
    Frames (pool.resize id width height) id
      ((window.frame.edges.resize width.toInt height.toInt).clampTo .screen) := by
  obtain ⟨done, sized⟩ := get?_reframe known fun old =>
    .ofOriginSize old.left old.top width height
  exact ⟨done, _, sized, Rect.edges_ofOriginSize_clipTo _ _ _ _ _⟩

/-- After any use of the pool, no frame shows that coordinates end. -/
theorem exact_frames (actions : List Action) : (actions.foldl Action.run empty).ExactFrames := by
  have sound := Action.sound_run actions sound_empty
  generalize actions.foldl Action.run empty = pool at sound
  constructor
  case allocate =>
    intro x y width height title style flags
    cases found : pool.freeSlot? with
    | none =>
      refine .inl ⟨freeSlot?_eq_none_iff_size.mp found, ?_⟩
      rw [allocate_fst, found]
    | some slot =>
      obtain ⟨window, opened, framed⟩ :=
        get?_allocate found (.ofOriginSize x y width height) title style flags
      refine .inr ⟨slot.id, window, ?_, opened, ?_⟩
      · rw [allocate_fst, found]
      · rw [framed, Rect.edges_ofOriginSize_clipTo, Rect.edges_screen]
  case moveTo =>
    intro id window known x y
    exact frames_moveTo sound known x y
  case resize =>
    intro id window known width height
    exact frames_resize known width height

/-- A window that is made as large as can be covers the screen from its origin on. -/
theorem exact_frames_largest :
    Frames (unpainted.resize ⟨0⟩ 32767 32767) ⟨0⟩ ⟨8, 24, 320, 224⟩ := by
  have opened : (unpainted.get? ⟨0⟩).map (·.frame.edges) = some ⟨8, 24, 108, 104⟩ := by decide
  obtain ⟨window, known, edges⟩ := Option.map_eq_some_iff.mp opened
  have sized := (exact_frames _).resize ⟨0⟩ window known 32767 32767
  rw [edges] at sized
  exact sized

end Pool

end TwinDesk
