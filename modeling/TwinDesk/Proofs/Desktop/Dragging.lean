import TwinDesk.Proofs.Compositor.Pointing
import TwinDesk.Proofs.Desktop.Cursor
import TwinDesk.Proofs.Window.Confined
import TwinDesk.Proofs.Window.Frames

/-!
# Dragging a window

A window that is dragged by its title bar or its border stays where the pointer took hold of it. What
the drags before the last one were does not matter, as long as they kept the window on the screen:
nothing is rounded on the way.

* `Edges.dragged` — where a window belongs when it is dragged from one point to another.
* `Router.routeAll` — events that are routed one after the other.
* `Router.Holding`, `Router.Holding.drag` — a window that is held, and what a drag does to it.
* `Router.drags_exact` — a press and any number of drags.
-/

namespace TwinDesk

/-! ## Where the window belongs -/

namespace Edges

/-- A frame that is dragged from one point to another; its top stays below the menu bar. -/
def dragged (frame : Edges) (start finish : Point) : Edges :=
  let moved := frame.translate (finish.x.toInt - start.x.toInt) (finish.y.toInt - start.y.toInt)
  moved.translate 0 (max 0 (20 - moved.top))

variable {frame e bounds : Edges}

theorem moveTo_moveTo (e : Edges) (x y x' y' : Int) :
    (e.moveTo x y).moveTo x' y' = e.moveTo x' y' := by
  simp only [moveTo, translate, mk.injEq]
  omega

/-- The corner of a frame that is dragged. -/
theorem dragged_eq_moveTo (frame : Edges) (start finish : Point) :
    frame.dragged start finish = frame.moveTo (frame.left + (finish.x.toInt - start.x.toInt))
      (max 20 (frame.top + (finish.y.toInt - start.y.toInt))) := by
  simp only [dragged, moveTo, translate, mk.injEq]
  omega

theorem moveTo_self (e : Edges) : e.moveTo e.left e.top = e := by
  ext <;> simp [moveTo, translate]

/-- On the screen nothing is cut. -/
theorem clampTo_of_inside (inside : e.Inside bounds) (wide : e.left ≤ e.right)
    (high : e.top ≤ e.bottom) : e.clampTo bounds = e := by
  obtain ⟨left, top, right, bottom⟩ := inside
  apply Edges.ext
  · show min (max _ _) _ = _
    omega
  · show min (max _ _) _ = _
    omega
  · show min (max _ _) _ = _
    omega
  · show min (max _ _) _ = _
    omega

end Edges

/-! ## Selecting and moving -/

namespace ZOrder

theorem front_pushTop (z : ZOrder) (slot : Slot) : (z.pushTop slot).front = some slot := by
  unfold pushTop
  dsimp only
  split <;> rfl

end ZOrder

namespace Pool

variable {pool : Pool} {slot : Slot} {id : WindowId} {window : Window}

/-- A window that is selected is in front and active. -/
theorem first_select (found : pool.find? id = some (slot, window)) :
    (pool.select id).2.order.front = some slot ∧ (pool.select id).2.active = some slot := by
  unfold select
  rw [found]
  dsimp only
  split
  · assumption
  · refine ⟨?_, active_invalidateSlot⟩
    rw [order_invalidateSlot, order_activate]
    exact pool.order.front_pushTop slot

/-- No window changes by the selection of one, but for the highlights. -/
theorem unlit_select (id other : WindowId) :
    ((pool.select id).2.get? other).map Window.unlit = (pool.get? other).map Window.unlit := by
  unfold select
  split
  · rfl
  · rename_i slot _ _
    split
    · rfl
    · let raised : Pool := { pool with order := pool.order.pushTop slot }
      have relit : Confined none raised ((raised.activate slot).invalidateSlot slot) :=
        Confined.activate.trans .invalidateSlot
      exact relit.get? (Option.some_ne_none other)

/-- A window that gets another frame stays in its place in the order. -/
theorem first_reframe (pool : Pool) (id : WindowId) (frame : Rect → Rect) :
    (pool.reframe id frame).2.order = pool.order ∧
      (pool.reframe id frame).2.active = pool.active := by
  unfold reframe
  split
  · exact ⟨rfl, rfl⟩
  · rw [order_invalidate, order_invalidate, active_invalidate, active_invalidate]
    exact ⟨rfl, rfl⟩

end Pool

namespace Router

variable {P : Type} {c c' : Compositor P} {router router' : Router} {slot : Slot} {id : WindowId}
  {start start' : Pool} {window : Window}

/-! ## Taking hold of a window -/

/-- A press on a frame takes hold of the window. -/
theorem pressFrame_eq (router : Router) (p : Point)
    (done : (c.windows.select id).1 = .ok ())
    (known : (c.windows.select id).2.get? id = some window) :
    router.pressFrame c id p =
      (.ok (), ⟨some ⟨id, p.x.subSat window.frame.left, p.y.subSat window.frame.top⟩⟩,
        { c with windows := (c.windows.select id).2 }) := by
  unfold pressFrame onWindows
  dsimp only
  rw [done]
  dsimp only
  rw [known]

/-- The window in `slot`, which had the edges `frame`, was taken hold of at `origin`, and has the
edges `edges` by now. -/
structure Holding (start : Pool) (slot : Slot) (frame : Edges) (origin : Point)
    (edges : Edges) (router : Router) (c : Compositor P) : Prop where
  closed : c.menus.isTracking = false
  sound : c.windows.Sound
  coherent : c.windows.Coherent
  /-- Where the pointer took hold, relative to the corner. -/
  grab : ∃ offset : Point, router.grab = some ⟨slot.id, offset⟩ ∧
    offset.x.toInt = origin.x.toInt - frame.left ∧ offset.y.toInt = origin.y.toInt - frame.top
  front : c.windows.order.front = some slot
  active : c.windows.active = some slot
  others : Pool.Confined (some slot) start c.windows
  placed : ∃ window, c.windows.get? slot.id = some window ∧ window.frame.edges = edges
  /-- Only the place differs, not the size. -/
  moved : ∃ x y, edges = frame.moveTo x y
  wide : frame.left < frame.right
  high : frame.top < frame.bottom

namespace Holding

variable {frame edges : Edges} {origin : Point}

theorem of_still (h : Holding start slot frame origin edges router c)
    (still : Compositor.Still c c') (menus : c'.menus = c.menus) :
    Holding start slot frame origin edges router c' where
  closed := by rw [menus, h.closed]
  sound := h.sound.of_slots still.slots
  coherent := still.coherent h.coherent
  grab := h.grab
  front := by rw [still.order, h.front]
  active := by rw [still.active, h.active]
  others := h.others.trans (.of_same still.slots still.order)
  placed := by
    obtain ⟨window, known, placed⟩ := h.placed
    rw [Pool.get?_id, ← still.slots, ← Pool.get?_id] at known
    exact ⟨window, known, placed⟩
  moved := h.moved
  wide := h.wide
  high := h.high

/-- The window is moved to another place on the screen. -/
theorem moveTo (h : Holding start slot frame origin edges router c) {x y : Coord}
    (inside : (frame.moveTo x.toInt y.toInt).Inside .screen) :
    (c.windows.moveTo slot.id x y).1 = .ok () ∧
      Holding start slot frame origin (frame.moveTo x.toInt y.toInt) router
        { c with windows := (c.windows.moveTo slot.id x y).2 } := by
  obtain ⟨window, known, rfl⟩ := h.placed
  obtain ⟨x', y', moved⟩ := h.moved
  obtain ⟨done, window', known', edges⟩ := Pool.frames_moveTo h.sound known x y
  have wide := h.wide
  have high := h.high
  -- where the window was before the move does not matter
  have placed : window'.frame.edges = frame.moveTo x.toInt y.toInt := by
    rw [edges, moved, Edges.moveTo_moveTo]
    apply Edges.clampTo_of_inside inside
    · simp only [Edges.moveTo, Edges.translate]
      omega
    · simp only [Edges.moveTo, Edges.translate]
      omega
  obtain ⟨order, active⟩ := c.windows.first_reframe slot.id fun old =>
    old.offset (x.subSat old.left) (y.subSat old.top)
  refine ⟨done, ?_⟩
  constructor
  case closed => exact h.closed
  case sound => exact h.sound.moveTo slot.id x y
  case coherent => exact h.coherent.reframe slot.id _
  case grab => exact h.grab
  case front => exact (congrArg ZOrder.front order).trans h.front
  case active => exact active.trans h.active
  case others => exact h.others.trans (Pool.Named.reframe slot.id _).confined
  case placed => exact ⟨window', known', placed⟩
  case moved => exact ⟨_, _, rfl⟩
  case wide => exact wide
  case high => exact high

/-- What was done before to the window itself does not matter. -/
theorem since (h : Holding start' slot frame origin edges router c)
    (earlier : Pool.Confined (some slot) start start') :
    Holding start slot frame origin edges router c :=
  { h with others := earlier.trans h.others }

end Holding

/-- A press on its frame takes hold of a window. -/
theorem pressFrame_holding (sound : c.windows.Sound) (coherent : c.windows.Coherent)
    (closed : c.menus.isTracking = false) (router : Router)
    (known : c.windows.get? slot.id = some window) {p : Point}
    (inside : window.frame.contains p = true) :
    ∃ router' c', router.pressFrame c slot.id p = (.ok (), router', c') ∧
      Holding c.windows slot window.frame.edges p window.frame.edges router' c' := by
  have occupied : c.windows.slots.get slot = some window := by rw [← Pool.get?_id, known]
  have found : c.windows.find? slot.id = some (slot, window) :=
    Pool.find?_eq_some_iff.mpr ⟨slot.slot?_id, occupied⟩
  have live : c.windows.isLive slot.id = true := by
    rw [Pool.isLive, found]
    rfl
  obtain ⟨front, active⟩ := Pool.first_select found
  have relit := c.windows.unlit_select slot.id slot.id
  rw [known] at relit
  obtain ⟨window', known', unlit⟩ := Option.map_eq_some_iff.mp relit
  have frame : window'.frame = window.frame := by
    show window'.unlit.frame = window.unlit.frame
    rw [unlit]
  obtain ⟨left, top, right, bottom⟩ := (sound slot window occupied).1.frame
  rw [Rect.contains_iff_toInt] at inside
  refine ⟨_, _, router.pressFrame_eq p (Pool.select_fst live) known', ?_⟩
  constructor
  case closed => exact closed
  case sound => exact sound.select slot.id
  case coherent => exact coherent.select slot.id
  case grab =>
    refine ⟨_, rfl, ?_, ?_⟩
    · rw [Coord.toInt_subSat, frame]
      show _ = p.x.toInt - window.frame.left.toInt
      omega
    · rw [Coord.toInt_subSat, frame]
      show _ = p.y.toInt - window.frame.top.toInt
      omega
  case front => exact front
  case active => exact active
  case others => exact (Pool.Named.select coherent.wellFormed slot.id).confined
  case placed => exact ⟨window', known', congrArg Rect.edges frame⟩
  case moved => exact ⟨_, _, window.frame.edges.moveTo_self.symm⟩
  case wide => exact inside.1.trans_lt inside.2.1
  case high => exact inside.2.2.1.trans_lt inside.2.2.2

/-! ## What callers see -/

/-- What has become of the window of an id, which is dragged, and of the others. -/
structure Dragged (before : Pool) (id : WindowId) (edges : Edges) (after : Pool) : Prop where
  placed : ∃ window, after.get? id = some window ∧ window.frame.edges = edges
  front : (after.frontToBack.map (·.id)).head? = some id
  active : after.activeId = some id
  /-- The others keep their frames, and everything else but the highlight. -/
  others : ∀ other, other ≠ id →
    (after.get? other).map Window.unlit = (before.get? other).map Window.unlit
  /-- They keep their order among each other. -/
  order : (after.frontToBack.map (·.id)).filter (· ≠ id) =
    (before.frontToBack.map (·.id)).filter (· ≠ id)

theorem Holding.dragged {frame edges : Edges} {origin : Point}
    (h : Holding start slot frame origin edges router c) (consistent : start.Consistent) :
    Dragged start slot.id edges c.windows := by
  have consistent' := h.coherent.consistent h.sound
  constructor
  case placed => exact h.placed
  case front =>
    rw [consistent'.ids_eq, List.head?_map, ← h.coherent.wellFormed.front_eq, h.front]
    rfl
  case active =>
    rw [Pool.activeId, h.active]
    rfl
  case others =>
    intro other ne
    exact h.others.get? fun same => ne (Option.some.inj same)
  case order =>
    have ids := h.others.ids consistent consistent'
    simpa using ids

/-! ## Routing the events -/

variable [WindowContent P]

/-- Routes events one after the other, until one is refused. -/
def routeAll (router : Router) (c : Compositor P) :
    List PointerEvent → Checked (Outcome P Unit)
  | [] => return (.ok (), router, c)
  | event :: rest => do
    match ← router.route c event with
    | (.error e, router, c) => return (.error e, router, c)
    | (.ok _, router, c) => router.routeAll c rest

theorem routeAll_cons {event : PointerEvent} {answer : Option MenuSelection}
    (routed : router.route c event = .ok (.ok answer, router', c')) (rest : List PointerEvent) :
    router.routeAll c (event :: rest) = router'.routeAll c' rest := by
  rw [routeAll, routed]
  rfl

/-- A drag that moves the window that is held. -/
theorem drag_of_grab {grab : Grab} (closed : c.menus.isTracking = false)
    (held : router.grab = some grab) (p : Point)
    (done : (c.windows.moveTo grab.window (p.x.subSat grab.offset.x)
      (max (p.y.subSat grab.offset.y) Layout.menuBarHeight)).1 = .ok ()) :
    router.drag c p = .ok (.ok (), router, { c with
      windows := (c.windows.moveTo grab.window (p.x.subSat grab.offset.x)
        (max (p.y.subSat grab.offset.y) Layout.menuBarHeight)).2 }) := by
  unfold drag
  rw [closed, held]
  dsimp only [onWindows]
  rw [done]
  rfl

namespace Holding

variable {frame edges : Edges} {origin : Point}

/-- The window follows a drag to wherever it belongs. -/
theorem drag (h : Holding start slot frame origin edges router c) {event : PointerEvent}
    (kind : event.kind = .drag) (inside : (frame.dragged origin event.pos).Inside .screen) :
    ∃ c', router.route c event = .ok (.ok none, router, c') ∧
      Holding start slot frame origin (frame.dragged origin event.pos) router c' := by
  obtain ⟨offset, grab, offsetX, offsetY⟩ := h.grab
  have wide := h.wide
  have high := h.high
  rw [Edges.dragged_eq_moveTo] at inside ⊢
  let x := event.pos.x.subSat offset.x
  let y := max (event.pos.y.subSat offset.y) Layout.menuBarHeight
  -- the window is on the screen, so that its corner is a coordinate
  have xExact : x.toInt = frame.left + (event.pos.x.toInt - origin.x.toInt) := by
    have left := inside.left
    have right := inside.right
    simp only [Edges.moveTo, Edges.translate, Edges.screen] at left right
    rw [Coord.toInt_subSat, offsetX]
    omega
  have yExact : y.toInt = max 20 (frame.top + (event.pos.y.toInt - origin.y.toInt)) := by
    have bottom := inside.bottom
    have bar : Layout.menuBarHeight.toInt = 20 := rfl
    simp only [Edges.moveTo, Edges.translate, Edges.screen] at bottom
    rw [Coord.toInt_max, Coord.toInt_subSat, offsetY, bar]
    omega
  rw [← xExact, ← yExact] at inside ⊢
  have pointed := h.of_still (Compositor.still_moveCursor event.pos)
    (Compositor.menus_moveCursor event.pos)
  obtain ⟨done, held⟩ := pointed.moveTo inside
  refine ⟨_, ?_, held⟩
  unfold route
  rw [kind]
  dsimp only
  rw [drag_of_grab pointed.closed grab event.pos done]
  rfl

/-- Any number of drags; the last one decides. -/
theorem drags (h : Holding start slot frame origin edges router c) {events : List PointerEvent}
    (each : ∀ event ∈ events, event.kind = .drag ∧
      (frame.dragged origin event.pos).Inside .screen) :
    ∃ c', router.routeAll c events = .ok (.ok (), router, c') ∧
      Holding start slot frame origin
        ((events.getLast?.map fun event => frame.dragged origin event.pos).getD edges) router c' := by
  induction events generalizing edges c with
  | nil => exact ⟨c, rfl, h⟩
  | cons event rest ih =>
    obtain ⟨⟨kind, inside⟩, later⟩ := List.forall_mem_cons.mp each
    obtain ⟨c₁, routed, held⟩ := h.drag kind inside
    obtain ⟨c', ran, held'⟩ := ih held later
    refine ⟨c', (routeAll_cons routed rest).trans ran, ?_⟩
    have last : ((event :: rest).getLast?.map fun event => frame.dragged origin event.pos).getD
        edges = (rest.getLast?.map fun event => frame.dragged origin event.pos).getD
          (frame.dragged origin event.pos) := by
      rw [List.getLast?_cons]
      cases rest.getLast? <;> rfl
    rw [last]
    exact held'

end Holding

/-- A press by which the pointer takes hold of a window. -/
theorem route_holding (sound : c.windows.Sound) (coherent : c.windows.Coherent)
    (closed : c.menus.isTracking = false) (router : Router) {event : PointerEvent}
    (kind : event.kind = .down) (hit : c.windows.hitTest event.pos = ⟨.drag, some slot.id⟩)
    (known : c.windows.get? slot.id = some window) :
    ∃ router' c', router.route c event = .ok (.ok none, router', c') ∧
      Holding c.windows slot window.frame.edges event.pos window.frame.edges router' c' := by
  have inside := Pool.contains_of_hitTest sound hit known
  have still := Compositor.still_moveCursor (P := P) (c := c) event.pos
  have menus := c.menus_moveCursor event.pos
  unfold route
  rw [kind]
  dsimp only
  generalize c.moveCursor event.pos = pointed at still menus ⊢
  have known : pointed.windows.get? slot.id = some window := by
    rw [Pool.get?_id, still.slots, ← Pool.get?_id, known]
  have closed : pointed.menus.isTracking = false := by rw [menus, closed]
  obtain ⟨router', c', pressed, held⟩ := pressFrame_holding (sound.of_slots still.slots)
    (still.coherent coherent) closed router known inside
  refine ⟨router', c', ?_, held.since (.of_same still.slots still.order)⟩
  rw [press, Compositor.hitTest_of_still still, hit]
  dsimp only
  rw [pressed]
  rfl

/-! ## The whole drag -/

/-- **Dragging is exact**: in any state without an open menu, the pointer takes hold of a window by
its title bar or border and is dragged, with the window on the screen all the time. Then the window
is where the last drag puts it, whatever the drags before, in front of all others and active; and the
others stay where they are. -/
theorem drags_exact (arrives : c.Arrives) (closed : c.menus.isTracking = false) (router : Router)
    {pressed : PointerEvent} (kind : pressed.kind = .down)
    (hit : c.windows.hitTest pressed.pos = ⟨.drag, some id⟩)
    (known : c.windows.get? id = some window) {drags : List PointerEvent}
    (each : ∀ event ∈ drags, event.kind = .drag ∧
      (window.frame.edges.dragged pressed.pos event.pos).Inside .screen) :
    ∃ router' c', router.routeAll c (pressed :: drags) = .ok (.ok (), router', c') ∧
      Dragged c.windows id
        ((drags.getLast?.map fun event => window.frame.edges.dragged pressed.pos event.pos).getD
          window.frame.edges) c'.windows := by
  have sound := arrives.regular.sound
  have coherent := arrives.coherent
  obtain ⟨slot, named, -⟩ := Pool.get?_eq_some_iff.mp known
  cases Slot.id_of_slot? named
  obtain ⟨router', c₁, routed, held⟩ :=
    route_holding sound coherent closed router kind hit known
  obtain ⟨c', ran, held'⟩ := held.drags each
  exact ⟨router', c', (routeAll_cons routed drags).trans ran,
    held'.dragged (coherent.consistent sound)⟩

/-- Two lamps, one over the other. -/
def lamps : Compositor Lamp :=
  ((Compositor.initial.openWindow ⟨40, 50, 140, 150⟩ "Lower" .document .visible).2.openWindow
    ⟨50, 60, 150, 160⟩ "Upper" .document .visible).2

theorem arrives_lamps : lamps.Arrives := by
  have lower := Compositor.Arrives.edit (.openWindow ⟨40, 50, 140, 150⟩ "Lower" .document .visible)
    (.start : Compositor.Arrives (.initial : Compositor Lamp)) rfl
  exact .edit (.openWindow ⟨50, 60, 150, 160⟩ "Upper" .document .visible) lower rfl

/-- The lower one is taken by its title bar, pushed against the menu bar, and put down to the right
of the other. -/
theorem drags_exact_lamps :
    ∃ router' c', idle.routeAll lamps [⟨.down, .none, ⟨60, 55⟩, 0⟩, ⟨.drag, .none, ⟨30, 0⟩, -30⟩,
        ⟨.drag, .none, ⟨200, 120⟩, 170⟩] = .ok (.ok (), router', c') ∧
      Dragged lamps.windows ⟨0⟩ ⟨180, 115, 280, 215⟩ c'.windows := by
  have opened : (lamps.windows.get? ⟨0⟩).map (·.frame.edges) = some ⟨40, 50, 140, 150⟩ := by decide
  obtain ⟨window, known, edges⟩ := Option.map_eq_some_iff.mp opened
  have hit : lamps.windows.hitTest ⟨60, 55⟩ = ⟨.drag, some ⟨0⟩⟩ := by decide
  have onScreen : ∀ event ∈ [(⟨.drag, .none, ⟨30, 0⟩, -30⟩ : PointerEvent),
      ⟨.drag, .none, ⟨200, 120⟩, 170⟩], event.kind = .drag ∧
        (window.frame.edges.dragged ⟨60, 55⟩ event.pos).Inside .screen := by
    simp only [edges, Edges.inside_iff]
    decide
  have kind : (⟨.down, .none, ⟨60, 55⟩, 0⟩ : PointerEvent).kind = .down := rfl
  obtain ⟨router', c', ran, dragged⟩ :=
    drags_exact arrives_lamps rfl idle kind hit known onScreen
  rw [edges] at dragged
  exact ⟨router', c', ran, dragged⟩

end Router

end TwinDesk
