import TwinDesk.Proofs.Compositor.Tidy

/-!
# The pointer hits what is painted

Hit tests search the windows from the front to the back; painting goes through them from the back
to the front, once for every damaged rectangle, and passes over those that do not meet the
rectangle. Both find the same window on top, at every pixel that is painted.

* `Pass` — what painting does to one damaged rectangle: some windows, each with what its content
  draws.
* `Compositor.Arrives` — the states of a compositor.
* `Compositor.MatchesHits` — what a frame has to do with hit tests.
* `Compositor.hit_testing_agrees_with_painting` — every frame matches the hit tests.
-/

namespace TwinDesk

/-! ## Passes -/

/-- A window that is painted: its frame first, then what its content draws. -/
structure Layer where
  window : Window
  inside : List PaintOp

/-- The drawing operations of a layer. -/
def Layer.ops (layer : Layer) : List PaintOp :=
  .windowFrame layer.window :: layer.inside

/-- The repair of one rectangle, with its layers from the back to the front. -/
structure Pass where
  clip : Rect
  layers : List Layer

/-- The window whose frame an operation paints. -/
def PaintOp.frame? : PaintOp → Option Window
  | .windowFrame window => some window
  | _ => none

/-- The last window that is painted with a frame around a point. -/
def lastAround? (windows : List Window) (p : Point) : Option Window :=
  windows.reverse.find? fun window => window.frame.contains p

namespace Pass

/-- The drawing operations of a pass. -/
def ops (pattern : DesktopPattern) (pass : Pass) : List PaintOp :=
  .setClip pass.clip :: .fillPattern pass.clip pattern :: pass.layers.flatMap Layer.ops

/-- The windows of the layers. -/
def windows (pass : Pass) : List Window :=
  pass.layers.map Layer.window

/-- The window that is seen at a point: the last one that is painted with a frame around it. -/
def top? (pass : Pass) (p : Point) : Option Window :=
  lastAround? pass.windows p

/-- Where contents paint no frames, the frames of the windows are all that a pass paints. -/
theorem frames_ops (pass : Pass) (pattern : DesktopPattern)
    (bare : ∀ layer ∈ pass.layers, ∀ op ∈ layer.inside, op.frame? = none) :
    (pass.ops pattern).filterMap PaintOp.frame? = pass.windows := by
  obtain ⟨clip, layers⟩ := pass
  show (layers.flatMap Layer.ops).filterMap PaintOp.frame? = layers.map Layer.window
  induction layers with
  | nil => rfl
  | cons layer rest ih =>
    obtain ⟨here, later⟩ := List.forall_mem_cons.mp bare
    have inside : layer.inside.filterMap PaintOp.frame? = [] :=
      List.filterMap_eq_nil_iff.mpr here
    have own : layer.ops.filterMap PaintOp.frame? = [layer.window] := by
      show layer.window :: layer.inside.filterMap PaintOp.frame? = _
      rw [inside]
    rw [List.flatMap_cons, List.filterMap_append, own, ih later, List.singleton_append,
      List.map_cons]

end Pass

/-! ## What a window shows -/

variable {P α β : Type}

/-- The contents leave the clip alone. -/
def KeepsClip (P : Type) [WindowContent P] : Prop :=
  ∀ (content content' : P) (window : Window) (ops : List PaintOp),
    WindowContent.draw content window = .ok (content', ops) → ∀ op ∈ ops, op.keepsClip = true

/-- The layer shows what a content draws in its window, or nothing inside of the frame. -/
def Layer.Drawn (P : Type) [WindowContent P] (layer : Layer) : Prop :=
  layer.inside = [] ∨ ∃ content content' : P,
    WindowContent.draw content layer.window = .ok (content', layer.inside)

/-- The computation has a value that satisfies `Q`, or it fails because a content fails to draw one
of the windows. -/
def Draws (P : Type) [WindowContent P] (windows : List Window) (x : Checked α) (Q : α → Prop) :
    Prop :=
  Yields x Q ∨ ∃ window ∈ windows, ∃ (content : P) (fault : Fault),
    WindowContent.draw content window = .error fault ∧ x = .error fault

variable [WindowContent P] {windows : List Window}

namespace Draws

variable {x : Checked α} {f : α → Checked β} {Q : α → Prop} {R : β → Prop}

theorem bind (first : Draws P windows x Q)
    (next : ∀ value, Q value → Draws P windows (f value) R) : Draws P windows (x >>= f) R := by
  rcases first with ⟨value, rfl, holds⟩ | ⟨window, mem, content, fault, failed, rfl⟩
  · exact next value holds
  · exact .inr ⟨window, mem, content, fault, failed, rfl⟩

theorem pure {value : α} (holds : Q value) : Draws P windows (Pure.pure value) Q :=
  .inl (.pure holds)

theorem more {others : List Window} (draws : Draws P windows x Q) (more : windows ⊆ others) :
    Draws P others x Q := by
  rcases draws with yields | ⟨window, mem, rest⟩
  · exact .inl yields
  · exact .inr ⟨window, more mem, rest⟩

end Draws

theorem Layer.Drawn.plain {layer : Layer} (drawn : layer.Drawn P) (keeps : KeepsClip P) :
    ∀ op ∈ layer.ops, op.keepsClip = true := by
  refine List.forall_mem_cons.mpr ⟨rfl, ?_⟩
  rcases drawn with nothing | ⟨content, content', drawn⟩
  · rw [nothing]
    exact fun _ mem => absurd mem List.not_mem_nil
  · exact keeps content content' layer.window layer.inside drawn

namespace Compositor

/-- A window is painted in a pass if it can be seen and its frame meets the clip. -/
def isPainted (clip : Rect) (window : Window) : Bool :=
  window.isVisible && window.frame.intersects clip

theorem drawContent_draws (window : Window) (contents : SlotTable (Option P)) :
    Draws P [window] (drawContent contents window) fun result =>
      Layer.Drawn P ⟨window, result.1⟩ := by
  unfold drawContent
  split
  · exact .pure (.inl rfl)
  · split
    · exact .pure (.inl rfl)
    · rename_i content _
      cases drawn : WindowContent.draw content window with
      | error fault =>
        exact .inr ⟨window, List.mem_singleton_self window, content, fault, drawn, rfl⟩
      | ok result => exact .pure (.inr ⟨content, result.1, drawn⟩)

/-- The windows of a pass are painted one after the other. -/
theorem drawWindows_draws (clip : Rect) (windows : List Window)
    (contents : SlotTable (Option P)) :
    Draws P windows (drawWindows clip windows contents) fun result =>
      ∃ layers : List Layer, result.1 = layers.flatMap Layer.ops ∧
        layers.map Layer.window = windows.filter (isPainted clip) ∧
        ∀ layer ∈ layers, layer.Drawn P := by
  induction windows generalizing contents with
  | nil => exact .pure ⟨[], rfl, rfl, fun _ mem => absurd mem List.not_mem_nil⟩
  | cons window rest ih =>
    unfold drawWindows
    by_cases met : (window.isVisible && window.frame.intersects clip) = true
    · rw [if_pos met]
      have met : isPainted clip window = true := met
      refine ((drawContent_draws window contents).more ?_).bind fun inside here => ?_
      · exact List.cons_subset_cons window (List.nil_subset rest)
      refine ((ih inside.2).more (List.subset_cons_self window rest)).bind fun later known => ?_
      obtain ⟨layers, ops, same, drawn⟩ := known
      refine .pure ⟨⟨window, inside.1⟩ :: layers, ?_, ?_, List.forall_mem_cons.mpr ⟨here, drawn⟩⟩
      · rw [List.flatMap_cons, ← ops]
        rfl
      · rw [List.map_cons, List.filter_cons_of_pos met, same]
    · rw [if_neg met]
      have unmet : ¬ isPainted clip window = true := met
      rw [List.filter_cons_of_neg unmet]
      exact (ih contents).more (List.subset_cons_self window rest)

/-- The damage is repaired in one pass for each rectangle. -/
theorem drawRects_draws (pattern : DesktopPattern) (windows : List Window) (rects : List Rect)
    (contents : SlotTable (Option P)) :
    Draws P windows (drawRects pattern windows rects contents) fun result =>
      ∃ passes : List Pass, result.1 = passes.flatMap (Pass.ops pattern) ∧
        passes.map Pass.clip = rects ∧ ∀ pass ∈ passes,
          pass.windows = windows.filter (isPainted pass.clip) ∧
          ∀ layer ∈ pass.layers, layer.Drawn P := by
  induction rects generalizing contents with
  | nil => exact .pure ⟨[], rfl, rfl, fun _ mem => absurd mem List.not_mem_nil⟩
  | cons clip rest ih =>
    refine (drawWindows_draws clip windows contents).bind fun inside here => ?_
    refine (ih inside.2).bind fun later known => ?_
    obtain ⟨layers, ops, same, drawn⟩ := here
    obtain ⟨passes, ops', clips, each⟩ := known
    refine .pure ⟨⟨clip, layers⟩ :: passes, ?_, ?_, ?_⟩
    · show .setClip clip :: .fillPattern clip pattern :: inside.1 ++ later.1 = _
      rw [List.flatMap_cons, ← ops', ops]
      rfl
    · rw [List.map_cons, clips]
    · exact List.forall_mem_cons.mpr ⟨⟨same, drawn⟩, each⟩

end Compositor

/-! ## The same window on top -/

namespace Pool

variable {pool : Pool} {clip : Rect} {p : Point}

/-- Searching from the front finds the last window that is painted from the back. -/
theorem windowAt?_eq (order : pool.order.WellFormed) (inside : clip.contains p = true) :
    pool.windowAt? p =
      lastAround? (pool.backToFront.filter (Compositor.isPainted clip)) p := by
  have reversed : pool.backToFront.reverse = pool.frontToBack := by
    unfold backToFront frontToBack
    rw [order.backToFront_eq, List.filterMap_reverse, List.reverse_reverse]
  have same : ∀ window : Window, (window.isVisible && window.frame.contains p) =
      decide (Compositor.isPainted clip window = true ∧ window.frame.contains p = true) := by
    intro window
    rw [Compositor.isPainted]
    cases reached : window.frame.contains p with
    | false => simp
    | true => simp [Rect.intersects_of_contains reached inside]
  rw [windowAt?, lastAround?, ← List.filter_reverse, reversed, List.find?_filter]
  exact congrArg (pool.frontToBack.find? ·) (funext same)

/-- What a hit test says of a window is true of it. -/
theorem get?_of_windowAt? (sound : pool.Sound) {window : Window}
    (found : pool.windowAt? p = some window) :
    pool.get? window.id = some window ∧ window.isVisible = true ∧
      window.frame.contains p = true := by
  have met := List.find?_some found
  obtain ⟨slot, -, known⟩ := List.mem_filterMap.mp (List.mem_of_find?_eq_some found)
  have own : window.id.slot? = some slot := by
    rw [(sound slot window known).2, Slot.slot?_id]
  have found : pool.find? window.id = some (slot, window) := find?_eq_some_iff.mpr ⟨own, known⟩
  refine ⟨?_, Bool.and_eq_true_iff.mp met⟩
  rw [get?, found]
  rfl

/-- A window is hit inside of its frame. -/
theorem contains_of_hitTest (sound : pool.Sound) {part : Part} {id : WindowId} {window : Window}
    (hit : pool.hitTest p = ⟨part, some id⟩) (known : pool.get? id = some window) :
    window.frame.contains p = true := by
  unfold hitTest at hit
  split at hit
  · cases hit
  · split at hit
    · rename_i top found
      cases hit
      obtain ⟨found, -, inside⟩ := get?_of_windowAt? sound found
      cases found.symm.trans known
      exact inside
    · cases hit

end Pool

/-- No part of a window is taken for the desktop. -/
theorem Window.partAt_ne_desktop (window : Window) (p : Point) : window.partAt p ≠ .desktop := by
  unfold partAt
  grind

/-- Below the menu bar, a hit test returns the window that a pass shows. -/
structure Pass.Agrees (pass : Pass) (pool : Pool) (p : Point) : Prop where
  window : (pool.hitTest p).window = (pass.top? p).map Window.id
  /-- The id is the window's own. -/
  own : ∀ window ∈ pass.top? p, pool.get? window.id = some window
  desktop : (pool.hitTest p).part = .desktop ↔ pass.top? p = none

theorem Pass.agrees {pass : Pass} {pool : Pool} {p : Point} (sound : pool.Sound)
    (order : pool.order.WellFormed)
    (painted : pass.windows = pool.backToFront.filter (Compositor.isPainted pass.clip))
    (inside : pass.clip.contains p = true) (below : Layout.menuBarHeight ≤ p.y) :
    pass.Agrees pool p := by
  have top : pass.top? p = pool.windowAt? p := by
    rw [Pool.windowAt?_eq order inside, top?, painted]
  have band : ¬ p.y < Layout.menuBarHeight := Int16.not_lt.mpr below
  cases found : pool.windowAt? p with
  | none =>
    have hit : pool.hitTest p = ⟨.desktop, none⟩ := by
      rw [Pool.hitTest, if_neg band, found]
    rw [found] at top
    refine ⟨?_, ?_, ?_⟩
    · rw [hit, top]
      rfl
    · rw [top]
      rintro window ⟨⟩
    · rw [hit, top]
      exact iff_of_true rfl rfl
  | some window =>
    have hit : pool.hitTest p = ⟨window.partAt p, some window.id⟩ := by
      rw [Pool.hitTest, if_neg band, found]
    rw [found] at top
    refine ⟨?_, ?_, ?_⟩
    · rw [hit, top]
      rfl
    · rw [top]
      rintro _ ⟨⟩
      exact (Pool.get?_of_windowAt? sound found).1
    · rw [hit, top]
      exact iff_of_false (window.partAt_ne_desktop p) (Option.some_ne_none window)

/-! ## Frames -/

namespace Compositor

/-- The states of a compositor: after any edits and frames, and whatever is done to its menus and
its damage directly. -/
inductive Arrives : Compositor P → Prop where
  | start : Arrives .initial
  | edit {c c' : Compositor P} (e : Edit P) (before : Arrives c) (edited : c.edit e = .ok c') :
    Arrives c'
  | clearWindows {c : Compositor P} (before : Arrives c) :
    Arrives { c with windows := c.windows.clear }
  | setDamage {c : Compositor P} (damage : Damage) (before : Arrives c) :
    Arrives { c with windows.damage := damage }
  | setMenus {c : Compositor P} (menus : MenuBar) (before : Arrives c) : Arrives { c with menus }
  | paint {c c' : Compositor P} {ops : List PaintOp} (before : Arrives c)
    (painted : c.paint = .ok (ops, c')) : Arrives c'

variable {c c' : Compositor P} {ops : List PaintOp}

/-- Painting changes nothing but the contents and the damage, and uses the damage up. -/
theorem paint_keeps (painted : c.paint = .ok (ops, c')) :
    c' = { c with contents := c'.contents, windows.damage := .clean } := by
  obtain ⟨⟨inside, contents⟩, -, eq⟩ := Checked.bind_eq_ok_iff.mp painted
  cases eq
  rfl

theorem Arrives.regular (arrives : Arrives c) : c.Regular := by
  induction arrives with
  | start => exact regular_initial
  | edit e _ edited ih => exact e.regular ih edited
  | clearWindows _ ih => exact ⟨Pool.sound_empty, .empty⟩
  | setDamage damage _ ih => exact ⟨ih.sound.of_slots rfl, ih.order⟩
  | setMenus menus _ ih => exact ⟨ih.sound, ih.order⟩
  | paint _ painted ih =>
    rw [paint_keeps painted]
    exact ⟨ih.sound.of_slots rfl, ih.order⟩

theorem Arrives.coherent (arrives : Arrives c) : c.windows.Coherent := by
  induction arrives with
  | start => exact Pool.coherent_empty.invalidate _
  | edit e _ edited ih => exact e.coherent ih edited
  | clearWindows _ ih => exact Pool.coherent_empty
  | setDamage damage _ ih => exact ih.of_same rfl rfl rfl
  | setMenus menus _ ih => exact ih
  | paint _ painted ih =>
    rw [paint_keeps painted]
    exact ih.of_same rfl rfl rfl

/-- What a frame has to do with hit tests. -/
structure MatchesHits (c : Compositor P) (passes : List Pass) (ops : List PaintOp)
    (c' : Compositor P) : Prop where
  ops_eq : ops = passes.flatMap (Pass.ops c.pattern) ++ c.overlays
  clips : passes.map Pass.clip = c.windows.damage.rects
  /-- Behind its first operation, a pass leaves the clip alone. -/
  plain : ∀ pass ∈ passes, ∀ op ∈ (pass.ops c.pattern).tail, op.keepsClip = true
  drawn : ∀ pass ∈ passes, ∀ layer ∈ pass.layers, layer.Drawn P
  visible : ∀ pass ∈ passes, ∀ window ∈ pass.windows, window.isVisible = true
  agrees : ∀ pass ∈ passes, ∀ p, pass.clip.contains p = true → Layout.menuBarHeight ≤ p.y →
    pass.Agrees c.windows p
  /-- Where contents paint no frames, the windows can be read off the operations. -/
  frames : ∀ pass ∈ passes, (∀ layer ∈ pass.layers, ∀ op ∈ layer.inside, op.frame? = none) →
    (pass.ops c.pattern).filterMap PaintOp.frame? = pass.windows
  kept : c' = { c with contents := c'.contents, windows.damage := .clean }

/-- In every state, a frame is painted unless a content fails to draw its window, and at every
pixel below the menu bar it shows the window that is hit there. Hidden windows are neither
painted nor hit. -/
theorem hit_testing_agrees_with_painting (keeps : KeepsClip P) (arrives : Arrives c) :
    (Draws P c.windows.backToFront c.paint fun result =>
      ∃ passes, c.MatchesHits passes result.1 result.2) ∧
    ∀ p id, (c.windows.hitTest p).window = some id → ∃ window,
      c.windows.get? id = some window ∧ window.isVisible = true ∧
        window.frame.contains p = true := by
  obtain ⟨sound, order⟩ := arrives.regular
  refine ⟨?_, ?_⟩
  · refine (drawRects_draws c.pattern c.windows.backToFront c.windows.damage.rects
      c.contents).bind fun result known => .pure ?_
    obtain ⟨passes, ops, clips, each⟩ := known
    refine ⟨passes, ?_, clips, ?_, fun pass mem => (each pass mem).2, ?_, ?_, ?_, rfl⟩
    · show result.1 ++ c.overlays = _
      rw [ops]
    · intro pass mem
      refine List.forall_mem_cons.mpr ⟨rfl, fun op listed => ?_⟩
      obtain ⟨layer, present, listed⟩ := List.mem_flatMap.mp listed
      exact ((each pass mem).2 layer present).plain keeps op listed
    · intro pass mem window painted
      rw [(each pass mem).1] at painted
      exact (Bool.and_eq_true_iff.mp (List.mem_filter.mp painted).2).1
    · intro pass mem p inside below
      exact Pass.agrees sound order (each pass mem).1 inside below
    · exact fun pass _ bare => pass.frames_ops c.pattern bare
  · intro p id hit
    rw [Pool.hitTest] at hit
    split at hit
    · cases hit
    · split at hit
      · rename_i window found
        cases hit
        exact ⟨window, Pool.get?_of_windowAt? sound found⟩
      · cases hit

/-- Of two lamps, one over the other, the upper one is hit and seen. -/
theorem hit_testing_agrees_with_painting_lamps :
    ∃ c : Compositor Lamp, c.Arrives ∧ c.windows.hitTest ⟨60, 100⟩ = ⟨.content, some ⟨1⟩⟩ ∧
      ∃ ops c' passes, c.paint = .ok (ops, c') ∧ c.MatchesHits passes ops c' := by
  have keeps : KeepsClip Lamp := by
    rintro lamp _ window _ ⟨⟩ op mem
    rw [List.mem_singleton.mp mem]
    rfl
  have lower := Arrives.edit (.openWindow ⟨40, 50, 140, 150⟩ "Lower" .document .visible)
    (.start : Arrives (.initial : Compositor Lamp)) rfl
  have upper := Arrives.edit (.openWindow ⟨50, 60, 150, 160⟩ "Upper" .document .visible) lower rfl
  have lit := Arrives.edit (.attach ⟨1⟩ ⟨true⟩) upper rfl
  refine ⟨_, lit, by decide, ?_⟩
  rcases (hit_testing_agrees_with_painting keeps lit).1 with
    ⟨⟨ops, c'⟩, painted, passes, matching⟩ | ⟨window, _, lamp, fault, failed, _⟩
  · exact ⟨ops, c', passes, painted, matching⟩
  · cases failed

end Compositor

end TwinDesk
