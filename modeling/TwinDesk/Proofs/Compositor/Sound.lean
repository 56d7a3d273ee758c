import TwinDesk.Compositor
import TwinDesk.Proofs.Menu.Sound
import TwinDesk.Proofs.Window.Sound

/-!
# A sound compositor

The invariant of the compositor: sound windows, sound menus, and contents that satisfy a predicate
of their own. Every operation keeps it and succeeds, and painting lists sound operations.

* `KeepsGood` — what has to be known about the contents.
* `Compositor.Sound`, `Compositor.paint_yields` — the invariant, and painting.
-/

namespace TwinDesk

/-! ## Drawing operations -/

/-- What holds of a drawing operation at all times. -/
def PaintOp.Sound : PaintOp → Prop
  | .text corner label => corner.Within 2000 ∧ label.length ≤ 100
  | .windowFrame window => window.Sound
  | .menuBar menus => menus.Sound
  | .dropdown menus => menus.Sound
  | _ => True

/-! ## The compositor -/

/-- Contents that satisfy `Good` go on doing so, and draw sound operations. -/
structure KeepsGood (P : Type) [WindowContent P] (Good : P → Prop) : Prop where
  draw : ∀ {content : P} {window : Window}, Good content → window.Sound →
    Yields (WindowContent.draw content window) fun result =>
      Good result.1 ∧ ∀ op ∈ result.2, op.Sound
  click : ∀ {content : P} {window : Window} (p : Point), Good content → window.Sound →
    Yields (WindowContent.click content window p) fun result => Good result.1
  drag : ∀ {content : P} {window : Window} (p : Point), Good content → window.Sound →
    Yields (WindowContent.drag content window p) fun result => Good result.1

namespace Compositor

variable {P : Type} {Good : P → Prop} {c : Compositor P}

/-- All contents satisfy `Good`. -/
def AllGood (Good : P → Prop) (contents : SlotTable (Option P)) : Prop :=
  ∀ slot content, contents.get slot = some content → Good content

theorem AllGood.set {contents : SlotTable (Option P)} (h : AllGood Good contents) (slot : Slot)
    {value : Option P} (good : ∀ content ∈ value, Good content) :
    AllGood Good (contents.set slot value) := by
  intro other content known
  by_cases same : other = slot
  · subst same
    rw [SlotTable.get_set_self] at known
    exact good content known
  · rw [SlotTable.get_set_of_ne _ _ same] at known
    exact h other content known

/-- What holds of the compositor at all times. -/
structure Sound (Good : P → Prop) (c : Compositor P) : Prop where
  windows : c.windows.Sound
  menus : c.menus.Sound
  contents : AllGood Good c.contents

namespace Sound

variable (h : c.Sound Good)
include h

theorem invalidate (rect : Rect) : (c.invalidate rect).Sound Good := by
  unfold Compositor.invalidate
  exact ⟨h.windows.invalidate rect, h.menus, h.contents⟩

theorem openWindow (frame : Rect) (title : String) (style : WindowStyle) (flags : WindowFlags) :
    (c.openWindow frame title style flags).2.Sound Good :=
  ⟨h.windows.allocate frame title style flags, h.menus, h.contents⟩

theorem closeWindow (id : WindowId) : (c.closeWindow id).2.Sound Good := by
  have closed := h.windows.free id
  unfold Compositor.closeWindow
  split
  · rename_i windows slot eq _
    rw [eq] at closed
    exact ⟨closed, h.menus, h.contents.set slot (by rintro content ⟨⟩)⟩
  · rename_i result windows _ eq _
    rw [eq] at closed
    exact ⟨closed, h.menus, h.contents⟩

theorem attach (id : WindowId) {content : P} (good : Good content) :
    (c.attach id content).2.Sound Good := by
  unfold Compositor.attach
  split
  · exact h
  · rename_i slot window _
    have attached : Sound Good { c with contents := c.contents.set slot (some content) } := by
      refine ⟨h.windows, h.menus, h.contents.set slot fun other mem => ?_⟩
      cases mem
      exact good
    exact attached.invalidate _

theorem forward_yields (id : WindowId) {input : P → Window → Checked (P × Bool)}
    (keeps : ∀ {content : P} {window : Window}, Good content → window.Sound →
      Yields (input content window) fun result => Good result.1) :
    Yields (c.forward id input) fun result => result.2.Sound Good := by
  unfold forward
  split
  · exact .pure h
  · rename_i slot window found
    have known := (Pool.find?_eq_some_iff.mp found).2
    split
    · exact .pure h
    · rename_i content present
      refine (keeps (h.contents slot content present) (h.windows slot window known).1).bind
        fun result good => .pure ?_
      have changed : Sound Good { c with contents := c.contents.set slot (some result.1) } := by
        refine ⟨h.windows, h.menus, h.contents.set slot fun other mem => ?_⟩
        cases mem
        exact good
      show Sound Good (if result.2 then _ else _)
      split
      · exact changed.invalidate _
      · exact changed

theorem moveCursor (p : Point) : (c.moveCursor p).Sound Good := by
  have moved : Sound Good { c with cursor := p } := ⟨h.windows, h.menus, h.contents⟩
  exact (moved.invalidate _).invalidate _

theorem trackMenu_yields {α : Type} {step : MenuBar → Checked (α × MenuBar)}
    (keeps : Yields (step c.menus) fun result => result.2.Sound) :
    Yields (c.trackMenu step) fun result => result.2.Sound Good := by
  refine h.menus.fits.dropdownArea_yields.bind ?_
  intro before _
  refine keeps.bind ?_
  intro result sound
  exact sound.fits.dropdownArea_yields.bind fun after _ =>
    .pure ⟨h.windows.of_slots rfl, sound, h.contents⟩

theorem menuMouseDown_yields (p : Point) :
    Yields (c.menuMouseDown p) fun result => result.2.Sound Good :=
  h.trackMenu_yields (h.menus.mouseDown_yields p)

theorem menuMouseMove_yields (p : Point) : Yields (c.menuMouseMove p) (Sound Good) := by
  refine Yields.bind (Q := fun result : Unit × Compositor P => result.2.Sound Good) ?_
    fun result sound => .pure sound
  exact h.trackMenu_yields ((h.menus.mouseMove_yields p).bind fun bar sound => .pure sound)

theorem menuMouseUp_yields : Yields c.menuMouseUp fun result => result.2.Sound Good :=
  h.trackMenu_yields h.menus.mouseUp_yields

end Sound

/-! ### Painting -/

section

variable [WindowContent P] (keeps : KeepsGood P Good)
include keeps

theorem drawContent_yields {contents : SlotTable (Option P)} (good : AllGood Good contents)
    {window : Window} (sound : window.Sound) :
    Yields (drawContent contents window) fun result =>
      (∀ op ∈ result.1, op.Sound) ∧ AllGood Good result.2 := by
  have nothing : Yields (return ([], contents)) fun result : List PaintOp × SlotTable (Option P) =>
      (∀ op ∈ result.1, op.Sound) ∧ AllGood Good result.2 :=
    .pure ⟨fun _ none => absurd none List.not_mem_nil, good⟩
  unfold drawContent
  split
  · exact nothing
  · rename_i slot _
    split
    · exact nothing
    · rename_i content present
      refine (keeps.draw (good slot content present) sound).bind fun result known => .pure ?_
      refine ⟨known.2, good.set slot fun other mem => ?_⟩
      cases mem
      exact known.1

theorem drawWindows_yields (clip : Rect) {windows : List Window}
    (sound : ∀ window ∈ windows, window.Sound) {contents : SlotTable (Option P)}
    (good : AllGood Good contents) :
    Yields (drawWindows clip windows contents) fun result =>
      (∀ op ∈ result.1, op.Sound) ∧ AllGood Good result.2 := by
  induction windows generalizing contents with
  | nil => exact .pure ⟨fun _ none => absurd none List.not_mem_nil, good⟩
  | cons window rest ih =>
    have here := sound window List.mem_cons_self
    have later := fun window mem => sound window (List.mem_cons_of_mem _ mem)
    unfold drawWindows
    split
    · refine (drawContent_yields keeps good here).bind ?_
      intro result known
      refine (ih later known.2).bind fun others known' => .pure ⟨?_, known'.2⟩
      exact List.forall_mem_cons.mpr ⟨here, List.forall_mem_append.mpr ⟨known.1, known'.1⟩⟩
    · exact ih later good

theorem drawRects_yields (pattern : DesktopPattern) {windows : List Window}
    (sound : ∀ window ∈ windows, window.Sound) (clips : List Rect)
    {contents : SlotTable (Option P)} (good : AllGood Good contents) :
    Yields (drawRects pattern windows clips contents) fun result =>
      (∀ op ∈ result.1, op.Sound) ∧ AllGood Good result.2 := by
  induction clips generalizing contents with
  | nil => exact .pure ⟨fun _ none => absurd none List.not_mem_nil, good⟩
  | cons clip rest ih =>
    refine (drawWindows_yields keeps clip sound good).bind ?_
    intro result known
    refine (ih known.2).bind fun others known' => .pure ⟨?_, known'.2⟩
    exact List.forall_mem_cons.mpr ⟨trivial, List.forall_mem_cons.mpr ⟨trivial,
      List.forall_mem_append.mpr ⟨known.1, known'.1⟩⟩⟩

/-- Painting a sound compositor lists sound operations. -/
theorem paint_yields (h : c.Sound Good) :
    Yields c.paint fun result => (∀ op ∈ result.1, op.Sound) ∧ result.2.Sound Good := by
  have sound : ∀ window ∈ c.windows.backToFront, window.Sound :=
    fun window mem => h.windows.of_mem_backToFront mem
  have overlays : ∀ op ∈ c.overlays, op.Sound := by
    intro op mem
    unfold Compositor.overlays at mem
    have menus := h.menus
    split at mem <;> split at mem <;> simp at mem <;> grind [PaintOp.Sound]
  refine (drawRects_yields keeps _ sound _ h.contents).bind fun result known => .pure ⟨?_, ?_⟩
  · exact List.forall_mem_append.mpr ⟨known.1, overlays⟩
  · exact ⟨h.windows.of_slots rfl, h.menus, known.2⟩

end

end Compositor

end TwinDesk
