import TwinDesk.Proofs.Geometry.Edges
import TwinDesk.Proofs.Window.Pending

/-!
# Parts in their places

The parts of a window follow from its frame, and a frame may be anything: crossed, a pixel wide, or
at the ends of the range of coordinates. A part that would not fit is empty, and all others lie where
they belong.

* `Rect.LiesIn` — a rectangle that is empty, or lies inside of others.
* `Decoration.WellPlaced`, `Decoration.wellPlaced_ofFrame` — title bar and content, in any frame.
* `Window.WellPlaced`, `Window.Sound.wellPlaced` — all parts of a sound window.
* `Pool.parts_wellPlaced` — the windows of a pool, after any use of it.
-/

namespace TwinDesk

namespace Rect

/-- The rectangle covers nothing, or lies inside of the bounds. -/
def LiesIn (r : Rect) (bounds : Edges) : Prop :=
  r.isEmpty = true ∨ r.edges.Inside bounds

variable {r bar inner frame : Rect} {bounds : Edges}

theorem LiesIn.of_nonempty
    (inside : r.left.toInt < r.right.toInt → r.top.toInt < r.bottom.toInt →
      r.edges.Inside bounds) : r.LiesIn bounds := by
  unfold LiesIn
  cases covers : r.isEmpty with
  | true => exact .inl rfl
  | false =>
    obtain ⟨wide, high⟩ := isEmpty_eq_false_iff.mp covers
    exact .inr (inside wide high)

/-- What is cut to a rectangle lies in it. -/
theorem intersection_liesIn (box bar : Rect) : (box.intersection bar).LiesIn bar.edges := by
  apply LiesIn.of_nonempty
  intro _ _
  simp only [Edges.inside_iff, edges, intersection, Coord.toInt_max, Coord.toInt_min]
  omega

theorem isEmpty_intersection (box : Rect) (empty : bar.isEmpty = true) :
    (box.intersection bar).isEmpty = true := by
  rw [isEmpty_iff, Int16.le_iff_toInt_le, Int16.le_iff_toInt_le] at empty ⊢
  simp only [intersection, Coord.toInt_max, Coord.toInt_min]
  omega

/-- Taking the border off a frame saturates at the far ends only. -/
theorem toInt_inset (frame : Rect) :
    frame.inset.left.toInt = min 32767 (frame.left.toInt + 1) ∧
      frame.inset.top.toInt = min 32767 (frame.top.toInt + 1) ∧
      frame.inset.right.toInt = max (-32768) (frame.right.toInt - 1) ∧
      frame.inset.bottom.toInt = max (-32768) (frame.bottom.toInt - 1) := by
  have range := frame.toInt_bounds
  have border : Layout.borderWidth.toInt = 1 := rfl
  simp only [inset, Coord.toInt_addSat, Coord.toInt_subSat, border]
  omega

/-- Where it saturates, nothing is left inside of the border. -/
theorem inset_liesIn (frame : Rect) : frame.inset.LiesIn frame.edges.inset := by
  have range := frame.toInt_bounds
  have inner := frame.toInt_inset
  apply LiesIn.of_nonempty
  intro wide high
  simp only [Edges.inside_iff, edges, Edges.inset]
  omega

theorem isEmpty_inset (empty : frame.isEmpty = true) : frame.inset.isEmpty = true := by
  have range := frame.toInt_bounds
  have inner := frame.toInt_inset
  rw [isEmpty_iff, Int16.le_iff_toInt_le, Int16.le_iff_toInt_le] at empty ⊢
  omega

theorem OnScreen.edges_inset (h : frame.OnScreen) : frame.inset.edges = frame.edges.inset := by
  obtain ⟨left, top, right, bottom⟩ := h
  have inner := frame.toInt_inset
  simp only [edges, Edges.inset, Edges.mk.injEq]
  omega

end Rect

/-! ## Title bar and content -/

namespace Decoration

/-- Title bar and content lie inside of the border, and apart from each other. -/
structure WellPlaced (frame : Rect) (decoration : Decoration) : Prop where
  titleBar : decoration.titleBar.LiesIn frame.edges.inset
  content : decoration.content.LiesIn frame.edges.inset
  apart : ∀ p, decoration.titleBar.contains p = true → decoration.content.contains p = false

variable {frame : Rect} {style : WindowStyle}

theorem ofFrame_plain (plain : style.hasTitleBar = false) :
    ofFrame frame style = ⟨.empty, frame.inset⟩ := by
  unfold ofFrame
  rw [plain]
  rfl

/-- The content begins one pixel below the title bar, wherever that one has to end. -/
theorem ofFrame_titled (frame : Rect) (titled : style.hasTitleBar = true) : ∃ barBottom : Coord,
    barBottom.toInt = min (min 32767 (frame.inset.top.toInt + 18)) frame.inset.bottom.toInt ∧
    ofFrame frame style = ⟨⟨frame.inset.left, frame.inset.top, frame.inset.right, barBottom⟩,
      ⟨frame.inset.left, barBottom.addSat 1, frame.inset.right, frame.inset.bottom⟩⟩ := by
  have top := frame.inset.top.toInt_bounds
  have bar : Layout.titleBarHeight.toInt = 18 := rfl
  unfold ofFrame
  rw [titled]
  refine ⟨_, ?_, rfl⟩
  rw [Coord.toInt_min, Coord.toInt_addSat, bar]
  omega

/-- Title bar and content are in their places, whatever the frame. -/
theorem wellPlaced_ofFrame (frame : Rect) (style : WindowStyle) :
    (ofFrame frame style).WellPlaced frame := by
  cases titled : style.hasTitleBar with
  | false =>
    rw [ofFrame_plain titled]
    refine ⟨.inl rfl, frame.inset_liesIn, ?_⟩
    intro p inside
    cases Rect.not_isEmpty_of_contains inside
  | true =>
    obtain ⟨barBottom, bar, decoration⟩ := ofFrame_titled frame titled
    have one : (1 : Coord).toInt = 1 := rfl
    have range := frame.toInt_bounds
    have inner := frame.toInt_inset
    rw [decoration]
    constructor
    case titleBar =>
      apply Rect.LiesIn.of_nonempty
      simp only [Edges.inside_iff, Rect.edges, Edges.inset]
      omega
    case content =>
      apply Rect.LiesIn.of_nonempty
      simp only [Edges.inside_iff, Rect.edges, Edges.inset, Coord.toInt_addSat, one]
      omega
    case apart =>
      intro p
      simp only [← Bool.not_eq_true, Rect.contains_iff_toInt, Coord.toInt_addSat, one]
      omega

/-- In an empty frame there is room for nothing. -/
theorem isEmpty_ofFrame (style : WindowStyle) (empty : frame.isEmpty = true) :
    (ofFrame frame style).titleBar.isEmpty = true ∧ (ofFrame frame style).content.isEmpty = true := by
  have inside : frame.inset.isEmpty = true := Rect.isEmpty_inset empty
  cases titled : style.hasTitleBar with
  | false =>
    rw [ofFrame_plain titled]
    exact ⟨rfl, inside⟩
  | true =>
    obtain ⟨barBottom, bar, decoration⟩ := ofFrame_titled frame titled
    have one : (1 : Coord).toInt = 1 := rfl
    have bottom := frame.inset.bottom.toInt_bounds
    rw [decoration]
    simp only [Rect.isEmpty_iff, Int16.le_iff_toInt_le, Coord.toInt_addSat, one] at inside ⊢
    omega

end Decoration

/-! ## All parts -/

namespace Window

/-- The parts of a window are in their places. -/
structure WellPlaced (window : Window) : Prop where
  frame : window.frame.OnScreen
  decoration : window.decoration = .ofFrame window.frame window.style
  closeBox : ∀ box ∈ window.closeBox?, box.LiesIn window.titleBar.edges
  growBox : ∀ box ∈ window.growBox?, box.LiesIn window.frame.edges.inset
  /-- A window without pixels has no parts with pixels. -/
  hidden : window.frame.isEmpty = true →
    window.titleBar.isEmpty = true ∧ window.content.isEmpty = true ∧
      (∀ box ∈ window.closeBox?, box.isEmpty = true) ∧
      ∀ box ∈ window.growBox?, box.isEmpty = true

variable {window : Window} {box : Rect}

theorem closeBox?_eq_some (known : window.closeBox? = some box) :
    ∃ uncut : Rect, box = uncut.intersection window.titleBar := by
  unfold closeBox? at known
  split at known
  · exact ⟨_, (Option.some.inj known).symm⟩
  · cases known

theorem growBox?_eq_some (known : window.growBox? = some box) :
    ∃ uncut : Rect, box = uncut.intersection window.frame.inset := by
  unfold growBox? at known
  split at known
  · exact ⟨_, (Option.some.inj known).symm⟩
  · cases known

theorem Sound.wellPlaced (sound : window.Sound) : window.WellPlaced := by
  constructor
  case frame => exact sound.frame
  case decoration => exact sound.decoration
  case closeBox =>
    intro box known
    obtain ⟨uncut, rfl⟩ := closeBox?_eq_some known
    exact Rect.intersection_liesIn uncut window.titleBar
  case growBox =>
    intro box known
    obtain ⟨uncut, rfl⟩ := growBox?_eq_some known
    rw [← sound.frame.edges_inset]
    exact Rect.intersection_liesIn uncut window.frame.inset
  case hidden =>
    intro empty
    obtain ⟨titleBar, content⟩ :=
      Decoration.isEmpty_ofFrame window.style empty
    rw [← sound.decoration] at titleBar content
    refine ⟨titleBar, content, ?_, ?_⟩
    · intro box known
      obtain ⟨uncut, rfl⟩ := closeBox?_eq_some known
      exact Rect.isEmpty_intersection uncut titleBar
    · intro box known
      obtain ⟨uncut, rfl⟩ := growBox?_eq_some known
      exact Rect.isEmpty_intersection uncut (Rect.isEmpty_inset empty)

end Window

namespace Pool

/-- Title bar and content are in their places in any frame, and so are all parts of a window,
after any use of the pool. -/
theorem parts_wellPlaced :
    (∀ frame style, (Decoration.ofFrame frame style).WellPlaced frame) ∧
      ∀ (actions : List Action) id window,
        (actions.foldl Action.run empty).get? id = some window → window.WellPlaced := by
  refine ⟨Decoration.wellPlaced_ofFrame, ?_⟩
  intro actions id window known
  obtain ⟨slot, -, occupied⟩ := get?_eq_some_iff.mp known
  exact (Action.sound_run actions sound_empty slot window occupied).1.wellPlaced

/-- A document window is opened with its edges crossed. -/
def crossed : Pool :=
  [Action.perform (.edit (.allocate ⟨108, 104, 8, 24⟩ "A" .document .visible))].foldl Action.run empty

/-- The window has a close box, of which nothing can be seen. -/
theorem parts_wellPlaced_crossed : ∃ window box,
    crossed.get? ⟨0⟩ = some window ∧ window.closeBox? = some box ∧ box.isEmpty = true := by
  have opened : (crossed.get? ⟨0⟩).map (fun window =>
      (window.frame.isEmpty, window.closeBox?.isSome)) = some (true, true) := by decide
  obtain ⟨window, known, shape⟩ := Option.map_eq_some_iff.mp opened
  obtain ⟨empty, boxed⟩ := Prod.mk.inj shape
  obtain ⟨box, boxed⟩ := Option.isSome_iff_exists.mp boxed
  have hidden := (parts_wellPlaced.2 _ _ window known).hidden empty
  exact ⟨window, box, known, boxed, hidden.2.2.1 box boxed⟩

end Pool

end TwinDesk
