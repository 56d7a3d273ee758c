import TwinDesk.Display.Canvas
import TwinDesk.Proofs.Window.Coverage

/-!
# Pixels of a canvas

Two pixels share a byte, and still painting one leaves all others alone. So what is painted in an
area is known pixel by pixel: those in the area and in the clip have the color that was asked for,
and no other has changed.

* `Frame.eq_of_byteIndex_eq` — a byte and a side of it belong to one pixel.
* `Canvas.pixel?_plot`, `Canvas.pixel?_fillWith` — pixels after painting.
* `Canvas.PaintedIn` — painting that keeps to a region.
-/

namespace TwinDesk

/-! ## Coordinates and rectangles -/

namespace Coord

theorem mem_span {low high x : Coord} :
    x ∈ span low high ↔ low.toInt ≤ x.toInt ∧ x.toInt < high.toInt := by
  have bounds := low.toInt_bounds
  have bounds' := high.toInt_bounds
  rw [span, List.mem_map]
  constructor
  · rintro ⟨i, mem, rfl⟩
    rw [List.mem_range] at mem
    rw [toInt_ofInt (by omega) (by omega)]
    omega
  · rintro ⟨low', high'⟩
    refine ⟨(x.toInt - low.toInt).toNat, List.mem_range.mpr (by omega), ?_⟩
    have value : low.toInt + ((x.toInt - low.toInt).toNat : Int) = x.toInt := by omega
    rw [value, Int16.ofInt_toInt]

end Coord

theorem Point.ext_toInt {p q : Point} (x : p.x.toInt = q.x.toInt) (y : p.y.toInt = q.y.toInt) :
    p = q := by
  cases p
  cases q
  rw [mk.injEq, ← Int16.toInt_inj, ← Int16.toInt_inj]
  exact ⟨x, y⟩

namespace Rect

variable {r : Rect} {p : Point}

theorem mem_span_and_mem_span :
    (p.y ∈ Coord.span r.top r.bottom ∧ p.x ∈ Coord.span r.left r.right) ↔
      r.contains p = true := by
  rw [Coord.mem_span, Coord.mem_span, contains_iff_toInt]
  omega

end Rect

/-! ## The place of a pixel -/

namespace Frame

variable {p q : Point}

theorem isRight_iff : isRight p = true ↔ p.x.toInt % 2 = 1 := by
  have bit : isRight p = p.x.toBitVec.getLsbD 0 := by
    rw [isRight, Bool.eq_iff_iff, bne_iff_ne, ne_eq, ← Int16.toBitVec_inj, Int16.toBitVec_and]
    show ¬ (p.x.toBitVec &&& 1#16) = 0#16 ↔ _
    rw [BitVec.and_one_eq_setWidth_ofBool_getLsbD]
    cases p.x.toBitVec.getLsbD 0 <;> decide
  rw [bit, BitVec.getLsbD, Nat.testBit_zero, decide_eq_true_iff, ← Int16.toInt_toBitVec,
    BitVec.toInt_eq_toNat_cond]
  split <;> omega

theorem toInt_byteIndex (onScreen : Layout.screen.contains p = true) :
    (byteIndex p : Int) = p.y.toInt * 160 + p.x.toInt / 2 := by
  have bounds := Rect.contains_screen_iff.mp onScreen
  have row : Layout.bytesPerRow = 160 := rfl
  rw [byteIndex, ← Int16.toNat_toInt, ← Int16.toNat_toInt, row]
  omega

theorem byteIndex_lt (onScreen : Layout.screen.contains p = true) :
    byteIndex p < Layout.frameBytes := by
  have index := toInt_byteIndex onScreen
  have bounds := Rect.contains_screen_iff.mp onScreen
  have bytes : Layout.frameBytes = 35840 := rfl
  omega

/-- No two pixels of the screen are the same half of the same byte. -/
theorem eq_of_byteIndex_eq (onScreen : Layout.screen.contains p = true)
    (onScreen' : Layout.screen.contains q = true) (index : byteIndex p = byteIndex q)
    (side : isRight p = isRight q) : p = q := by
  have value := toInt_byteIndex onScreen
  have value' := toInt_byteIndex onScreen'
  have bounds := Rect.contains_screen_iff.mp onScreen
  have bounds' := Rect.contains_screen_iff.mp onScreen'
  have parity : p.x.toInt % 2 = 1 ↔ q.x.toInt % 2 = 1 := by
    rw [← isRight_iff, ← isRight_iff, side]
  exact Point.ext_toInt (by omega) (by omega)

end Frame

/-! ## Painting -/

namespace Canvas

variable {canvas : Canvas} {p q : Point} {color : UInt8} {paint : Point → UInt8} {area : Rect}
  {y : Coord} {xs ys : List Coord}

theorem pixel?_eq (onScreen : Layout.screen.contains p = true)
    (bound : Frame.byteIndex p < Layout.frameBytes) :
    canvas.pixel? p = some (pixelOf canvas.frame[Frame.byteIndex p] (Frame.isRight p)) := by
  rw [pixel?, Frame.pixel?, if_pos onScreen, Vector.getElem?_toArray,
    Vector.getElem?_eq_getElem bound]
  rfl

theorem pixel?_eq_none (offScreen : Layout.screen.contains p = false) :
    canvas.pixel? p = none := by
  rw [pixel?, Frame.pixel?, offScreen]
  rfl

/-! ### One pixel -/

theorem plot_of_outside (outside : canvas.clip.contains q = false) :
    canvas.plot q color = canvas := by
  rw [plot, outside]
  rfl

theorem plot_of_inside (inside : canvas.clip.contains q = true)
    (bound : Frame.byteIndex q < Layout.frameBytes) : canvas.plot q color = { canvas with
      frame := canvas.frame.set (Frame.byteIndex q)
        (setPixel canvas.frame[Frame.byteIndex q] (Frame.isRight q) color) bound } := by
  rw [plot, if_pos inside]
  exact dif_pos bound

@[simp] theorem clip_plot : (canvas.plot q color).clip = canvas.clip := by
  unfold plot
  dsimp only
  split
  · split <;> rfl
  · rfl

theorem pixel?_plot (clip : canvas.clip.OnScreen) : (canvas.plot q color).pixel? p =
    if p = q ∧ canvas.clip.contains p = true then some (color &&& 0x0F) else canvas.pixel? p := by
  cases inside : canvas.clip.contains q with
  | false =>
    rw [plot_of_outside inside, if_neg]
    rintro ⟨rfl, inside'⟩
    cases inside.symm.trans inside'
  | true =>
    have onScreen' := clip.contains_screen inside
    rw [plot_of_inside inside (Frame.byteIndex_lt onScreen')]
    cases onScreen : Layout.screen.contains p with
    | false =>
      rw [pixel?_eq_none onScreen, pixel?_eq_none onScreen, if_neg]
      rintro ⟨rfl, -⟩
      cases onScreen.symm.trans onScreen'
    | true =>
      have bound := Frame.byteIndex_lt onScreen
      rw [pixel?_eq onScreen bound, pixel?_eq onScreen bound]
      by_cases same : p = q
      · subst same
        rw [if_pos ⟨rfl, inside⟩, Vector.getElem_set_self, pixel_setPixel]
      · rw [if_neg fun h => same h.1]
        by_cases index : Frame.byteIndex q = Frame.byteIndex p
        · -- the two share a byte, and so they are its two halves
          have side : Frame.isRight q = !Frame.isRight p := by
            rw [Bool.eq_not]
            exact fun side => same (Frame.eq_of_byteIndex_eq onScreen onScreen' index.symm side.symm)
          simp only [index, side, Vector.getElem_set_self, pixel_setPixel_other]
        · rw [Vector.getElem_set_ne _ _ index]

/-! ### Areas -/

@[simp] theorem clip_fillRow : (canvas.fillRow y xs paint).clip = canvas.clip := by
  unfold fillRow
  induction xs generalizing canvas with
  | nil => rfl
  | cons x rest ih => rw [List.foldl_cons, ih, clip_plot]

theorem pixel?_fillRow (clip : canvas.clip.OnScreen) : (canvas.fillRow y xs paint).pixel? p =
    if (p.y = y ∧ p.x ∈ xs) ∧ canvas.clip.contains p = true then some (paint p &&& 0x0F)
    else canvas.pixel? p := by
  unfold fillRow
  induction xs generalizing canvas with
  | nil => simp
  | cons x rest ih =>
    rw [List.foldl_cons, ih (by rwa [clip_plot]), clip_plot, pixel?_plot clip]
    obtain ⟨px, py⟩ := p
    grind

theorem clip_fillRows :
    (ys.foldl (fun canvas y => canvas.fillRow y xs paint) canvas).clip = canvas.clip := by
  induction ys generalizing canvas with
  | nil => rfl
  | cons y rest ih => rw [List.foldl_cons, ih, clip_fillRow]

theorem pixel?_fillRows (clip : canvas.clip.OnScreen) :
    (ys.foldl (fun canvas y => canvas.fillRow y xs paint) canvas).pixel? p =
      if (p.y ∈ ys ∧ p.x ∈ xs) ∧ canvas.clip.contains p = true then some (paint p &&& 0x0F)
      else canvas.pixel? p := by
  induction ys generalizing canvas with
  | nil => simp
  | cons y rest ih =>
    rw [List.foldl_cons, ih (by rwa [clip_fillRow]), clip_fillRow, pixel?_fillRow clip]
    grind

@[simp] theorem clip_fillWith : (canvas.fillWith area paint).clip = canvas.clip := by
  unfold fillWith
  dsimp only
  split
  · rfl
  · exact clip_fillRows

/-- The pixels in the area and in the clip are painted, and no others. -/
theorem pixel?_fillWith (clip : canvas.clip.OnScreen) : (canvas.fillWith area paint).pixel? p =
    if area.contains p = true ∧ canvas.clip.contains p = true then some (paint p &&& 0x0F)
    else canvas.pixel? p := by
  have covered : (area.intersection canvas.clip).contains p = true ↔
      area.contains p = true ∧ canvas.clip.contains p = true := Rect.contains_intersection_iff
  unfold fillWith
  dsimp only
  split
  · rename_i empty
    rw [if_neg]
    intro inside
    cases empty.symm.trans (Rect.not_isEmpty_of_contains (covered.mpr inside))
  · rw [pixel?_fillRows clip]
    simp only [Rect.mem_span_and_mem_span, covered, and_assoc, and_self]

/-! ### Painting that keeps to a region -/

/-- On the way from one canvas to another, only pixels of a region have changed, and of these only
such that lie in the clip, which has not changed. -/
structure PaintedIn (region : Point → Prop) (canvas painted : Canvas) : Prop where
  clip : painted.clip = canvas.clip
  changed : ∀ p, painted.pixel? p ≠ canvas.pixel? p → canvas.clip.contains p = true ∧ region p

namespace PaintedIn

variable {painted : Canvas} {region : Point → Prop}

theorem rfl : PaintedIn region canvas canvas :=
  ⟨by rfl, fun _ changed => absurd (by rfl) changed⟩

theorem eq_of_clipped (h : PaintedIn region canvas painted)
    (clipped : canvas.clip.contains p = false) : painted.pixel? p = canvas.pixel? p :=
  Decidable.byContradiction fun changed => by cases clipped.symm.trans (h.changed p changed).1

theorem eq_of_outside (h : PaintedIn region canvas painted) (outside : ¬ region p) :
    painted.pixel? p = canvas.pixel? p :=
  Decidable.byContradiction fun changed => outside (h.changed p changed).2

/-- One more area is painted. -/
theorem fillWith (h : PaintedIn region canvas painted) (clip : canvas.clip.OnScreen)
    (inside : ∀ p, area.contains p = true → region p) :
    PaintedIn region canvas (painted.fillWith area paint) := by
  refine ⟨clip_fillWith.trans h.clip, fun p changed => ?_⟩
  rw [pixel?_fillWith (h.clip ▸ clip)] at changed
  split at changed
  · rename_i covered
    rw [← h.clip]
    exact ⟨covered.2, inside p covered.1⟩
  · exact h.changed p changed

end PaintedIn

end Canvas

end TwinDesk
