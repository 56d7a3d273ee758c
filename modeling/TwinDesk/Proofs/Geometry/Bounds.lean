import TwinDesk.Geometry.Layout
import TwinDesk.Proofs.Checked

/-!
# Bounds of coordinates

Coordinates as integers: what every operation on them does, and which of them stay in range.

* `add_yields`, `sub_yields` — exact operations whose result is in range.
* `Rect.OnScreen`, `Rect.onScreen_clipTo` — clipping moves a rectangle onto the screen.
* `Coord.Within`, `Rect.Within` — bounds for what may lie a little off the screen.
-/

namespace TwinDesk

namespace Coord

/-! ## Coordinates as integers -/

variable (a b : Coord)

theorem toInt_addSat : (a.addSat b).toInt = max (-32768) (min 32767 (a.toInt + b.toInt)) :=
  toInt_saturate _

theorem toInt_subSat : (a.subSat b).toInt = max (-32768) (min 32767 (a.toInt - b.toInt)) :=
  toInt_saturate _

theorem toInt_min : (min a b).toInt = min a.toInt b.toInt := by
  show (if a ≤ b then a else b).toInt = _
  split
  case isTrue le =>
    rw [Int16.le_iff_toInt_le] at le
    omega
  case isFalse gt =>
    rw [Int16.le_iff_toInt_le] at gt
    omega

theorem toInt_max : (max a b).toInt = max a.toInt b.toInt := by
  show (if a ≤ b then b else a).toInt = _
  split
  case isTrue le =>
    rw [Int16.le_iff_toInt_le] at le
    omega
  case isFalse gt =>
    rw [Int16.le_iff_toInt_le] at gt
    omega

theorem toInt_clamp (low high : Coord) :
    (a.clamp low high).toInt = min (max a.toInt low.toInt) high.toInt := by
  rw [clamp, toInt_min, toInt_max]

theorem toInt_bounds : -32768 ≤ a.toInt ∧ a.toInt ≤ 32767 := by
  have := a.toInt_lt
  exact ⟨a.le_toInt, by omega⟩

/-- Halving rounds towards zero. -/
theorem two_mul_tdiv_two (n : Int) :
    (0 ≤ n ∧ n - 1 ≤ 2 * n.tdiv 2 ∧ 2 * n.tdiv 2 ≤ n) ∨
      (n ≤ 0 ∧ n ≤ 2 * n.tdiv 2 ∧ 2 * n.tdiv 2 ≤ n + 1) := by
  rcases Int.le_total 0 n with h | h
  · rw [Int.tdiv_eq_ediv_of_nonneg h]
    omega
  · have negated := Int.neg_tdiv (-n) 2
    rw [Int.neg_neg, Int.tdiv_eq_ediv_of_nonneg (Int.neg_nonneg_of_nonpos h)] at negated
    omega

theorem toInt_half_eq : a.half.toInt = a.toInt.tdiv 2 := by
  have bounds := a.toInt_bounds
  have halved := two_mul_tdiv_two a.toInt
  exact toInt_ofInt (by omega) (by omega)

/-- Half of a coordinate lies between zero and the coordinate. -/
theorem toInt_half : min 0 a.toInt ≤ a.half.toInt ∧ a.half.toInt ≤ max 0 a.toInt := by
  have halved := two_mul_tdiv_two a.toInt
  rw [toInt_half_eq]
  omega

/-! ## Exact operations -/

variable {a b}

theorem exact_yields {n : Int} (low : -32768 ≤ n) (high : n ≤ 32767) :
    Yields (exact n) fun c => c.toInt = n := by
  refine ⟨Int16.ofInt n, ?_, toInt_ofInt low high⟩
  rw [exact, if_pos ⟨low, high⟩]

theorem add_yields (low : -32768 ≤ a.toInt + b.toInt) (high : a.toInt + b.toInt ≤ 32767) :
    Yields (add a b) fun c => c.toInt = a.toInt + b.toInt :=
  exact_yields low high

theorem sub_yields (low : -32768 ≤ a.toInt - b.toInt) (high : a.toInt - b.toInt ≤ 32767) :
    Yields (sub a b) fun c => c.toInt = a.toInt - b.toInt :=
  exact_yields low high

/-- At most `bound` away from zero. -/
def Within (bound : Int) (c : Coord) : Prop :=
  -bound ≤ c.toInt ∧ c.toInt ≤ bound

instance (bound : Int) (c : Coord) : Decidable (Within bound c) :=
  inferInstanceAs (Decidable (_ ∧ _))

end Coord

/-- Both coordinates are at most `bound` away from zero. -/
structure Point.Within (bound : Int) (p : Point) : Prop where
  x : p.x.Within bound
  y : p.y.Within bound

theorem Point.Within.mono {p : Point} {bound bound' : Int} (h : p.Within bound)
    (le : bound ≤ bound') : p.Within bound' := by
  obtain ⟨x, y⟩ := h
  unfold Coord.Within at x y
  exact ⟨⟨by omega, by omega⟩, by omega, by omega⟩

theorem Point.within_mk {x y : Coord} {bound : Int} (hx : x.Within bound) (hy : y.Within bound) :
    Within bound ⟨x, y⟩ :=
  ⟨hx, hy⟩

namespace Rect

/-- All edges lie on the screen or at its far edges. -/
structure OnScreen (r : Rect) : Prop where
  left : 0 ≤ r.left.toInt ∧ r.left.toInt ≤ 320
  top : 0 ≤ r.top.toInt ∧ r.top.toInt ≤ 224
  right : 0 ≤ r.right.toInt ∧ r.right.toInt ≤ 320
  bottom : 0 ≤ r.bottom.toInt ∧ r.bottom.toInt ≤ 224

/-- All edges are at most `bound` away from zero. -/
structure Within (bound : Int) (r : Rect) : Prop where
  left : r.left.Within bound
  top : r.top.Within bound
  right : r.right.Within bound
  bottom : r.bottom.Within bound

theorem toInt_screen : (Layout.screen.left.toInt = 0 ∧ Layout.screen.top.toInt = 0) ∧
    Layout.screen.right.toInt = 320 ∧ Layout.screen.bottom.toInt = 224 := by
  decide

theorem onScreen_screen : Layout.screen.OnScreen :=
  ⟨by decide, by decide, by decide, by decide⟩

/-- Clipping moves a rectangle onto the screen. -/
theorem onScreen_clipTo (r : Rect) : (r.clipTo Layout.screen).OnScreen := by
  have screen := toInt_screen
  constructor
  · rw [clipTo, Coord.toInt_clamp]
    omega
  · rw [clipTo, Coord.toInt_clamp]
    omega
  · rw [clipTo, Coord.toInt_clamp]
    omega
  · rw [clipTo, Coord.toInt_clamp]
    omega

theorem within_mk {left top right bottom : Coord} {bound : Int} (hl : left.Within bound)
    (ht : top.Within bound) (hr : right.Within bound) (hb : bottom.Within bound) :
    Within bound ⟨left, top, right, bottom⟩ :=
  ⟨hl, ht, hr, hb⟩

theorem Within.mono {r : Rect} {bound bound' : Int} (h : r.Within bound) (le : bound ≤ bound') :
    r.Within bound' := by
  obtain ⟨left, top, right, bottom⟩ := h
  unfold Coord.Within at left top right bottom
  exact ⟨⟨by omega, by omega⟩, ⟨by omega, by omega⟩, ⟨by omega, by omega⟩, by omega, by omega⟩

theorem OnScreen.within {r : Rect} (h : r.OnScreen) : r.Within 320 := by
  obtain ⟨left, top, right, bottom⟩ := h
  exact ⟨⟨by omega, by omega⟩, ⟨by omega, by omega⟩, ⟨by omega, by omega⟩, by omega, by omega⟩

variable {r : Rect} {bound : Int}

theorem toInt_width (r : Rect) :
    r.width.toInt = max 0 (min 32767 (r.right.toInt - r.left.toInt)) := by
  unfold width
  split
  case isTrue lt =>
    rw [Int16.lt_iff_toInt_lt] at lt
    rw [Coord.toInt_subSat]
    omega
  case isFalse ge =>
    rw [Int16.lt_iff_toInt_lt] at ge
    have zero : (0 : Coord).toInt = 0 := rfl
    omega

theorem toInt_height (r : Rect) :
    r.height.toInt = max 0 (min 32767 (r.bottom.toInt - r.top.toInt)) := by
  unfold height
  split
  case isTrue lt =>
    rw [Int16.lt_iff_toInt_lt] at lt
    rw [Coord.toInt_subSat]
    omega
  case isFalse ge =>
    rw [Int16.lt_iff_toInt_lt] at ge
    have zero : (0 : Coord).toInt = 0 := rfl
    omega

theorem Within.toInt_width (h : r.Within bound) (small : bound ≤ 10000) :
    r.width.toInt = max 0 (r.right.toInt - r.left.toInt) := by
  have left := h.left
  have right := h.right
  unfold Coord.Within at left right
  rw [r.toInt_width]
  omega

theorem Within.toInt_height (h : r.Within bound) (small : bound ≤ 10000) :
    r.height.toInt = max 0 (r.bottom.toInt - r.top.toInt) := by
  have top := h.top
  have bottom := h.bottom
  unfold Coord.Within at top bottom
  rw [r.toInt_height]
  omega

theorem Within.width (h : r.Within bound) (small : bound ≤ 10000) :
    0 ≤ r.width.toInt ∧ r.width.toInt ≤ 2 * bound := by
  have left := h.left
  have right := h.right
  unfold Coord.Within at left right
  rw [h.toInt_width small]
  omega

theorem Within.height (h : r.Within bound) (small : bound ≤ 10000) :
    0 ≤ r.height.toInt ∧ r.height.toInt ≤ 2 * bound := by
  have top := h.top
  have bottom := h.bottom
  unfold Coord.Within at top bottom
  rw [h.toInt_height small]
  omega

end Rect

namespace Layout

theorem toInt_textWidth {text : String} (short : text.length ≤ 5000) :
    (textWidth text).toInt = 6 * text.length := by
  have value : (Int16.ofNat text.length).toInt = text.length :=
    Int16.toInt_ofNat_of_lt (by omega)
  have advance : glyphAdvance.toInt = 6 := rfl
  rw [textWidth, Coord.mulSat, Coord.toInt_saturate, value, advance]
  omega

/-- A short text is narrow. -/
theorem textWidth_of_short {text : String} {bound : Nat} (short : text.length ≤ bound)
    (small : bound ≤ 128) :
    0 ≤ (textWidth text).toInt ∧ (textWidth text).toInt ≤ 6 * bound := by
  rw [toInt_textWidth (by omega)]
  omega

end Layout

end TwinDesk
