import TwinDesk.Proofs.Compositor.Pointing
import TwinDesk.Proofs.Window.BoundingBoxes

/-!
# Rectangles that share a pixel

Whether two rectangles meet is decided edge by edge. Of rectangles that cover something, this tells
whether they share a pixel. A flat rectangle shares no pixel with any other, and still it meets the
rectangles that it lies within. The damage has no flat rectangles, so that what is merged there does
share a pixel; a window with a flat frame may be painted where nothing of it is seen.

* `Rect.Overlaps`, `Rect.overlaps_iff_intersection`, `Rect.overlaps_iff_intersects` — shared pixels,
  and the two ways to tell.
* `Damage.MergesShared`, `Compositor.PaintsShared` — what is merged, and what is painted.
* `Compositor.shared_pixels_decide` — all of this, for any rectangles, reports and windows.
-/

namespace TwinDesk

namespace Rect

variable {r other : Rect} {p : Point}

/-! ## Two rectangles -/

/-- Some pixel is in both rectangles. -/
def Overlaps (r other : Rect) : Prop :=
  ∃ p : Point, r.contains p = true ∧ other.contains p = true

/-- A rectangle that covers something covers its origin. -/
theorem exists_contains_iff : (∃ p, r.contains p = true) ↔ r.isEmpty = false := by
  constructor
  · rintro ⟨p, inside⟩
    exact not_isEmpty_of_contains inside
  · intro shown
    refine ⟨r.origin, ?_⟩
    rw [isEmpty_eq_false_iff] at shown
    exact contains_iff_toInt.mpr ⟨Int.le_refl _, shown.1, Int.le_refl _, shown.2⟩

theorem overlaps_iff_intersection :
    r.Overlaps other ↔ (r.intersection other).isEmpty = false := by
  rw [← exists_contains_iff]
  exact exists_congr fun _ => contains_intersection_iff.symm

instance : Decidable (r.Overlaps other) :=
  decidable_of_iff _ overlaps_iff_intersection.symm

/-- Edge by edge, flat rectangles have to be told apart. -/
theorem overlaps_iff_intersects : r.Overlaps other ↔
    r.intersects other = true ∧ r.isEmpty = false ∧ other.isEmpty = false := by
  simp only [overlaps_iff_intersection, isEmpty_eq_false_iff, intersects_iff_toInt, intersection,
    Coord.toInt_max, Coord.toInt_min]
  omega

/-- A flat rectangle meets the rectangle around it, and shares no pixel with it. -/
theorem flat_meets_without_sharing :
    (⟨0, 0, 10, 10⟩ : Rect).intersects ⟨5, 5, 5, 8⟩ = true ∧
      ¬ (⟨0, 0, 10, 10⟩ : Rect).Overlaps ⟨5, 5, 5, 8⟩ ∧
      ((⟨0, 0, 10, 10⟩ : Rect).intersection ⟨5, 5, 5, 8⟩).isEmpty = true := by
  decide

/-! ### On the screen -/

/-- Clipping to the screen does not matter to what is on it. -/
theorem OnScreen.overlaps_clipTo (h : r.OnScreen) :
    r.Overlaps (other.clipTo Layout.screen) ↔ r.Overlaps other :=
  exists_congr fun _ => and_congr_right fun inside =>
    contains_clipTo_iff (h.contains_screen inside)

/-- What is left of a rectangle on the screen covers something if the rectangle reached it. -/
theorem isEmpty_clipTo : (r.clipTo Layout.screen).isEmpty = false ↔ Layout.screen.Overlaps r := by
  rw [← onScreen_screen.overlaps_clipTo, ← exists_contains_iff]
  exact exists_congr fun _ =>
    (and_iff_right_of_imp r.onScreen_clipTo.contains_screen).symm

end Rect

/-! ## Damage -/

namespace Damage

variable {damage : Damage} {rect r : Rect} {rects reported : List Rect} {i : ℕ}

/-- A report is merged into the first rectangle that shares a pixel with it. -/
structure MergesShared (damage : Damage) (rect : Rect) : Prop where
  hidden : ¬ Layout.screen.Overlaps rect → damage.invalidate rect = damage
  merged : ∀ (i : ℕ) (r : Rect), damage.rects[i]? = some r → r.Overlaps rect →
    (∀ j < i, ∀ earlier ∈ damage.rects[j]?, ¬ earlier.Overlaps rect) →
    (damage.invalidate rect).rects = damage.rects.set i (r.union (rect.clipTo Layout.screen))
  apart : Layout.screen.Overlaps rect → (∀ r ∈ damage.rects, ¬ r.Overlaps rect) →
    (damage.invalidate rect).rects = append (rect.clipTo Layout.screen) damage.rects

theorem mergeFirst?_of_first (known : rects[i]? = some r) (meets : r.intersects rect = true)
    (first : ∀ j < i, ∀ earlier ∈ rects[j]?, earlier.intersects rect = false) :
    mergeFirst? rect rects = some (rects.set i (r.union rect)) := by
  induction rects generalizing i with
  | nil => cases known
  | cons head rest ih =>
    unfold mergeFirst?
    cases i with
    | zero =>
      cases known
      rw [if_pos meets]
      rfl
    | succ i =>
      have here : head.intersects rect = false := first 0 (Nat.zero_lt_succ i) head rfl
      have later := ih known fun j lt => first (j + 1) (Nat.succ_lt_succ lt)
      rw [here, if_neg Bool.false_ne_true, later]
      rfl

theorem mergeFirst?_of_apart (apart : ∀ r ∈ rects, r.intersects rect = false) :
    mergeFirst? rect rects = none := by
  cases merged : mergeFirst? rect rects with
  | none => rfl
  | some rects' =>
    obtain ⟨i, r, known, meets, -⟩ := mergeFirst?_eq_some merged
    cases (apart r (List.mem_of_getElem? known)).symm.trans meets

/-- In the damage nothing is flat, so what meets a report shares a pixel with it. -/
theorem MadeOf.intersects_iff (h : damage.MadeOf reported) (mem : r ∈ damage.rects)
    (shows : (rect.clipTo Layout.screen).isEmpty = false) :
    r.intersects (rect.clipTo Layout.screen) = true ↔ r.Overlaps rect := by
  rw [← (h.onScreen mem).overlaps_clipTo, Rect.overlaps_iff_intersects]
  exact (and_iff_left ⟨h.not_empty mem, shows⟩).symm

theorem MadeOf.mergesShared (h : damage.MadeOf reported) (rect : Rect) :
    damage.MergesShared rect := by
  have apart {r : Rect} (mem : r ∈ damage.rects)
      (shows : (rect.clipTo Layout.screen).isEmpty = false) (sharesNone : ¬ r.Overlaps rect) :
      r.intersects (rect.clipTo Layout.screen) = false :=
    Bool.eq_false_iff.mpr fun meets => sharesNone ((h.intersects_iff mem shows).mp meets)
  constructor
  · intro outside
    rw [← Rect.isEmpty_clipTo, Bool.not_eq_false] at outside
    exact invalidate_of_isEmpty outside
  · intro i r known shares first
    have mem := List.mem_of_getElem? known
    obtain ⟨p, inside, reached⟩ := shares
    have shows := Rect.isEmpty_clipTo.mpr ⟨p, (h.onScreen mem).contains_screen inside, reached⟩
    have meets := (h.intersects_iff mem shows).mpr ⟨p, inside, reached⟩
    have merged := mergeFirst?_of_first known meets fun j lt earlier known =>
      apart (List.mem_of_getElem? known) shows (first j lt earlier known)
    rw [Damage.invalidate, shows, if_neg Bool.false_ne_true, merged]
    rfl
  · intro reached sharesNone
    have shows := Rect.isEmpty_clipTo.mpr reached
    have none := mergeFirst?_of_apart fun r mem => apart mem shows (sharesNone r mem)
    rw [Damage.invalidate, shows, if_neg Bool.false_ne_true, none]
    rfl

end Damage

/-! ## Windows -/

namespace Compositor

variable {P : Type} [WindowContent P] {c : Compositor P} {clip : Rect} {window : Window}

/-- Of the windows with a frame that covers something, a pass paints those that can be seen and
share a pixel with its clip, from the back to the front. -/
structure PaintsShared (c : Compositor P) (passes : List Pass) (ops : List PaintOp) : Prop where
  ops_eq : ops = passes.flatMap (Pass.ops c.pattern) ++ c.overlays
  clips : passes.map Pass.clip = c.windows.damage.rects
  windows : ∀ pass ∈ passes, pass.windows.filter (!·.frame.isEmpty) =
    c.windows.backToFront.filter fun window =>
      window.isVisible && decide (window.frame.Overlaps pass.clip)

omit [WindowContent P] in
theorem isPainted_iff (shown : clip.isEmpty = false) :
    (isPainted clip window = true ∧ window.frame.isEmpty = false) ↔
      window.isVisible = true ∧ window.frame.Overlaps clip := by
  rw [Rect.overlaps_iff_intersects, isPainted, Bool.and_eq_true, and_assoc, and_iff_left shown]

theorem paint_shared (c : Compositor P) {reported : List Rect}
    (made : c.windows.damage.MadeOf reported) :
    Draws P c.windows.backToFront c.paint fun result =>
      ∃ passes, c.PaintsShared passes result.1 := by
  refine (drawRects_draws c.pattern c.windows.backToFront c.windows.damage.rects
    c.contents).bind fun result known => .pure ?_
  obtain ⟨passes, ops, clips, each⟩ := known
  refine ⟨passes, ?_, clips, fun pass mem => ?_⟩
  · show result.1 ++ c.overlays = _
    rw [ops]
  · have shown : pass.clip.isEmpty = false :=
      made.not_empty (clips ▸ List.mem_map_of_mem mem)
    rw [(each pass mem).1, List.filter_filter]
    refine List.filter_congr fun window _ => ?_
    rw [Bool.eq_iff_iff, Bool.and_eq_true, Bool.and_eq_true, decide_eq_true_eq,
      Bool.not_eq_true', and_comm]
    exact isPainted_iff shown

/-- Rectangles share a pixel if their common part is not flat, and if they meet and neither is flat
itself. Reports are merged into the rectangles that they share pixels with, and windows are painted
where they share pixels with the damage, whatever was reported and whatever windows there are. -/
theorem shared_pixels_decide :
    (∀ r other : Rect, (r.Overlaps other ↔ (r.intersection other).isEmpty = false) ∧
      (r.Overlaps other ↔
        r.intersects other = true ∧ r.isEmpty = false ∧ other.isEmpty = false)) ∧
    (∀ (reports : List Damage.Report) (rect : Rect),
      (reports.foldl Damage.Report.run .clean).MergesShared rect) ∧
    ∀ (c : Compositor P) (reports : List Damage.Report),
      let tracked := { c with windows.damage := reports.foldl Damage.Report.run .clean }
      Draws P c.windows.backToFront tracked.paint fun result =>
        ∃ passes, tracked.PaintsShared passes result.1 :=
  ⟨fun _ _ => ⟨Rect.overlaps_iff_intersection, Rect.overlaps_iff_intersects⟩,
    fun reports => (Damage.madeOf_clean.run reports).mergesShared,
    fun _ reports => paint_shared _ (Damage.madeOf_clean.run reports)⟩

end Compositor

end TwinDesk
