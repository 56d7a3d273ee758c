import TwinDesk.Proofs.Geometry.Bounds
import TwinDesk.Window.Damage

/-!
# What the damage covers

However the reported rectangles are merged, no pixel on the screen is lost: what was covered stays
covered, and a reported rectangle is covered from then on. There is always room for all rectangles.

* `Damage.Taken`, `Damage.taken_invalidate` — all that can become of a report.
* `Damage.covers_invalidate_of_covers`, `Damage.covers_invalidate_of_contains` — the two halves.
* `Damage.not_covers_invalidate` — what a pixel that is not covered has been spared from.
-/

namespace TwinDesk

namespace Rect

variable {r other : Rect} {p : Point}

theorem contains_iff_toInt : r.contains p = true ↔
    r.left.toInt ≤ p.x.toInt ∧ p.x.toInt < r.right.toInt ∧
      r.top.toInt ≤ p.y.toInt ∧ p.y.toInt < r.bottom.toInt := by
  simp only [contains_iff, Int16.le_iff_toInt_le, Int16.lt_iff_toInt_lt]

theorem isEmpty_eq_false_iff : r.isEmpty = false ↔
    r.left.toInt < r.right.toInt ∧ r.top.toInt < r.bottom.toInt := by
  rw [Bool.eq_false_iff, ne_eq, isEmpty_iff, Int16.le_iff_toInt_le, Int16.le_iff_toInt_le]
  omega

theorem intersects_iff_toInt : r.intersects other = true ↔
    (r.left.toInt < other.right.toInt ∧ other.left.toInt < r.right.toInt) ∧
      r.top.toInt < other.bottom.toInt ∧ other.top.toInt < r.bottom.toInt := by
  simp only [intersects, Bool.not_eq_true', Bool.or_eq_false_iff, decide_eq_false_iff_not,
    Int16.le_iff_toInt_le]
  omega

theorem contains_union_left (h : r.contains p = true) : (r.union other).contains p = true := by
  rw [contains_iff_toInt] at h ⊢
  simp only [union, Coord.toInt_min, Coord.toInt_max]
  omega

theorem contains_union_right (h : other.contains p = true) :
    (r.union other).contains p = true := by
  rw [contains_iff_toInt] at h ⊢
  simp only [union, Coord.toInt_min, Coord.toInt_max]
  omega

/-- Clipping to the screen does not matter for the pixels that are on it. -/
theorem contains_clipTo_iff (visible : Layout.screen.contains p = true) :
    (r.clipTo Layout.screen).contains p = true ↔ r.contains p = true := by
  rw [contains_iff_toInt] at visible ⊢
  rw [contains_iff_toInt]
  simp only [clipTo, Coord.toInt_clamp]
  omega

theorem contains_clipTo (h : r.contains p = true) (visible : Layout.screen.contains p = true) :
    (r.clipTo Layout.screen).contains p = true :=
  (contains_clipTo_iff visible).mpr h

theorem contains_screen_iff : Layout.screen.contains p = true ↔
    0 ≤ p.x.toInt ∧ p.x.toInt < 320 ∧ 0 ≤ p.y.toInt ∧ p.y.toInt < 224 :=
  contains_iff_toInt

/-- A rectangle on the screen has pixels of the screen only. -/
theorem OnScreen.contains_screen (h : r.OnScreen) (inside : r.contains p = true) :
    Layout.screen.contains p = true := by
  obtain ⟨left, top, right, bottom⟩ := h
  rw [contains_iff_toInt] at inside
  rw [contains_screen_iff]
  omega

theorem contains_intersection_iff : (r.intersection other).contains p = true ↔
    r.contains p = true ∧ other.contains p = true := by
  simp only [contains_iff_toInt, intersection, Coord.toInt_max, Coord.toInt_min]
  omega

theorem not_isEmpty_of_contains (h : r.contains p = true) : r.isEmpty = false := by
  rw [contains_iff_toInt] at h
  rw [isEmpty_eq_false_iff]
  omega

/-- Rectangles that share a pixel meet. -/
theorem intersects_of_contains (h : r.contains p = true) (h' : other.contains p = true) :
    r.intersects other = true := by
  rw [contains_iff_toInt] at h h'
  rw [intersects_iff_toInt]
  omega

end Rect

namespace Damage

variable {damage : Damage} {rect : Rect} {rects rects' : List Rect} {p : Point}

/-- Some rectangle of a list contains the pixel. -/
def Covered (rects : List Rect) (p : Point) : Prop :=
  ∃ r ∈ rects, r.contains p = true

theorem covers_iff : damage.covers p = true ↔ Covered damage.rects p := by
  rw [covers, List.any_eq_true]
  rfl

/-! ## What becomes of a report -/

/-- A rectangle is taken in among others: it extends the first one that it meets, or becomes one of
them, or extends the first one of all where there is no more room. -/
inductive Taken (rect : Rect) (rects : List Rect) : List Rect → Prop where
  | merged (i : Nat) (r : Rect) (known : rects[i]? = some r)
    (reason : r.intersects rect = true ∨ Layout.maxDirtyRects ≤ rects.length) :
    Taken rect rects (rects.set i (r.union rect))
  | added (room : rects.length < Layout.maxDirtyRects)
    (apart : ∀ r ∈ rects, r.intersects rect = false) : Taken rect rects (rects ++ [rect])

theorem mergeFirst?_eq_some (merged : mergeFirst? rect rects = some rects') :
    ∃ i r, rects[i]? = some r ∧ r.intersects rect = true ∧ rects' = rects.set i (r.union rect) := by
  induction rects generalizing rects' with
  | nil => cases merged
  | cons r rest ih =>
    unfold mergeFirst? at merged
    split at merged
    · rename_i meets
      cases merged
      exact ⟨0, r, rfl, meets, rfl⟩
    · obtain ⟨later, found, rfl⟩ := Option.map_eq_some_iff.mp merged
      obtain ⟨i, other, known, meets, rfl⟩ := ih found
      exact ⟨i + 1, other, known, meets, rfl⟩

theorem mergeFirst?_eq_none (apart : mergeFirst? rect rects = none) :
    ∀ r ∈ rects, r.intersects rect = false := by
  induction rects with
  | nil => exact fun _ mem => absurd mem List.not_mem_nil
  | cons r rest ih =>
    unfold mergeFirst? at apart
    split at apart
    · cases apart
    · rename_i here
      rw [Option.map_eq_none_iff] at apart
      exact List.forall_mem_cons.mpr ⟨Bool.eq_false_iff.mpr here, ih apart⟩

theorem taken_getD (rect : Rect) (rects : List Rect) :
    Taken rect rects ((mergeFirst? rect rects).getD (append rect rects)) := by
  cases merged : mergeFirst? rect rects with
  | some rects' =>
    obtain ⟨i, r, known, meets, rfl⟩ := mergeFirst?_eq_some merged
    exact .merged i r known (.inl meets)
  | none =>
    rw [Option.getD_none]
    unfold append
    split
    · exact .added ‹_› (mergeFirst?_eq_none merged)
    · rename_i full
      cases rects with
      | nil => exact absurd (Nat.zero_lt_succ _) full
      | cons first rest => exact .merged 0 first rfl (.inr (Nat.le_of_not_lt full))

theorem invalidate_of_isEmpty (hidden : (rect.clipTo Layout.screen).isEmpty = true) :
    damage.invalidate rect = damage := by
  rw [invalidate, hidden]
  rfl

/-- What is on the screen of a reported rectangle is taken in. -/
theorem taken_invalidate (shown : (rect.clipTo Layout.screen).isEmpty = false) :
    Taken (rect.clipTo Layout.screen) damage.rects (damage.invalidate rect).rects := by
  rw [invalidate, shown]
  exact taken_getD _ _

/-! ## Room -/

/-- There is room for all rectangles. -/
def Fits (damage : Damage) : Prop :=
  damage.rects.length ≤ Layout.maxDirtyRects

theorem Taken.length_le (taken : Taken rect rects rects')
    (fits : rects.length ≤ Layout.maxDirtyRects) : rects'.length ≤ Layout.maxDirtyRects := by
  cases taken with
  | merged => rwa [List.length_set]
  | added room =>
    rw [List.length_append]
    exact Nat.succ_le_of_lt room

theorem fits_invalidate (fits : damage.Fits) (rect : Rect) : (damage.invalidate rect).Fits := by
  cases shown : (rect.clipTo Layout.screen).isEmpty with
  | true => rwa [invalidate_of_isEmpty shown]
  | false => exact (taken_invalidate shown).length_le fits

/-! ## What is covered -/

theorem Taken.covered (taken : Taken rect rects rects')
    (h : Covered rects p ∨ rect.contains p = true) : Covered rects' p := by
  cases taken with
  | merged i r known _ =>
    have extended : r.union rect ∈ rects.set i (r.union rect) :=
      List.mem_set (List.getElem?_eq_some_iff.mp known).1 _
    rcases h with ⟨other, mem, inside⟩ | inside
    · obtain ⟨j, known'⟩ := List.getElem?_of_mem mem
      by_cases same : i = j
      · obtain rfl := Option.some.inj (known.symm.trans (same ▸ known'))
        exact ⟨_, extended, Rect.contains_union_left inside⟩
      · rw [← List.getElem?_set_ne same] at known'
        exact ⟨other, List.mem_of_getElem? known', inside⟩
    · exact ⟨_, extended, Rect.contains_union_right inside⟩
  | added =>
    rcases h with ⟨other, mem, inside⟩ | inside
    · exact ⟨other, List.mem_append_left _ mem, inside⟩
    · exact ⟨rect, List.mem_concat_self, inside⟩

theorem covers_invalidate_of_covers (h : damage.covers p = true) (rect : Rect) :
    (damage.invalidate rect).covers p = true := by
  cases shown : (rect.clipTo Layout.screen).isEmpty with
  | true => rwa [invalidate_of_isEmpty shown]
  | false =>
    rw [covers_iff] at h ⊢
    exact (taken_invalidate shown).covered (.inl h)

theorem covers_invalidate_of_contains (visible : Layout.screen.contains p = true)
    (h : rect.contains p = true) : (damage.invalidate rect).covers p = true := by
  have clipped := Rect.contains_clipTo h visible
  rw [covers_iff]
  exact (taken_invalidate (Rect.not_isEmpty_of_contains clipped)).covered (.inr clipped)

/-- What a pixel that is not covered has been spared from. -/
theorem not_covers_invalidate (visible : Layout.screen.contains p = true)
    (clean : (damage.invalidate rect).covers p = false) :
    damage.covers p = false ∧ rect.contains p = false := by
  constructor
  · apply Bool.eq_false_iff.mpr
    intro covered
    rw [covers_invalidate_of_covers covered rect] at clean
    cases clean
  · apply Bool.eq_false_iff.mpr
    intro inside
    rw [covers_invalidate_of_contains visible inside] at clean
    cases clean

/-- The same for several reports. -/
theorem not_covers_foldl_invalidate (visible : Layout.screen.contains p = true)
    (clean : (rects.foldl invalidate damage).covers p = false) :
    damage.covers p = false ∧ ∀ rect ∈ rects, rect.contains p = false := by
  induction rects generalizing damage with
  | nil => exact ⟨clean, fun _ mem => absurd mem List.not_mem_nil⟩
  | cons rect rest ih =>
    obtain ⟨clean, outside⟩ := ih clean
    obtain ⟨clean, here⟩ := not_covers_invalidate visible clean
    exact ⟨clean, List.forall_mem_cons.mpr ⟨here, outside⟩⟩

end Damage

end TwinDesk
