import Mathlib.Order.Bounds.Basic
import TwinDesk.Proofs.Window.Coverage

/-!
# The damage as bounding boxes

The rectangles that wait to be painted are not more than what was reported makes necessary: each of
them is the bounding box of some of the reports since the last update, and every report that shows
on the screen went into one of them. This holds after any reports, also when they meet several
rectangles at once, and when there is no more room.

* `Rect.IsBoundingBox` — what a bounding box is.
* `Damage.SharedOut` — the reports, shared out among the rectangles.
* `Damage.accounts_run` — what is known of the damage after any reports.
-/

namespace TwinDesk

/-! ## Bounding boxes -/

namespace Rect

variable {r part : Rect} {parts : Set Rect}

/-- Each edge is the outermost one of the parts. -/
structure IsBoundingBox (r : Rect) (parts : Set Rect) : Prop where
  left : IsLeast ((·.left.toInt) '' parts) r.left.toInt
  top : IsLeast ((·.top.toInt) '' parts) r.top.toInt
  right : IsGreatest ((·.right.toInt) '' parts) r.right.toInt
  bottom : IsGreatest ((·.bottom.toInt) '' parts) r.bottom.toInt

theorem isBoundingBox_singleton (r : Rect) : r.IsBoundingBox {r} := by
  constructor <;> rw [Set.image_singleton]
  · exact isLeast_singleton
  · exact isLeast_singleton
  · exact isGreatest_singleton
  · exact isGreatest_singleton

namespace IsBoundingBox

/-- One more part extends the box. -/
theorem insert (h : r.IsBoundingBox parts) (part : Rect) :
    (r.union part).IsBoundingBox (insert part parts) := by
  constructor <;> rw [Set.image_insert_eq]
  · rw [union, Coord.toInt_min, min_comm]
    exact h.left.insert _
  · rw [union, Coord.toInt_min, min_comm]
    exact h.top.insert _
  · rw [union, Coord.toInt_max, max_comm]
    exact h.right.insert _
  · rw [union, Coord.toInt_max, max_comm]
    exact h.bottom.insert _

theorem nonempty (h : r.IsBoundingBox parts) : parts.Nonempty :=
  Set.image_nonempty.mp h.left.nonempty

theorem toInt_edges (h : r.IsBoundingBox parts) (mem : part ∈ parts) :
    (r.left.toInt ≤ part.left.toInt ∧ r.top.toInt ≤ part.top.toInt) ∧
      part.right.toInt ≤ r.right.toInt ∧ part.bottom.toInt ≤ r.bottom.toInt :=
  ⟨⟨h.left.2 (Set.mem_image_of_mem _ mem), h.top.2 (Set.mem_image_of_mem _ mem)⟩,
    h.right.2 (Set.mem_image_of_mem _ mem), h.bottom.2 (Set.mem_image_of_mem _ mem)⟩

/-- The box of parts that cover something covers something. -/
theorem isEmpty_eq_false (h : r.IsBoundingBox parts)
    (each : ∀ part ∈ parts, part.isEmpty = false) : r.isEmpty = false := by
  obtain ⟨part, mem⟩ := h.nonempty
  have edges := h.toInt_edges mem
  have crossed := isEmpty_eq_false_iff.mp (each part mem)
  rw [isEmpty_eq_false_iff]
  omega

/-- The box of parts on the screen is on the screen. -/
theorem onScreen (h : r.IsBoundingBox parts) (each : ∀ part ∈ parts, part.OnScreen) :
    r.OnScreen := by
  obtain ⟨left, leftMem, left_eq⟩ := h.left.1
  obtain ⟨top, topMem, top_eq⟩ := h.top.1
  obtain ⟨right, rightMem, right_eq⟩ := h.right.1
  obtain ⟨bottom, bottomMem, bottom_eq⟩ := h.bottom.1
  constructor
  · rw [← left_eq]
    exact (each left leftMem).left
  · rw [← top_eq]
    exact (each top topMem).top
  · rw [← right_eq]
    exact (each right rightMem).right
  · rw [← bottom_eq]
    exact (each bottom bottomMem).bottom

/-- The box contains what the parts contain. -/
theorem contains (h : r.IsBoundingBox parts) (mem : part ∈ parts) {p : Point}
    (inside : part.contains p = true) : r.contains p = true := by
  have edges := h.toInt_edges mem
  rw [contains_iff_toInt] at inside ⊢
  omega

end IsBoundingBox

theorem OnScreen.covers (h : r.OnScreen) : Layout.screen.covers r = true := by
  obtain ⟨left, top, right, bottom⟩ := h
  have screen := toInt_screen
  simp only [Rect.covers, Bool.or_eq_true, Bool.and_eq_true, decide_eq_true_eq,
    Int16.le_iff_toInt_le]
  omega

/-- What is left of a rectangle on the screen meets what the rectangle met there. -/
theorem intersects_clipTo (onScreen : r.OnScreen) (shown : r.isEmpty = false)
    (meets : r.intersects part = true) :
    r.intersects (part.clipTo Layout.screen) = true := by
  obtain ⟨left, top, right, bottom⟩ := onScreen
  have screen := toInt_screen
  rw [isEmpty_eq_false_iff] at shown
  rw [intersects_iff_toInt] at meets ⊢
  simp only [clipTo, Coord.toInt_clamp]
  omega

end Rect

namespace Damage

variable {damage : Damage} {rect : Rect} {inputs rects rects' : List Rect} {entry : ℕ → ℕ}

/-! ## Shares -/

/-- The inputs that went into one rectangle; `entry` says of each input into which one. -/
def share (inputs : List Rect) (entry : ℕ → ℕ) (i : ℕ) : Set Rect :=
  {part | ∃ j, inputs[j]? = some part ∧ entry j = i}

/-- Every input went into one of the rectangles, and they are the bounding boxes of their shares. -/
structure SharedOut (inputs rects : List Rect) (entry : ℕ → ℕ) : Prop where
  entry_lt : ∀ j < inputs.length, entry j < rects.length
  boxes : ∀ (i : ℕ) (r : Rect), rects[i]? = some r → r.IsBoundingBox (share inputs entry i)

theorem mem_of_mem_share {part : Rect} {i : ℕ} (mem : part ∈ share inputs entry i) :
    part ∈ inputs := by
  obtain ⟨j, known, -⟩ := mem
  exact List.mem_of_getElem? known

theorem getElem?_concat_eq_some {j : ℕ} {part : Rect} : (inputs ++ [rect])[j]? = some part ↔
    inputs[j]? = some part ∨ j = inputs.length ∧ part = rect := by
  grind

/-- One more input goes into the rectangle `k`. -/
theorem mem_share_concat {part : Rect} {k i : ℕ} :
    part ∈ share (inputs ++ [rect]) (Function.update entry inputs.length k) i ↔
      part ∈ share inputs entry i ∨ i = k ∧ part = rect := by
  have earlier {j : ℕ} {part : Rect} (known : inputs[j]? = some part) :
      Function.update entry inputs.length k j = entry j :=
    Function.update_of_ne (Nat.ne_of_lt (List.getElem?_eq_some_iff.mp known).1) _ _
  constructor
  · rintro ⟨j, known, rfl⟩
    rcases getElem?_concat_eq_some.mp known with known | ⟨rfl, rfl⟩
    · exact .inl ⟨j, known, (earlier known).symm⟩
    · exact .inr ⟨Function.update_self _ _ _, rfl⟩
  · rintro (⟨j, known, rfl⟩ | ⟨rfl, rfl⟩)
    · exact ⟨j, getElem?_concat_eq_some.mpr (.inl known), earlier known⟩
    · exact ⟨_, getElem?_concat_eq_some.mpr (.inr ⟨rfl, rfl⟩), Function.update_self _ _ _⟩

theorem share_concat_self (k : ℕ) :
    share (inputs ++ [rect]) (Function.update entry inputs.length k) k =
      insert rect (share inputs entry k) := by
  ext part
  rw [mem_share_concat, Set.mem_insert_iff, or_comm, and_iff_right rfl]

theorem share_concat_of_ne {k i : ℕ} (ne : i ≠ k) :
    share (inputs ++ [rect]) (Function.update entry inputs.length k) i =
      share inputs entry i := by
  ext part
  rw [mem_share_concat, or_iff_left fun same => ne same.1]

namespace SharedOut

/-- No input went where there is no rectangle. -/
theorem share_length (h : SharedOut inputs rects entry) :
    share inputs entry rects.length = ∅ := by
  ext part
  refine iff_of_false ?_ (Set.notMem_empty part)
  rintro ⟨j, known, last⟩
  exact absurd last (Nat.ne_of_lt (h.entry_lt j (List.getElem?_eq_some_iff.mp known).1))

/-- No rectangle came from nothing. -/
theorem exists_entry_eq (h : SharedOut inputs rects entry) {i : ℕ} (known : i < rects.length) :
    ∃ j < inputs.length, entry j = i := by
  obtain ⟨part, j, known', into⟩ := (h.boxes i _ (List.getElem?_eq_getElem known)).nonempty
  exact ⟨j, (List.getElem?_eq_some_iff.mp known').1, into⟩

theorem entry_lt_update (h : SharedOut inputs rects entry) {k : ℕ}
    (longer : rects.length ≤ rects'.length) (known : k < rects'.length) :
    ∀ j < (inputs ++ [rect]).length,
      Function.update entry inputs.length k j < rects'.length := by
  intro j earlier
  by_cases last : j = inputs.length
  · rw [last, Function.update_self]
    exact known
  · rw [Function.update_of_ne last]
    rw [List.length_append, List.length_singleton] at earlier
    exact Nat.lt_of_lt_of_le (h.entry_lt j (by omega)) longer

/-- An input that is taken in goes into the rectangle that it extends, or into a new one. -/
theorem taken (h : SharedOut inputs rects entry) (taken : Taken rect rects rects') :
    ∃ k, SharedOut (inputs ++ [rect]) rects' (Function.update entry inputs.length k) := by
  cases taken with
  | merged k r known =>
    have bound : k < rects.length := (List.getElem?_eq_some_iff.mp known).1
    refine ⟨k, h.entry_lt_update (Nat.le_of_eq List.length_set.symm) ?_, ?_⟩
    · rwa [List.length_set]
    · intro i other known'
      by_cases same : i = k
      · subst same
        rw [List.getElem?_set_self bound] at known'
        obtain rfl := Option.some.inj known'
        rw [share_concat_self]
        exact (h.boxes i r known).insert rect
      · rw [List.getElem?_set_ne (Ne.symm same)] at known'
        rw [share_concat_of_ne same]
        exact h.boxes i other known'
  | added =>
    have length : (rects ++ [rect]).length = rects.length + 1 := List.length_append
    refine ⟨rects.length, h.entry_lt_update (by omega) (by omega), ?_⟩
    intro i other known
    rcases getElem?_concat_eq_some.mp known with known | ⟨rfl, rfl⟩
    · rw [share_concat_of_ne (Nat.ne_of_lt (List.getElem?_eq_some_iff.mp known).1)]
      exact h.boxes i other known
    · rw [share_concat_self, h.share_length, insert_empty_eq]
      exact Rect.isBoundingBox_singleton other

end SharedOut

/-! ## Any reports -/

/-- What callers tell about the screen: that a part of it or the menu bar has changed, or that all
that waited is painted. -/
inductive Report where
  | rect (rect : Rect)
  | menuBar
  | update
  deriving DecidableEq, Repr

/-- The damage after a report. -/
def Report.run (damage : Damage) : Report → Damage
  | .rect rect => damage.invalidate rect
  | .menuBar => damage.invalidateMenuBar
  | .update => clean

/-- The rectangles that were reported since the last update. -/
def Report.since (reported : List Rect) : Report → List Rect
  | .rect rect => reported ++ [rect]
  | .menuBar => reported
  | .update => []

/-- What shows on the screen of some rectangles. -/
def shown (reported : List Rect) : List Rect :=
  (reported.map (·.clipTo Layout.screen)).filter fun rect => !rect.isEmpty

theorem shown_concat (reported : List Rect) (rect : Rect) : shown (reported ++ [rect]) =
    if (rect.clipTo Layout.screen).isEmpty then shown reported
    else shown reported ++ [rect.clipTo Layout.screen] := by
  cases hidden : (rect.clipTo Layout.screen).isEmpty <;> simp [shown, hidden]

theorem mem_shown {reported : List Rect} (mem : rect ∈ reported)
    (shows : (rect.clipTo Layout.screen).isEmpty = false) :
    rect.clipTo Layout.screen ∈ shown reported :=
  List.mem_filter.mpr ⟨List.mem_map_of_mem mem, by rw [shows]; rfl⟩

theorem of_mem_shown {reported : List Rect} (mem : rect ∈ shown reported) :
    rect.isEmpty = false ∧ rect.OnScreen := by
  obtain ⟨mem, shows⟩ := List.mem_filter.mp mem
  obtain ⟨rect, -, rfl⟩ := List.mem_map.mp mem
  exact ⟨by simpa using shows, rect.onScreen_clipTo⟩

/-- The damage is made of what was reported. -/
structure MadeOf (damage : Damage) (reported : List Rect) : Prop where
  fits : damage.Fits
  sharedOut : ∃ entry, SharedOut (shown reported) damage.rects entry

variable {reported : List Rect}

theorem madeOf_clean : clean.MadeOf [] :=
  ⟨Nat.zero_le _, id, fun _ none => absurd none (Nat.not_lt_zero _), fun _ _ none => by cases none⟩

theorem MadeOf.invalidate (h : damage.MadeOf reported) (rect : Rect) :
    (damage.invalidate rect).MadeOf (reported ++ [rect]) := by
  refine ⟨fits_invalidate h.fits rect, ?_⟩
  obtain ⟨entry, sharedOut⟩ := h.sharedOut
  rw [shown_concat]
  cases shows : (rect.clipTo Layout.screen).isEmpty with
  | true =>
    rw [invalidate_of_isEmpty shows]
    exact ⟨entry, sharedOut⟩
  | false =>
    obtain ⟨k, sharedOut'⟩ := sharedOut.taken (taken_invalidate shows)
    exact ⟨_, sharedOut'⟩

theorem MadeOf.report (h : damage.MadeOf reported) (report : Report) :
    (report.run damage).MadeOf (report.since reported) := by
  cases report with
  | rect rect => exact h.invalidate rect
  | menuBar => exact ⟨h.fits, h.sharedOut⟩
  | update => exact madeOf_clean

theorem MadeOf.run (h : damage.MadeOf reported) (reports : List Report) :
    (reports.foldl Report.run damage).MadeOf (reports.foldl Report.since reported) := by
  induction reports generalizing damage reported with
  | nil => exact h
  | cons report rest ih => exact ih (h.report report)

/-! ### What callers know -/

/-- What is known of the damage when some rectangles have been reported. -/
structure Accounts (damage : Damage) (reported : List Rect) : Prop where
  length_le : damage.rects.length ≤ 32
  not_empty : ∀ r ∈ damage.rects, r.isEmpty = false
  onScreen : ∀ r ∈ damage.rects, Layout.screen.covers r = true
  /-- The rectangles are the bounding boxes of shares of what was reported, and none is without a
  share. -/
  boxes : ∃ entry, SharedOut (shown reported) damage.rects entry ∧
    ∀ i < damage.rects.length, ∃ j < (shown reported).length, entry j = i
  /-- No pixel of what was reported is lost. -/
  covered : ∀ rect ∈ reported, ∀ p, Layout.screen.contains p = true → rect.contains p = true →
    damage.covers p = true
  /-- What meets a rectangle does not become another one. -/
  merged : ∀ rect, (∃ r ∈ damage.rects, r.intersects rect = true) →
    (damage.invalidate rect).rects.length = damage.rects.length

namespace MadeOf

variable (h : damage.MadeOf reported) {r : Rect}
include h

theorem not_empty (mem : r ∈ damage.rects) : r.isEmpty = false := by
  obtain ⟨entry, sharedOut⟩ := h.sharedOut
  obtain ⟨i, known⟩ := List.getElem?_of_mem mem
  exact (sharedOut.boxes i r known).isEmpty_eq_false fun part mem =>
    (of_mem_shown (mem_of_mem_share mem)).1

theorem onScreen (mem : r ∈ damage.rects) : r.OnScreen := by
  obtain ⟨entry, sharedOut⟩ := h.sharedOut
  obtain ⟨i, known⟩ := List.getElem?_of_mem mem
  exact (sharedOut.boxes i r known).onScreen fun part mem =>
    (of_mem_shown (mem_of_mem_share mem)).2

/-- A pixel is covered by the rectangle that its report went into. -/
theorem covered (mem : rect ∈ reported) {p : Point} (visible : Layout.screen.contains p = true)
    (inside : rect.contains p = true) : damage.covers p = true := by
  obtain ⟨entry, sharedOut⟩ := h.sharedOut
  have clipped := Rect.contains_clipTo inside visible
  obtain ⟨j, known⟩ :=
    List.getElem?_of_mem (mem_shown mem (Rect.not_isEmpty_of_contains clipped))
  have bound := sharedOut.entry_lt j (List.getElem?_eq_some_iff.mp known).1
  have box := sharedOut.boxes _ _ (List.getElem?_eq_getElem bound)
  rw [covers_iff]
  exact ⟨_, List.getElem_mem bound, box.contains ⟨j, known, rfl⟩ clipped⟩

theorem merged (meets : ∃ r ∈ damage.rects, r.intersects rect = true) :
    (damage.invalidate rect).rects.length = damage.rects.length := by
  obtain ⟨r, mem, meets⟩ := meets
  cases shows : (rect.clipTo Layout.screen).isEmpty with
  | true => rw [invalidate_of_isEmpty shows]
  | false =>
    have taken : Taken _ damage.rects _ := taken_invalidate shows
    have meets' := Rect.intersects_clipTo (h.onScreen mem) (h.not_empty mem) meets
    generalize (damage.invalidate rect).rects = rects' at taken
    cases taken with
    | merged => exact List.length_set
    | added _ apart => cases (apart r mem).symm.trans meets'

theorem accounts : damage.Accounts reported where
  length_le := h.fits
  not_empty _ := h.not_empty
  onScreen _ mem := (h.onScreen mem).covers
  boxes := by
    obtain ⟨entry, sharedOut⟩ := h.sharedOut
    exact ⟨entry, sharedOut, fun _ => sharedOut.exists_entry_eq⟩
  covered _ mem _ := h.covered mem
  merged _ := h.merged

end MadeOf

/-- Whatever is reported, since the last update or before: the damage is made of what was reported
since the last update. -/
theorem accounts_run (reports : List Report) :
    (reports.foldl Report.run clean).Accounts (reports.foldl Report.since []) :=
  (madeOf_clean.run reports).accounts

end Damage

end TwinDesk
