import TwinDesk.Menu.MenuBar
import TwinDesk.Proofs.Geometry.Bounds

/-!
# Sound menus

Menus whose texts are not too long and whose titles do not start too far to the right have a layout:
none of the exact operations behind it faults. While such a bar is tracked, the open menu and the
highlighted item exist.

* `Menu.Fits`, `Menu.Sound` — menus with texts of at most 500 characters, and of at most 100.
* `MenuItem.Contiguous` — rows that follow each other without gaps.
* `Menu.Spans`, `Menu.DropsDown`, `Menu.Fits.itemAt_yields` — the layout of a menu.
* `MenuBar.Fits`, `MenuBar.Sound` — the invariants of bars with such menus; tracking keeps them.
-/

namespace TwinDesk

open MenuLayout

/-- What holds of a menu whose layout is in range. -/
structure Menu.Fits (menu : Menu) : Prop where
  titleX : 0 ≤ menu.titleX.toInt ∧ menu.titleX.toInt ≤ 22000
  titleWidth : 0 ≤ menu.titleWidth.toInt ∧ menu.titleWidth.toInt ≤ 4000
  title : menu.title.length ≤ 500
  count : menu.items.length ≤ 16
  items : ∀ item ∈ menu.items, item.text.length ≤ 500

/-- What holds of a menu with short texts. -/
structure Menu.Sound (menu : Menu) : Prop where
  titleX : 0 ≤ menu.titleX.toInt ∧ menu.titleX.toInt ≤ 1000
  titleWidth : 0 ≤ menu.titleWidth.toInt ∧ menu.titleWidth.toInt ≤ 1000
  title : menu.title.length ≤ 100
  count : menu.items.length ≤ 16
  items : ∀ item ∈ menu.items, item.text.length ≤ 100

instance (menu : Menu) : Decidable menu.Sound :=
  decidable_of_iff
    ((0 ≤ menu.titleX.toInt ∧ menu.titleX.toInt ≤ 1000) ∧
      (0 ≤ menu.titleWidth.toInt ∧ menu.titleWidth.toInt ≤ 1000) ∧ menu.title.length ≤ 100 ∧
      menu.items.length ≤ 16 ∧ ∀ item ∈ menu.items, item.text.length ≤ 100)
    ⟨fun ⟨x, width, title, count, items⟩ => ⟨x, width, title, count, items⟩,
      fun ⟨x, width, title, count, items⟩ => ⟨x, width, title, count, items⟩⟩

theorem Menu.Sound.fits {menu : Menu} (h : menu.Sound) : menu.Fits := by
  obtain ⟨titleX, titleWidth, title, count, items⟩ := h
  refine ⟨⟨titleX.1, by omega⟩, ⟨titleWidth.1, by omega⟩, by omega, count, fun item mem => ?_⟩
  have := items item mem
  omega

/-! ## The layout of items -/

namespace MenuItem

theorem toInt_height (item : MenuItem) : 0 ≤ item.height.toInt ∧ item.height.toInt ≤ 14 := by
  unfold height
  split <;> decide

/-- The room that an item takes from side to side: its label, the padding, and its check mark. -/
def room (item : MenuItem) : Int :=
  6 * item.text.length + 16 + if item.isChecked then 10 else 0

theorem room_bounds {item : MenuItem} (short : item.text.length ≤ 500) :
    16 ≤ item.room ∧ item.room ≤ 3026 := by
  unfold room
  split <;> omega

theorem width_yields {item : MenuItem} (short : item.text.length ≤ 500) :
    Yields item.width fun width => width.toInt = item.room := by
  have text := Layout.toInt_textWidth (Nat.le_trans short (by decide))
  have padding : (16 : Coord).toInt = 16 := rfl
  have check : checkWidth.toInt = 10 := rfl
  unfold width room
  refine (Coord.add_yields (by omega) (by omega)).bind ?_
  intro padded eq
  split
  · apply (Coord.add_yields (by omega) (by omega)).mono
    intro width eq'
    omega
  · refine .pure ?_
    omega

/-- The widest of some items has room for each of them. -/
theorem widest_yields {items : List MenuItem} (short : ∀ item ∈ items, item.text.length ≤ 500)
    {start : Coord} (narrow : start.toInt ≤ 3026) :
    Yields (items.foldlM (fun widest item => do return max widest (← item.width)) start)
      fun width => (start.toInt ≤ width.toInt ∧ width.toInt ≤ 3026) ∧
        ∀ item ∈ items, item.room ≤ width.toInt := by
  induction items generalizing start with
  | nil => exact .pure ⟨⟨Int.le_refl _, narrow⟩, fun _ none => absurd none List.not_mem_nil⟩
  | cons item rest ih =>
    obtain ⟨first, later⟩ := List.forall_mem_cons.mp short
    have bounds := room_bounds first
    rw [List.foldlM_cons, bind_assoc]
    refine (width_yields first).bind ?_
    intro width eq
    have wider : (max start width).toInt = max start.toInt item.room := by
      rw [Coord.toInt_max, eq]
    rw [pure_bind]
    refine (ih later (by omega)).mono ?_
    rintro widest ⟨within, all⟩
    refine ⟨by omega, List.forall_mem_cons.mpr ⟨by omega, all⟩⟩

/-- How high items are together. -/
def totalHeight : List MenuItem → Int
  | [] => 0
  | item :: rest => item.height.toInt + totalHeight rest

theorem totalHeight_bounds (items : List MenuItem) :
    0 ≤ totalHeight items ∧ totalHeight items ≤ 14 * items.length := by
  induction items with
  | nil => decide
  | cons item rest ih =>
    have here := item.toInt_height
    rw [totalHeight, List.length_cons]
    omega

/-- Rows without a gap, from `top` down to `bottom`. -/
def Contiguous (top : Int) : List (Coord × MenuItem) → Int → Prop
  | [], bottom => top = bottom
  | (start, item) :: rest, bottom =>
    start.toInt = top ∧ Contiguous (top + item.height.toInt) rest bottom

theorem Contiguous.bounds {rows : List (Coord × MenuItem)} {top bottom : Int}
    (stack : Contiguous top rows bottom) :
    top ≤ bottom ∧ ∀ row ∈ rows, top ≤ row.1.toInt ∧
      row.1.toInt + row.2.height.toInt ≤ bottom := by
  induction rows generalizing top with
  | nil => exact ⟨Int.le_of_eq stack, fun _ none => absurd none List.not_mem_nil⟩
  | cons row rest ih =>
    obtain ⟨start, item⟩ := row
    obtain ⟨here, stack⟩ := stack
    obtain ⟨low, later⟩ := ih stack
    have height := item.toInt_height
    refine ⟨by omega, List.forall_mem_cons.mpr ⟨?_, fun row mem => ?_⟩⟩
    · dsimp only
      omega
    · have := later row mem
      omega

/-- The rows of a stack of items. -/
theorem tops_yields {items : List MenuItem} {top : Coord} (low : 0 ≤ top.toInt)
    (high : top.toInt + 14 * items.length ≤ 1000) :
    Yields (tops top items) fun rows => rows.map (·.2) = items ∧
      Contiguous top.toInt rows (top.toInt + totalHeight items) := by
  induction items generalizing top with
  | nil => exact .pure ⟨rfl, (Int.add_zero _).symm⟩
  | cons item rest ih =>
    have height := item.toInt_height
    rw [List.length_cons] at high
    refine (Coord.add_yields (by omega) (by omega)).bind ?_
    intro next eq
    refine (ih (by omega) (by omega)).bind fun rows known => .pure ⟨congrArg _ known.1, rfl, ?_⟩
    rw [totalHeight, ← Int.add_assoc, ← eq]
    exact known.2

/-- A stack of items is as high as they are together. -/
theorem toInt_stacked {items : List MenuItem} {height : Coord} (low : 0 ≤ height.toInt)
    (high : height.toInt + 14 * items.length ≤ 1000) :
    (items.foldl (fun height item => height.addSat item.height) height).toInt =
      height.toInt + totalHeight items := by
  induction items generalizing height with
  | nil => exact (Int.add_zero _).symm
  | cons item rest ih =>
    have row := item.toInt_height
    rw [List.length_cons] at high
    have next : (height.addSat item.height).toInt = height.toInt + item.height.toInt := by
      rw [Coord.toInt_addSat]
      omega
    rw [List.foldl_cons, ih (by omega) (by omega), next, totalHeight, Int.add_assoc]

theorem rowAt_yields (y : Coord) {rows : List (Coord × MenuItem)}
    (bounded : ∀ row ∈ rows, 0 ≤ row.1.toInt ∧ row.1.toInt ≤ 1000) :
    Yields (rowAt y rows) fun found => ∀ index ∈ found, index < rows.length := by
  induction rows with
  | nil => exact .pure fun _ none => absurd none (by simp)
  | cons row rest ih =>
    obtain ⟨top, item⟩ := row
    have height := item.toInt_height
    have here : 0 ≤ top.toInt ∧ top.toInt ≤ 1000 := bounded _ List.mem_cons_self
    have later : Yields (do return (← rowAt y rest).map (· + 1)) fun found =>
        ∀ index ∈ found, index < ((top, item) :: rest).length := by
      refine (ih fun row mem => bounded row (List.mem_cons_of_mem _ mem)).bind fun found known =>
        .pure ?_
      intro index mem
      obtain ⟨index', mem', rfl⟩ := Option.map_eq_some_iff.mp mem
      exact Nat.succ_lt_succ (known index' mem')
    unfold rowAt
    split
    · refine (Coord.add_yields (by omega) (by omega)).bind ?_
      intro bottom _
      split
      · refine .pure ?_
        intro index mem
        cases mem
        exact Nat.succ_pos _
      · exact later
    · exact later

end MenuItem

/-! ## The layout of menus -/

/-- The span of a title. -/
structure Menu.Spans (menu : Menu) (span : Rect) : Prop where
  left : span.left.toInt = menu.titleX.toInt - 4
  right : span.right.toInt = menu.titleX.toInt + menu.titleWidth.toInt
  top : span.top.toInt = 0
  bottom : span.bottom.toInt = 20

/-- The place of a dropdown, with room for every label. -/
structure Menu.DropsDown (menu : Menu) (drop : Rect) : Prop where
  left : drop.left.toInt = menu.titleX.toInt - 4
  wide : drop.left.toInt + 80 ≤ drop.right.toInt
  narrow : drop.right.toInt ≤ drop.left.toInt + 3026
  top : drop.top.toInt = 20
  bottom : drop.bottom.toInt = 20 + menu.dropdownHeight.toInt
  room : ∀ item ∈ menu.items, item.isSeparator = false →
    drop.left.toInt + item.room ≤ drop.right.toInt

namespace Menu.Fits

variable {menu : Menu} (h : menu.Fits)
include h

theorem titleRect_yields : Yields menu.titleRect menu.Spans := by
  have x := h.titleX
  have width := h.titleWidth
  have inset : titleInset.toInt = 4 := rfl
  refine (Coord.sub_yields (by omega) (by omega)).bind ?_
  intro left eq
  refine (Coord.add_yields (by omega) (by omega)).bind fun right eq' => .pure ?_
  exact ⟨by rw [eq, inset], eq', rfl, rfl⟩

theorem dropdownWidth_yields :
    Yields menu.dropdownWidth fun width => (80 ≤ width.toInt ∧ width.toInt ≤ 3026) ∧
      ∀ item ∈ menu.items, item.isSeparator = false → item.room ≤ width.toInt := by
  have labels : ∀ item ∈ menu.items.filter (!·.isSeparator), item.text.length ≤ 500 :=
    fun item mem => h.items item (List.mem_filter.mp mem).1
  refine (MenuItem.widest_yields labels (by decide)).mono ?_
  rintro width ⟨within, all⟩
  refine ⟨within, fun item mem label => all item (List.mem_filter.mpr ⟨mem, ?_⟩)⟩
  rw [label]
  rfl

theorem toInt_dropdownHeight :
    menu.dropdownHeight.toInt = 4 + MenuItem.totalHeight menu.items := by
  have count := h.count
  have padding : (4 : Coord).toInt = 4 := rfl
  exact MenuItem.toInt_stacked (by decide) (by omega)

theorem dropdownHeight_bounds :
    4 ≤ menu.dropdownHeight.toInt ∧ menu.dropdownHeight.toInt ≤ 228 := by
  have count := h.count
  have total := MenuItem.totalHeight_bounds menu.items
  have height := h.toInt_dropdownHeight
  omega

theorem dropdownRect_yields : Yields menu.dropdownRect menu.DropsDown := by
  have x := h.titleX
  have inset : titleInset.toInt = 4 := rfl
  have top : Layout.menuBarHeight.toInt = 20 := rfl
  have height := h.dropdownHeight_bounds
  refine (Coord.sub_yields (by omega) (by omega)).bind ?_
  intro left eq
  refine h.dropdownWidth_yields.bind ?_
  rintro width ⟨within, room⟩
  have right : (left.addSat width).toInt = left.toInt + width.toInt := by
    rw [Coord.toInt_addSat]
    omega
  have bottom : (Layout.menuBarHeight.addSat menu.dropdownHeight).toInt =
      20 + menu.dropdownHeight.toInt := by
    rw [Coord.toInt_addSat]
    omega
  refine .pure ⟨by rw [← inset]; exact eq, ?_, ?_, rfl, bottom, fun item mem label => ?_⟩
  · show left.toInt + 80 ≤ (left.addSat width).toInt
    omega
  · show (left.addSat width).toInt ≤ left.toInt + 3026
    omega
  · have := room item mem label
    show left.toInt + item.room ≤ (left.addSat width).toInt
    omega

/-- The rows fill the dropdown between the paddings above and below them. -/
theorem itemTops_contiguous :
    Yields menu.itemTops fun rows => rows.map (·.2) = menu.items ∧
      MenuItem.Contiguous 22 rows (18 + menu.dropdownHeight.toInt) := by
  have first : (22 : Coord).toInt = 22 := rfl
  have count := h.count
  refine (MenuItem.tops_yields (by decide) (by omega)).mono fun rows known => ⟨known.1, ?_⟩
  have bottom : 18 + menu.dropdownHeight.toInt = 22 + MenuItem.totalHeight menu.items := by
    rw [h.toInt_dropdownHeight]
    omega
  rw [bottom]
  exact known.2

theorem itemTops_yields :
    Yields menu.itemTops fun rows => rows.map (·.2) = menu.items ∧
      ∀ row ∈ rows, 0 ≤ row.1.toInt ∧ row.1.toInt ≤ 1000 := by
  have height := h.dropdownHeight_bounds
  refine h.itemTops_contiguous.mono fun rows known => ⟨known.1, fun row mem => ?_⟩
  have bounds := known.2.bounds.2 row mem
  have row := row.2.toInt_height
  omega

/-- The item under a point exists. -/
theorem itemAt_yields (p : Point) :
    Yields (menu.itemAt p) fun found => ∀ index ∈ found, index < menu.items.length := by
  refine h.dropdownRect_yields.bind ?_
  intro drop _
  split
  · exact .pure fun _ none => absurd none (by simp)
  · refine h.itemTops_yields.bind ?_
    intro rows known
    apply (MenuItem.rowAt_yields p.y known.2).mono
    intro found inside index mem
    rw [← known.1, List.length_map]
    exact inside index mem

end Menu.Fits

theorem Menu.DropsDown.within {menu : Menu} {drop : Rect} (place : menu.DropsDown drop)
    (h : menu.Fits) : drop.Within 25500 := by
  obtain ⟨left, wide, narrow, top, bottom, -⟩ := place
  have x := h.titleX
  have height := h.dropdownHeight_bounds
  exact ⟨⟨by omega, by omega⟩, ⟨by omega, by omega⟩, ⟨by omega, by omega⟩, by omega, by omega⟩

/-! ## The bar -/

/-- The open menu and the highlighted item exist. -/
def MenuBar.Tracks (bar : MenuBar) : Prop :=
  ∀ tracking ∈ bar.tracking, ∃ menu, bar.menus[tracking.menu]? = some menu ∧
    ∀ index ∈ tracking.item, index < menu.items.length

/-- What holds of a menu bar whose layout is in range. -/
structure MenuBar.Fits (bar : MenuBar) : Prop where
  menus : ∀ menu ∈ bar.menus, menu.Fits
  tracks : bar.Tracks

/-- What holds of the menu bar at all times. -/
structure MenuBar.Sound (bar : MenuBar) : Prop where
  menus : ∀ menu ∈ bar.menus, menu.Sound
  /-- The open menu and the highlighted item exist. -/
  tracking : ∀ tracking ∈ bar.tracking, ∃ menu, bar.menus[tracking.menu]? = some menu ∧
    ∀ index ∈ tracking.item, index < menu.items.length

namespace MenuBar

theorem Sound.fits {bar : MenuBar} (h : bar.Sound) : bar.Fits :=
  ⟨fun menu mem => (h.menus menu mem).fits, h.tracking⟩

theorem titleAt_yields (x : Coord) {menus : List Menu} (fits : ∀ menu ∈ menus, menu.Fits) :
    Yields (titleAt x menus) fun found => ∀ index ∈ found, index < menus.length := by
  induction menus with
  | nil => exact .pure fun _ none => absurd none (by simp)
  | cons menu rest ih =>
    refine (fits menu List.mem_cons_self).titleRect_yields.bind ?_
    intro span _
    split
    · refine .pure ?_
      intro index mem
      cases mem
      exact Nat.succ_pos _
    · refine (ih fun menu mem => fits menu (List.mem_cons_of_mem _ mem)).bind fun found known =>
        .pure ?_
      intro index mem
      obtain ⟨index', mem', rfl⟩ := Option.map_eq_some_iff.mp mem
      exact Nat.succ_lt_succ (known index' mem')

theorem selectableAt_yields {menu : Menu} (fits : menu.Fits) (p : Point) :
    Yields (selectableAt menu p) fun found => ∀ index ∈ found, index < menu.items.length := by
  refine (fits.itemAt_yields p).bind ?_
  intro found known
  cases found with
  | none => exact .pure fun _ none => absurd none (by simp)
  | some index =>
    have inside := known index rfl
    dsimp only
    rw [List.getElem?_eq_getElem inside]
    refine .pure ?_
    intro index' mem
    split at mem
    · cases mem
      exact inside
    · cases mem

theorem tracks_close (bar : MenuBar) : bar.close.Tracks := by
  rintro tracking ⟨⟩

theorem tracks_of_open {bar : MenuBar} {menu : Nat} (inside : menu < bar.menus.length) :
    { bar with tracking := some ⟨menu, none⟩ }.Tracks := by
  intro tracking mem
  cases mem
  exact ⟨bar.menus[menu], List.getElem?_eq_getElem inside, by rintro index ⟨⟩⟩

/-- Tracking leaves a bar with the same menus, and tracks one of these. -/
structure Tracked (bar bar' : MenuBar) : Prop where
  menus : bar'.menus = bar.menus
  tracks : bar'.Tracks

namespace Fits

variable {bar : MenuBar} (h : bar.Fits)
include h

/-- The open menu is one of the bar. -/
theorem menuAt_yields {tracking : Tracking} (mem : tracking ∈ bar.tracking) :
    Yields (bar.menuAt tracking.menu) fun menu => menu.Fits ∧
      bar.menus[tracking.menu]? = some menu ∧
        ∀ index ∈ tracking.item, index < menu.items.length := by
  obtain ⟨menu, known, inside⟩ := h.tracks tracking mem
  unfold menuAt
  rw [known]
  exact .pure ⟨h.menus menu (List.mem_of_getElem? known), rfl, inside⟩

theorem dropdownArea_yields : Succeeds bar.dropdownArea := by
  unfold dropdownArea
  split
  · exact .pure trivial
  · rename_i tracking eq
    refine (h.menuAt_yields eq).bind ?_
    intro menu known
    exact known.1.dropdownRect_yields.bind fun drop _ => .pure trivial

theorem mouseDown_yields (p : Point) :
    Yields (bar.mouseDown p) fun result => bar.Tracked result.2 := by
  unfold mouseDown
  split
  · exact .pure ⟨rfl, bar.tracks_close⟩
  · refine (titleAt_yields p.x h.menus).bind ?_
    intro found known
    cases found with
    | none => exact .pure ⟨rfl, h.tracks⟩
    | some menu => exact .pure ⟨rfl, tracks_of_open (known menu rfl)⟩

theorem mouseMove_yields (p : Point) : Yields (bar.mouseMove p) bar.Tracked := by
  unfold mouseMove
  split
  · exact .pure ⟨rfl, h.tracks⟩
  · rename_i tracking eq
    split
    · refine (titleAt_yields p.x h.menus).bind fun found known => .pure ⟨rfl, tracks_of_open ?_⟩
      cases found with
      | none =>
        obtain ⟨menu, found, -⟩ := h.tracks tracking eq
        exact (List.getElem?_eq_some_iff.mp found).1
      | some menu => exact known menu rfl
    · refine (h.menuAt_yields eq).bind ?_
      intro menu known
      refine (selectableAt_yields known.1 p).bind fun item inside => .pure ⟨rfl, ?_⟩
      intro tracking' mem
      cases mem
      exact ⟨menu, known.2.1, inside⟩

theorem mouseUp_yields : Yields bar.mouseUp fun result => bar.Tracked result.2 := by
  unfold mouseUp
  split
  · exact .pure ⟨rfl, h.tracks⟩
  · rename_i tracking eq
    split
    · exact .pure ⟨rfl, bar.tracks_close⟩
    · rename_i index item
      refine (h.menuAt_yields eq).bind ?_
      intro menu known
      have inside := known.2.2 index item
      rw [List.getElem?_eq_getElem inside]
      exact .pure ⟨rfl, bar.tracks_close⟩

end Fits

namespace Sound

variable {bar : MenuBar} (h : bar.Sound)
include h

theorem of_tracked {bar' : MenuBar} (tracked : bar.Tracked bar') : bar'.Sound :=
  ⟨tracked.menus ▸ h.menus, tracked.tracks⟩

theorem mouseDown_yields (p : Point) : Yields (bar.mouseDown p) fun result => result.2.Sound :=
  (h.fits.mouseDown_yields p).mono fun _ => h.of_tracked

theorem mouseMove_yields (p : Point) : Yields (bar.mouseMove p) Sound :=
  (h.fits.mouseMove_yields p).mono fun _ => h.of_tracked

theorem mouseUp_yields : Yields bar.mouseUp fun result => result.2.Sound :=
  h.fits.mouseUp_yields.mono fun _ => h.of_tracked

end Sound

end MenuBar

end TwinDesk
