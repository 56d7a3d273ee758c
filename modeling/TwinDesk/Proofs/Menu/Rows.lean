import TwinDesk.Proofs.Menu.Sound

/-!
# Rows of a dropdown

Every item of a menu has a row: a stretch across the dropdown, below the rows of the items before
it. A search finds the item whose row contains a point, and there is at most one such item.

* `MenuItem.Stacked` — the rows of a stack of items.
* `Menu.RowContains`, `Menu.itemAt_eq_some_iff` — rows on the screen, and the search for one.
* `Menu.Offers`, `MenuBar.selectableAt_eq_some_iff` — the item that can be chosen at a point.
* `MenuBar.Highlights`, `Menu.Chooses` — what is highlighted at a point, and what a release chooses.
-/

namespace TwinDesk

variable {found : Option Nat} {index : Nat} {item : MenuItem} {items : List MenuItem}

/-! ## Stacks of items -/

namespace MenuItem

/-- How high the items before an index are together. -/
def heightAbove : List MenuItem → Nat → Int
  | item :: rest, index + 1 => item.height.toInt + heightAbove rest index
  | _, _ => 0

@[simp] theorem heightAbove_zero (items : List MenuItem) : heightAbove items 0 = 0 := by
  cases items <;> rfl

@[simp] theorem heightAbove_cons (item : MenuItem) (rest : List MenuItem) (index : Nat) :
    heightAbove (item :: rest) (index + 1) = item.height.toInt + heightAbove rest index :=
  rfl

theorem heightAbove_nonneg (items : List MenuItem) (index : Nat) : 0 ≤ heightAbove items index := by
  induction items generalizing index with
  | nil => exact Int.le_refl 0
  | cons item rest ih =>
    cases index with
    | zero => exact Int.le_refl 0
    | succ index =>
      have here := item.toInt_height
      have later := ih index
      rw [heightAbove_cons]
      omega

/-- In a stack of items that starts at `top`, the row of the item at an index contains `y`. -/
structure Stacked (top : Int) (items : List MenuItem) (index : Nat) (item : MenuItem) (y : Coord) :
    Prop where
  known : items[index]? = some item
  below : top + heightAbove items index ≤ y.toInt
  above : y.toInt < top + heightAbove items index + item.height.toInt

theorem stacked_zero_iff {top : Int} {first : MenuItem} {y : Coord} :
    Stacked top (first :: items) 0 item y ↔
      first = item ∧ top ≤ y.toInt ∧ y.toInt < top + first.height.toInt := by
  constructor
  · rintro ⟨known, below, above⟩
    cases known
    simp only [heightAbove_zero] at below above
    exact ⟨rfl, by omega, by omega⟩
  · rintro ⟨rfl, below, above⟩
    refine ⟨rfl, ?_, ?_⟩
    · rw [heightAbove_zero]
      omega
    · rw [heightAbove_zero]
      omega

theorem stacked_succ_iff {top : Int} {first : MenuItem} {y : Coord} :
    Stacked top (first :: items) (index + 1) item y ↔
      Stacked (top + first.height.toInt) items index item y := by
  constructor
  · rintro ⟨known, below, above⟩
    rw [heightAbove_cons] at below above
    exact ⟨known, by omega, by omega⟩
  · rintro ⟨known, below, above⟩
    refine ⟨known, ?_, ?_⟩
    · rw [heightAbove_cons]
      omega
    · rw [heightAbove_cons]
      omega

/-- No row reaches above the top of the stack. -/
theorem Stacked.top_le {top : Int} {y : Coord} (stacked : Stacked top items index item y) :
    top ≤ y.toInt := by
  have := heightAbove_nonneg items index
  have := stacked.below
  omega

/-- The search ends in the first row, or goes on below it. -/
theorem rowAt_cons {top bottom y : Coord} {first : MenuItem} {later : List (Coord × MenuItem)}
    (height : Coord.add top first.height = .ok bottom)
    (searched : rowAt y ((top, first) :: later) = .ok found) :
    (top ≤ y ∧ y < bottom) ∧ found = some 0 ∨
      ¬(top ≤ y ∧ y < bottom) ∧ ∃ found', rowAt y later = .ok found' ∧
        found = found'.map (· + 1) := by
  have onwards (searched : (do return (← rowAt y later).map (· + 1)) = .ok found) :
      ∃ found', rowAt y later = .ok found' ∧ found = found'.map (· + 1) := by
    obtain ⟨found', searched', eq⟩ := Checked.bind_eq_ok_iff.mp searched
    cases eq
    exact ⟨found', searched', rfl⟩
  unfold rowAt at searched
  split at searched
  · rename_i below
    rw [height] at searched
    dsimp only [bind, Except.bind] at searched
    split at searched
    · rename_i above
      cases searched
      exact .inl ⟨⟨below, above⟩, rfl⟩
    · rename_i beneath
      exact .inr ⟨fun inside => beneath inside.2, onwards searched⟩
  · rename_i above
    exact .inr ⟨fun inside => above inside.1, onwards searched⟩

/-- The search through a stack finds the row that contains `y`. -/
theorem rowAt_tops_iff {top y : Coord} {rows : List (Coord × MenuItem)}
    (laid : tops top items = .ok rows) (searched : rowAt y rows = .ok found) :
    found = some index ↔ ∃ item, Stacked top.toInt items index item y := by
  induction items generalizing top rows found index with
  | nil =>
    cases laid
    cases searched
    constructor
    · intro none
      cases none
    · rintro ⟨item, stacked⟩
      cases stacked.known
  | cons first rest ih =>
    obtain ⟨next, down, laid⟩ := Checked.bind_eq_ok_iff.mp laid
    obtain ⟨later, laid', eq⟩ := Checked.bind_eq_ok_iff.mp laid
    cases eq
    have next_eq : next.toInt = top.toInt + first.height.toInt := Coord.exact_eq_ok_iff.mp down
    have found_eq := rowAt_cons down searched
    rw [Int16.le_iff_toInt_le, Int16.lt_iff_toInt_lt] at found_eq
    -- at `y` the search is in the first row, or in a row that it has in the rest of the stack
    cases index with
    | zero =>
      simp only [stacked_zero_iff, ← next_eq]
      obtain ⟨inside, rfl⟩ | ⟨outside, found', -, rfl⟩ := found_eq
      · exact iff_of_true rfl ⟨first, rfl, inside⟩
      · refine iff_of_false (by simp) ?_
        rintro ⟨item, rfl, inside⟩
        exact outside inside
    | succ index =>
      simp only [stacked_succ_iff, ← next_eq]
      obtain ⟨inside, rfl⟩ | ⟨outside, found', searched', rfl⟩ := found_eq
      · refine iff_of_false nofun ?_
        rintro ⟨item, stacked⟩
        have := stacked.top_le
        omega
      · rw [← ih laid' searched', Option.map_eq_some_iff]
        simp

end MenuItem

/-! ## Rows on the screen -/

namespace Menu

variable {menu : Menu} {p : Point}

/-- The row of the item at an index contains a point. -/
structure RowContains (menu : Menu) (index : Nat) (item : MenuItem) (p : Point) : Prop where
  across : ∃ drop, menu.dropdownRect = .ok drop ∧
    drop.left.toInt ≤ p.x.toInt ∧ p.x.toInt < drop.right.toInt
  stacked : MenuItem.Stacked 22 menu.items index item p.y

/-- All rows lie below the menu bar. -/
theorem RowContains.below_bar (row : menu.RowContains index item p) :
    ¬p.y < Layout.menuBarHeight := by
  have top := row.stacked.top_le
  have bar : Layout.menuBarHeight.toInt = 20 := rfl
  rw [Int16.lt_iff_toInt_lt]
  omega

/-- The search finds the row that contains the point. -/
theorem itemAt_eq_some_iff (searched : menu.itemAt p = .ok found) :
    found = some index ↔ ∃ item, menu.RowContains index item p := by
  obtain ⟨drop, laid, searched⟩ := Checked.bind_eq_ok_iff.mp searched
  split at searched
  · rename_i beside
    cases searched
    constructor
    · intro none
      cases none
    · rintro ⟨item, ⟨drop', laid', left, right⟩, -⟩
      cases laid.symm.trans laid'
      rw [Bool.or_eq_true, decide_eq_true_eq, decide_eq_true_eq, Int16.lt_iff_toInt_lt,
        Int16.le_iff_toInt_le] at beside
      omega
  · rename_i inside
    rw [Bool.or_eq_true, decide_eq_true_eq, decide_eq_true_eq, Int16.lt_iff_toInt_lt,
      Int16.le_iff_toInt_le] at inside
    obtain ⟨rows, laid', searched⟩ := Checked.bind_eq_ok_iff.mp searched
    rw [MenuItem.rowAt_tops_iff laid' searched]
    constructor
    · rintro ⟨item, stacked⟩
      exact ⟨item, ⟨drop, laid, by omega, by omega⟩, stacked⟩
    · rintro ⟨item, row⟩
      exact ⟨item, row.stacked⟩

/-- At a point, an item can be chosen: its row contains the point, and it is selectable. -/
def Offers (menu : Menu) (index : Nat) (item : MenuItem) (p : Point) : Prop :=
  menu.RowContains index item p ∧ item.isSelectable = true

end Menu

namespace MenuBar

variable {bar bar' : MenuBar} {menu : Menu} {p : Point}

/-- The search for an item that can be chosen. -/
theorem selectableAt_eq_some_iff (searched : selectableAt menu p = .ok found) :
    found = some index ↔ ∃ item, menu.Offers index item p := by
  obtain ⟨row?, located, searched⟩ := Checked.bind_eq_ok_iff.mp searched
  have located {index : Nat} : row? = some index ↔ ∃ item, menu.RowContains index item p :=
    Menu.itemAt_eq_some_iff located
  cases row? with
  | none =>
    cases searched
    constructor
    · intro none
      cases none
    · rintro ⟨item, row, -⟩
      cases located.mpr ⟨item, row⟩
  | some here =>
    obtain ⟨item, row⟩ := located.mp rfl
    dsimp only at searched
    rw [row.stacked.known] at searched
    cases searched
    -- no other row contains the point
    have only {item' : MenuItem} (offered : menu.Offers index item' p) :
        here = index ∧ item = item' := by
      obtain rfl := Option.some.inj (located.mpr ⟨item', offered.1⟩)
      exact ⟨rfl, Option.some.inj (row.stacked.known.symm.trans offered.1.stacked.known)⟩
    split
    · rename_i selectable
      constructor
      · intro same
        cases same
        exact ⟨item, row, selectable⟩
      · rintro ⟨item', offered⟩
        rw [(only offered).1]
    · rename_i inert
      constructor
      · intro none
        cases none
      · rintro ⟨item', offered⟩
        obtain ⟨-, rfl⟩ := only offered
        exact absurd offered.2 inert

/-! ## The highlight -/

/-- An open menu has a place on the screen, and highlights the item that can be chosen at a point. -/
def Highlights (bar : MenuBar) (seen : Option Point) : Prop :=
  ∀ tracking ∈ bar.tracking, ∃ menu p, bar.menus[tracking.menu]? = some menu ∧ seen = some p ∧
    Succeeds menu.dropdownRect ∧
    ∀ index, tracking.item = some index ↔ ∃ item, menu.Offers index item p

theorem highlights_of_closed (closed : bar.isTracking = false) (seen : Option Point) :
    bar.Highlights seen := by
  intro tracking opened
  rw [isTracking, opened] at closed
  cases closed

theorem menuAt_eq_ok_iff {index : Nat} :
    bar.menuAt index = .ok menu ↔ bar.menus[index]? = some menu := by
  unfold menuAt
  cases bar.menus[index]? with
  | none =>
    constructor
    · intro none
      cases none
    · intro none
      cases none
  | some found =>
    constructor
    · intro same
      cases same
      rfl
    · intro same
      cases same
      rfl

/-- An open menu whose dropdown has a place is one of the bar. -/
theorem exists_menu_of_laid {tracking : Tracking} (opened : bar.tracking = some tracking)
    (laid : Succeeds bar.dropdownArea) :
    ∃ menu, bar.menus[tracking.menu]? = some menu ∧ Succeeds menu.dropdownRect := by
  obtain ⟨area, laid, -⟩ := laid
  rw [dropdownArea, opened] at laid
  obtain ⟨menu, known, laid⟩ := Checked.bind_eq_ok_iff.mp laid
  obtain ⟨drop, laid, -⟩ := Checked.bind_eq_ok_iff.mp laid
  exact ⟨menu, menuAt_eq_ok_iff.mp known, drop, laid, trivial⟩

/-- The dropdown of a menu that highlights has a place. -/
theorem Highlights.laid {seen : Option Point} (highlights : bar.Highlights seen) :
    Succeeds bar.dropdownArea := by
  unfold dropdownArea
  split
  · exact .pure trivial
  · rename_i tracking opened
    obtain ⟨menu, p, known, -, laid, -⟩ := highlights tracking opened
    rw [menuAt_eq_ok_iff.mpr known]
    exact laid.bind fun drop _ => .pure trivial

/-- In the bar there is nothing to choose. -/
theorem highlights_of_above (above : p.y < Layout.menuBarHeight) {index : Nat}
    (opened : bar.tracking = some ⟨index, none⟩) (laid : Succeeds bar.dropdownArea) :
    bar.Highlights (some p) := by
  intro tracking opened'
  cases opened.symm.trans opened'
  obtain ⟨menu, known, laid⟩ := exists_menu_of_laid opened laid
  refine ⟨menu, p, known, rfl, laid, fun index => iff_of_false (fun none => ?_) ?_⟩
  · cases none
  · rintro ⟨item, row, -⟩
    exact row.below_bar above

/-- A menu that follows the pointer highlights what can be chosen there. -/
theorem highlights_mouseMove (tracking : bar.isTracking = true)
    (moved : bar.mouseMove p = .ok bar') (laid : Succeeds bar'.dropdownArea) :
    bar'.Highlights (some p) := by
  obtain ⟨tracked, opened⟩ := Option.isSome_iff_exists.mp tracking
  rw [mouseMove, opened] at moved
  dsimp only at moved
  split at moved
  · rename_i above
    obtain ⟨found, -, moved⟩ := Checked.bind_eq_ok_iff.mp moved
    cases moved
    exact highlights_of_above above rfl laid
  · obtain ⟨menu, known, moved⟩ := Checked.bind_eq_ok_iff.mp moved
    obtain ⟨item, searched, moved⟩ := Checked.bind_eq_ok_iff.mp moved
    cases moved
    intro tracking' opened'
    cases opened'
    have known := menuAt_eq_ok_iff.mp known
    obtain ⟨menu', known', laid⟩ := exists_menu_of_laid rfl laid
    cases known.symm.trans known'
    exact ⟨menu, p, known, rfl, laid, fun index => selectableAt_eq_some_iff searched⟩

end MenuBar

/-! ## Choices -/

/-- What a release at a point chooses from the menu at an index: the selectable item whose row
contains the point, and nothing where there is no such item. -/
def Menu.Chooses (menu : Menu) (index : Nat) (p : Point) (choice : Option MenuSelection) : Prop :=
  ∀ selection, choice = some selection ↔ selection.menu = index ∧
    ∃ item, menu.Offers selection.item item p ∧ selection.command = item.command

/-- A release closes the menu and chooses the item that is highlighted. -/
theorem MenuBar.Highlights.mouseUp_yields {bar : MenuBar} {seen : Option Point}
    (highlights : bar.Highlights seen) {tracking : Tracking}
    (opened : bar.tracking = some tracking) :
    ∃ menu p, bar.menus[tracking.menu]? = some menu ∧ seen = some p ∧
      Yields bar.mouseUp fun result =>
        result.2 = bar.close ∧ menu.Chooses tracking.menu p result.1 := by
  obtain ⟨menu, p, known, seen, -, offered⟩ := highlights tracking opened
  refine ⟨menu, p, known, seen, ?_⟩
  unfold mouseUp
  rw [opened]
  dsimp only
  cases here : tracking.item with
  | none =>
    refine .pure ⟨rfl, fun selection => iff_of_false (fun none => ?_) ?_⟩
    · cases none
    · rintro ⟨-, item, offers, -⟩
      cases here.symm.trans ((offered _).mpr ⟨item, offers⟩)
  | some index =>
    obtain ⟨item, row, selectable⟩ := (offered index).mp here
    dsimp only
    refine Yields.bind ⟨menu, menuAt_eq_ok_iff.mpr known, rfl⟩ ?_
    rintro _ rfl
    rw [row.stacked.known]
    refine .pure ⟨rfl, fun selection => ?_⟩
    rw [if_pos selectable]
    constructor
    · intro same
      cases same
      exact ⟨rfl, item, ⟨row, selectable⟩, rfl⟩
    · rintro ⟨menu_eq, item', offers, command⟩
      have same : tracking.item = some selection.item := (offered _).mpr ⟨item', offers⟩
      obtain rfl := Option.some.inj (here.symm.trans same)
      obtain rfl := Option.some.inj (row.stacked.known.symm.trans offers.1.stacked.known)
      rw [← menu_eq, ← command]

end TwinDesk
