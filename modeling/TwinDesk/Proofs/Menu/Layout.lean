import TwinDesk.Proofs.Display.Clipping
import TwinDesk.Proofs.Menu.Built
import TwinDesk.Proofs.Menu.Rows

/-!
# The layout of a menu bar

Titles, dropdowns and rows are placed one after the other, looked up by searches, and painted. All
of these agree: the spans of the titles are apart, the rows fill the dropdown between its paddings,
and a row is highlighted where it is painted.

* `MenuItem.Contiguous.stacked_iff` — the rows of a stack.
* `Menu.TitleSpans`, `MenuBar.titleAt_eq_some_iff` — the titles, and the search for one.
* `Menu.InRow`, `MenuBar.Lights` — where a row is painted, and what a move highlights.
* `Menu.LaidOut`, `MenuBar.TitlesApart` — the layout of a menu and of the titles.
* `MenuBar.after_laidOut` — the layout of every bar with texts of at most 500 characters.
-/

namespace TwinDesk

open MenuLayout

/-! ## Rows -/

/-- The rows of a stack without gaps are the stretches that its items take up. -/
theorem MenuItem.Contiguous.stacked_iff {rows : List (Coord × MenuItem)} {top bottom : Int}
    (stack : Contiguous top rows bottom) {index : Nat} {item : MenuItem} {y : Coord} :
    Stacked top (rows.map (·.2)) index item y ↔ ∃ start, rows[index]? = some (start, item) ∧
      start.toInt ≤ y.toInt ∧ y.toInt < start.toInt + item.height.toInt := by
  -- the rest of a stack is a stack that starts where the first row ends
  induction rows generalizing top index with
  | nil =>
    refine iff_of_false (fun stacked => ?_) ?_
    · cases stacked.known
    · rintro ⟨start, none, -⟩
      cases none
  | cons row rest ih =>
    obtain ⟨start, first⟩ := row
    obtain ⟨rfl, stack⟩ := stack
    cases index with
    | zero =>
      rw [List.map_cons, stacked_zero_iff]
      constructor
      · rintro ⟨rfl, inside⟩
        exact ⟨start, rfl, inside⟩
      · rintro ⟨start, same, inside⟩
        cases same
        exact ⟨rfl, inside⟩
    | succ index =>
      rw [List.map_cons, stacked_succ_iff]
      exact ih stack

namespace Menu

variable {menu : Menu} {drop : Rect} {row : Coord × MenuItem} {p : Point} {index : Nat}

/-- The row of an item contains a point. -/
structure InRow (drop : Rect) (row : Coord × MenuItem) (p : Point) : Prop where
  left : drop.left.toInt ≤ p.x.toInt
  right : p.x.toInt < drop.right.toInt
  high : row.1.toInt ≤ p.y.toInt
  low : p.y.toInt < row.1.toInt + row.2.height.toInt

/-- The point lies between the paddings at the left and the right. -/
structure BetweenPaddings (drop : Rect) (p : Point) : Prop where
  left : drop.left.toInt + paddingX.toInt ≤ p.x.toInt
  right : p.x.toInt < drop.right.toInt - paddingX.toInt

/-- An area of a row. -/
theorem inRow_of_contains {area : Rect} {top : Coord} {item : MenuItem}
    (across : drop.left.toInt ≤ area.left.toInt ∧ area.right.toInt ≤ drop.right.toInt)
    (down : top.toInt ≤ area.top.toInt ∧ area.bottom.toInt ≤ top.toInt + item.height.toInt)
    (covered : area.contains p = true) : InRow drop (top, item) p := by
  obtain ⟨left, right, high, low⟩ := Rect.contains_iff_toInt.mp covered
  exact ⟨Int.le_trans across.1 left, Int.lt_of_lt_of_le right across.2,
    Int.le_trans down.1 high, Int.lt_of_lt_of_le low down.2⟩

end Menu

/-! ## Painted rows -/

namespace Canvas

variable {canvas : Canvas} (clip : canvas.clip.OnScreen) {drop : Rect} {top : Coord}
  {item : MenuItem}
include clip

open Menu

theorem separator_ensures (line : item.isSeparator = true) :
    Ensures (canvas.separator drop top) (PaintedIn (InRow drop (top, item)) canvas) := by
  have one : (1 : Coord).toInt = 1 := rfl
  have half : separatorHeight.half.toInt = 4 := rfl
  have height : item.height.toInt = 8 := by rw [MenuItem.height, if_pos line]; rfl
  refine Coord.add_ensures.bind fun y yEq => Coord.add_ensures.bind fun left leftEq => ?_
  refine Coord.sub_ensures.bind fun right rightEq => Coord.add_ensures.bind fun low lowEq => ?_
  refine .pure (PaintedIn.rfl.fillWith clip fun p => inRow_of_contains ?_ ?_)
  · dsimp only
    omega
  · dsimp only
    omega

theorem highlight_ensures (label : item.isSeparator = false) :
    Ensures (canvas.highlight drop top) (PaintedIn (InRow drop (top, item)) canvas) := by
  have one : (1 : Coord).toInt = 1 := rfl
  have itemHeight : itemHeight.toInt = 14 := rfl
  have height : item.height.toInt = 14 := by rw [MenuItem.height, label]; rfl
  refine Coord.add_ensures.bind fun left leftEq => Coord.sub_ensures.bind fun right rightEq => ?_
  refine Coord.add_ensures.bind fun bottom bottomEq => .pure ?_
  refine fill_paintedIn clip .rfl (fun p => inRow_of_contains ?_ ?_) _
  · dsimp only
    omega
  · dsimp only
    omega

theorem label_ensures {painted : Canvas} {region : Point → Prop} {ink : UInt8}
    (h : PaintedIn region canvas painted) (label : item.isSeparator = false)
    (room : drop.left.toInt + item.room ≤ drop.right.toInt)
    (inside : ∀ p, InRow drop (top, item) p → BetweenPaddings drop p → region p) :
    Ensures (painted.itemFront drop top item ink) (PaintedIn region canvas) := by
  have padding : paddingX.toInt = 8 := rfl
  have height : item.height.toInt = 14 := by rw [MenuItem.height, label]; rfl
  refine itemFront_ensures clip h fun p ⟨left, right, high, low⟩ => inside p ?_ ?_
  · refine ⟨by omega, by omega, high, ?_⟩
    dsimp only
    omega
  · exact ⟨by omega, by omega⟩

/-- An item is painted in its row. -/
theorem menuItem_ensures (highlighted : Bool)
    (room : item.isSeparator = false → drop.left.toInt + item.room ≤ drop.right.toInt) :
    Ensures (canvas.menuItem drop top item highlighted)
      (PaintedIn (InRow drop (top, item)) canvas) := by
  cases kind : item.isSeparator with
  | true =>
    rw [menuItem_of_separator _ kind]
    exact separator_ensures clip kind
  | false =>
    rw [menuItem_of_label _ kind]
    have back : Ensures (canvas.itemBack drop top highlighted)
        (PaintedIn (InRow drop (top, item)) canvas) := by
      unfold itemBack
      split
      · exact highlight_ensures clip kind
      · exact .pure .rfl
    exact back.bind fun painted h => label_ensures clip h kind (room kind) fun p inRow _ => inRow

/-- The label of an item is painted between the paddings. -/
theorem menuItem_unlit_ensures (label : item.isSeparator = false)
    (room : drop.left.toInt + item.room ≤ drop.right.toInt) :
    Ensures (canvas.menuItem drop top item false)
      (PaintedIn (fun p => InRow drop (top, item) p ∧ BetweenPaddings drop p) canvas) := by
  rw [menuItem_of_label _ label]
  exact label_ensures clip .rfl label room fun p inRow between => ⟨inRow, between⟩

/-- A title is painted in its span, inverted or not. -/
theorem menuTitle_ensures {menu : Menu} {span : Rect} (isOpen : Bool)
    (laid : menu.titleRect = .ok span) (spans : menu.Spans span)
    (room : 6 * menu.title.length ≤ menu.titleWidth.toInt) :
    Ensures (canvas.menuTitle menu isOpen) (PaintedIn (span.contains · = true) canvas) := by
  obtain ⟨left, right, top, bottom⟩ := spans
  have one : (1 : Coord).toInt = 1 := rfl
  have titleTop : titleTop.toInt = 5 := rfl
  have inside (p : Point) (line : InLine ⟨menu.titleX, Canvas.titleTop⟩ menu.title.length p) :
      span.contains p = true := by
    obtain ⟨left', right', high, low⟩ := line
    dsimp only at left' right' high low
    rw [Rect.contains_iff_toInt]
    omega
  unfold menuTitle
  split
  · rw [laid]
    refine Coord.sub_ensures.bind fun bottom' eq => ?_
    refine text_ensures clip (fill_paintedIn clip .rfl (fun p covered => ?_) _) inside
    rw [Rect.contains_iff_toInt] at covered ⊢
    dsimp only at covered
    omega
  · exact text_ensures clip .rfl inside

end Canvas

/-! ## The layout of a menu -/

namespace Menu

variable {menu : Menu} {drop : Rect} {row : Coord × MenuItem} {p : Point} {index : Nat}

/-- The places of a menu: its dropdown and the rows in it. -/
structure LaidOut (menu : Menu) (drop : Rect) (rows : List (Coord × MenuItem)) : Prop where
  place : menu.dropdownRect = .ok drop
  tops : menu.itemTops = .ok rows
  items : rows.map (·.2) = menu.items
  hangs : drop.top = Layout.menuBarHeight
  /-- The rows follow each other, from two pixels below the bar to two pixels above the bottom. -/
  filled : MenuItem.Contiguous (Layout.menuBarHeight.toInt + 2) rows (drop.bottom.toInt - 2)
  /-- Every label fits between the paddings, with its check mark. -/
  labels : ∀ item ∈ menu.items, item.isSeparator = false →
    drop.left.toInt + paddingX.toInt + (if item.isChecked then checkWidth.toInt else 0) +
      (Layout.textWidth item.text).toInt ≤ drop.right.toInt - paddingX.toInt
  /-- An item is painted in its row, and its label between the paddings. -/
  painted : ∀ canvas : Canvas, canvas.clip.OnScreen → ∀ row ∈ rows,
    (∀ lit, Yields (canvas.menuItem drop row.1 row.2 lit)
      (Canvas.PaintedIn (InRow drop row) canvas)) ∧
    (row.2.isSeparator = false → Yields (canvas.menuItem drop row.1 row.2 false)
      (Canvas.PaintedIn (fun p => InRow drop row p ∧ BetweenPaddings drop p) canvas))

theorem DropsDown.labels (down : menu.DropsDown drop) {item : MenuItem} (mem : item ∈ menu.items)
    (label : item.isSeparator = false) (short : item.text.length ≤ 500) :
    drop.left.toInt + paddingX.toInt + (if item.isChecked then checkWidth.toInt else 0) +
      (Layout.textWidth item.text).toInt ≤ drop.right.toInt - paddingX.toInt := by
  have padding : paddingX.toInt = 8 := rfl
  have check : checkWidth.toInt = 10 := rfl
  have room := down.room item mem label
  have text := Layout.toInt_textWidth (Nat.le_trans short (by decide))
  unfold MenuItem.room at room
  by_cases checked : item.isChecked = true
  · rw [if_pos checked] at room ⊢
    omega
  · rw [if_neg checked] at room ⊢
    omega

theorem Fits.laidOut (h : menu.Fits) : ∃ drop rows, menu.LaidOut drop rows := by
  obtain ⟨drop, place, down⟩ := h.dropdownRect_yields
  obtain ⟨rows, tops, items, stack⟩ := h.itemTops_contiguous
  have height := h.dropdownHeight_bounds
  have bar : Layout.menuBarHeight.toInt = 20 := rfl
  have bottom : drop.bottom.toInt - 2 = 18 + menu.dropdownHeight.toInt := by
    rw [down.bottom]
    omega
  refine ⟨drop, rows, place, tops, items, Int16.toInt_inj.mp down.top, ?_, ?_, ?_⟩
  · rw [bottom]
    exact stack
  · exact fun item mem label => down.labels mem label (h.items item mem)
  · intro canvas clip row mem
    have listed : row.2 ∈ menu.items := items ▸ List.mem_map_of_mem mem
    have room := down.room row.2 listed
    -- the rows are on the screen or not far below it
    have bounds := stack.bounds.2 row mem
    have rowHeight := row.2.toInt_height
    have painted (lit : Bool) : Succeeds (canvas.menuItem drop row.1 row.2 lit) :=
      canvas.menuItem_yields (down.within h) ⟨by omega, by omega⟩ (h.items _ listed)
    refine ⟨fun lit => ?_, fun label => ?_⟩
    · exact (Canvas.menuItem_ensures clip lit room).yields (painted lit)
    · exact (Canvas.menuItem_unlit_ensures clip label (room label)).yields (painted false)

namespace LaidOut

variable {rows : List (Coord × MenuItem)} (h : menu.LaidOut drop rows)
include h

/-- All rows lie in the dropdown. -/
theorem contains_of_inRow (mem : row ∈ rows) (inRow : InRow drop row p) :
    drop.contains p = true := by
  have bounds := h.filled.bounds.2 row mem
  have top : drop.top.toInt = 20 := by rw [h.hangs]; rfl
  have bar : Layout.menuBarHeight.toInt = 20 := rfl
  obtain ⟨left, right, high, low⟩ := inRow
  rw [Rect.contains_iff_toInt]
  omega

theorem rowContains_iff {item : MenuItem} :
    menu.RowContains index item p ↔
      ∃ start, rows[index]? = some (start, item) ∧ InRow drop (start, item) p := by
  constructor
  · rintro ⟨⟨drop', place, left, right⟩, stacked⟩
    cases h.place.symm.trans place
    rw [← h.items] at stacked
    obtain ⟨start, known, high, low⟩ := h.filled.stacked_iff.mp stacked
    exact ⟨start, known, left, right, high, low⟩
  · rintro ⟨start, known, left, right, high, low⟩
    refine ⟨⟨drop, h.place, left, right⟩, ?_⟩
    rw [← h.items]
    exact h.filled.stacked_iff.mpr ⟨start, known, high, low⟩

end LaidOut

/-! ## Titles -/

/-- The span of the title contains an x position. -/
def TitleSpans (menu : Menu) (x : Coord) : Prop :=
  ∃ span, menu.titleRect = .ok span ∧ span.left.toInt ≤ x.toInt ∧ x.toInt < span.right.toInt

/-- The span of one title ends to the left of where the span of the other one starts. -/
def TitleBefore (left right : Menu) : Prop :=
  ∃ span span', left.titleRect = .ok span ∧ right.titleRect = .ok span' ∧
    span.right.toInt < span'.left.toInt

theorem TitleBefore.apart {left right : Menu} (before : left.TitleBefore right) {x : Coord}
    (inside : left.TitleSpans x) : ¬right.TitleSpans x := by
  rintro ⟨span₂, laid₂, after, -⟩
  obtain ⟨span₁, laid₁, -, before'⟩ := inside
  obtain ⟨span, span', laid, laid', gap⟩ := before
  cases laid.symm.trans laid₁
  cases laid'.symm.trans laid₂
  omega

end Menu

namespace MenuBar

variable {bar : MenuBar} {menus : List Menu} {index : Nat} {x : Coord} {p : Point}
  {found : Option Nat} {actions : List Action}

/-- The search finds the title whose span contains the position. -/
theorem titleAt_eq_some_iff (ordered : menus.Pairwise Menu.TitleBefore)
    (searched : titleAt x menus = .ok found) :
    found = some index ↔ ∃ menu, menus[index]? = some menu ∧ menu.TitleSpans x := by
  -- the search stops at the first title; that no later one is meant needs their order
  induction menus generalizing found index with
  | nil =>
    cases searched
    simp
  | cons menu rest ih =>
    obtain ⟨first, later⟩ := List.pairwise_cons.mp ordered
    obtain ⟨span, laid, searched⟩ := Checked.bind_eq_ok_iff.mp searched
    split at searched
    · rename_i inside
      cases searched
      rw [Bool.and_eq_true, decide_eq_true_eq, decide_eq_true_eq, Int16.le_iff_toInt_le,
        Int16.lt_iff_toInt_lt] at inside
      have here : menu.TitleSpans x := ⟨span, laid, inside⟩
      cases index with
      | zero => exact iff_of_true rfl ⟨menu, rfl, here⟩
      | succ index =>
        refine iff_of_false (fun same => ?_) ?_
        · cases same
        · rintro ⟨other, known, there⟩
          exact (first other (List.mem_of_getElem? known)).apart here there
    · rename_i outside
      obtain ⟨found', searched', eq⟩ := Checked.bind_eq_ok_iff.mp searched
      cases eq
      rw [Bool.and_eq_true, decide_eq_true_eq, decide_eq_true_eq, Int16.le_iff_toInt_le,
        Int16.lt_iff_toInt_lt] at outside
      cases index with
      | zero =>
        refine iff_of_false (by simp) ?_
        rintro ⟨_, ⟨⟩, span', laid', inside⟩
        cases laid.symm.trans laid'
        exact outside inside
      | succ index =>
        rw [List.getElem?_cons_succ, ← ih later searched']
        simp

/-- The titles of a bar are laid out from left to right, and a press opens the one it is on. -/
structure TitlesApart (bar : MenuBar) : Prop where
  ordered : bar.menus.Pairwise Menu.TitleBefore
  /-- The span of a title contains its text, and the title is painted there. -/
  texts : ∀ menu ∈ bar.menus, ∃ span, menu.titleRect = .ok span ∧
    span.left.toInt ≤ menu.titleX.toInt ∧
    menu.titleX.toInt + (Layout.textWidth menu.title).toInt ≤ span.right.toInt ∧
    ∀ canvas : Canvas, canvas.clip.OnScreen → ∀ isOpen,
      Yields (canvas.menuTitle menu isOpen) (Canvas.PaintedIn (span.contains · = true) canvas)
  opens : ∀ p, Yields (bar.mouseDown p) fun result => ∀ index,
    (result.1 = true ∧ result.2.openMenu? = some index) ↔
      p.y < Layout.menuBarHeight ∧ ∃ menu, bar.menus[index]? = some menu ∧ menu.TitleSpans p.x

theorem Built.titlesApart (h : bar.Built) : bar.TitlesApart := by
  have ordered : bar.menus.Pairwise Menu.TitleBefore := by
    refine (List.pairwise_map.mp h.titles.ordered).imp_of_mem fun {left right} mem mem' gap => ?_
    obtain ⟨span, laid, spans⟩ := (h.menu_fits mem).titleRect_yields
    obtain ⟨span', laid', spans'⟩ := (h.menu_fits mem').titleRect_yields
    refine ⟨span, span', laid, laid', ?_⟩
    rw [spans.right, spans'.left]
    dsimp only [Menu.bare] at gap
    omega
  refine ⟨ordered, fun menu mem => ?_, fun p => ?_⟩
  · obtain ⟨span, laid, spans⟩ := (h.menu_fits mem).titleRect_yields
    obtain ⟨short, width⟩ := h.titles.width menu.bare (List.mem_map_of_mem mem)
    dsimp only [Menu.bare] at short width
    have text := Layout.toInt_textWidth (Nat.le_trans short (by decide))
    have left := spans.left
    have right := spans.right
    refine ⟨span, laid, by omega, by omega, fun canvas clip isOpen => ?_⟩
    exact (Canvas.menuTitle_ensures clip isOpen laid spans (by omega)).yields
      (canvas.menuTitle_yields (h.menu_fits mem) isOpen)
  · unfold mouseDown
    split
    · rename_i below
      refine .pure fun index => iff_of_false (by simp) ?_
      rintro ⟨above, -⟩
      exact Int16.not_lt.mpr below above
    · rename_i above
      obtain ⟨found, searched, -⟩ := titleAt_yields p.x fun menu => h.menu_fits
      refine Yields.bind ⟨found, searched, rfl⟩ ?_
      rintro _ rfl
      have known {index : Nat} : found = some index ↔
          ∃ menu, bar.menus[index]? = some menu ∧ menu.TitleSpans p.x :=
        titleAt_eq_some_iff ordered searched
      cases found with
      | none =>
        refine .pure fun index => iff_of_false (by simp) ?_
        rintro ⟨-, there⟩
        cases known.mpr there
      | some place =>
        refine .pure fun index => ?_
        rw [← known]
        simp [openMenu?, Int16.not_le.mp above]

/-! ## The highlight -/

/-- After a move to a point, the selectable item whose row contains the point is highlighted. -/
structure Lights (drop : Rect) (rows : List (Coord × MenuItem)) (p : Point) (moved : MenuBar) :
    Prop where
  lit : ∀ index, moved.highlighted? = some index ↔ ∃ row, rows[index]? = some row ∧
    row.2.isSelectable = true ∧ Menu.InRow drop row p
  dark : drop.contains p = false → moved.highlighted? = none

theorem mouseMove_lights (fits : ∀ menu ∈ bar.menus, menu.Fits) {menu : Menu}
    (opened : bar.openMenu? = some index) (known : bar.menus[index]? = some menu) {drop : Rect}
    {rows : List (Coord × MenuItem)} (laid : menu.LaidOut drop rows) :
    Yields (bar.mouseMove p) (Lights drop rows p) := by
  have lights {moved : MenuBar} (lit : ∀ index, moved.highlighted? = some index ↔
      ∃ item, menu.Offers index item p) : Lights drop rows p moved := by
    have lit (index : Nat) : moved.highlighted? = some index ↔ ∃ row, rows[index]? = some row ∧
        row.2.isSelectable = true ∧ Menu.InRow drop row p := by
      rw [lit]
      simp only [Menu.Offers, laid.rowContains_iff]
      grind
    -- rows do not stick out of the dropdown
    refine ⟨lit, fun outside => Option.eq_none_iff_forall_ne_some.mpr fun index same => ?_⟩
    obtain ⟨row, known, -, inRow⟩ := (lit index).mp same
    rw [laid.contains_of_inRow (List.mem_of_getElem? known) inRow] at outside
    cases outside
  obtain ⟨tracking, tracks, rfl⟩ := Option.map_eq_some_iff.mp opened
  unfold mouseMove
  rw [tracks]
  dsimp only
  split
  · rename_i above
    refine (titleAt_yields p.x fits).bind fun found _ => .pure (lights fun index => ?_)
    refine iff_of_false (fun none => ?_) ?_
    · cases none
    · rintro ⟨item, row, -⟩
      exact row.below_bar above
  · refine Yields.bind ⟨menu, menuAt_eq_ok_iff.mpr known, rfl⟩ ?_
    rintro _ rfl
    obtain ⟨found, searched, -⟩ :=
      selectableAt_yields (fits menu (List.mem_of_getElem? known)) p
    refine Yields.bind ⟨found, searched, rfl⟩ ?_
    rintro _ rfl
    exact .pure (lights fun index => selectableAt_eq_some_iff searched)

/-! ## The layout of a bar -/

/-- The layout of a bar, and what moves highlight wherever such a bar has a menu open. -/
structure LaidOut (bar : MenuBar) : Prop where
  titles : bar.TitlesApart
  menus : ∀ index menu, bar.menus[index]? = some menu → ∃ drop rows, menu.LaidOut drop rows ∧
    ∀ opened : MenuBar, opened.menus = bar.menus → opened.openMenu? = some index →
      ∀ p, Yields (opened.mouseMove p) (Lights drop rows p)

/-- The places of titles, dropdowns and rows agree with one another, with what is found at a point
and with what is painted, however the bar was built. -/
theorem after_laidOut (short : ∀ action ∈ actions, action.Short) :
    Yields (after actions) LaidOut := by
  refine (after_yields short).mono fun bar built => ⟨built.titlesApart, ?_⟩
  intro index menu known
  obtain ⟨drop, rows, laid⟩ := (built.menu_fits (List.mem_of_getElem? known)).laidOut
  refine ⟨drop, rows, laid, fun opened same tracks p => ?_⟩
  have fits : ∀ menu ∈ opened.menus, menu.Fits := by
    rw [same]
    exact fun menu => built.menu_fits
  exact mouseMove_lights fits tracks (same ▸ known) laid

/-- Two menus, one of them with a separator, a check mark and a long label. -/
theorem after_laidOut_checked_item :
    let actions := [.addMenu "File", .addItem 0 "New" 1 .none, .addSeparator 0,
      .addItem 0 "Keep a copy of everything" 2 .checked, .addMenu "Edit", .setEnabled 0 0 false]
    (∀ action ∈ actions, action.Short) ∧ Yields (after actions) fun bar =>
      bar.LaidOut ∧ bar.menus.length = 2 := by
  intro actions
  have short : ∀ action ∈ actions, action.Short := by decide
  obtain ⟨bar, eq, laid⟩ := after_laidOut short
  refine ⟨short, bar, eq, laid, ?_⟩
  cases eq
  rfl

end MenuBar

end TwinDesk
