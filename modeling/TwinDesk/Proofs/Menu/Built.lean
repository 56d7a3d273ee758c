import Mathlib.Data.List.Induction
import TwinDesk.Proofs.Menu.Sound

/-!
# Menu bars after any actions

A menu bar is built up and tracked in any order: menus and items are added while a dropdown is open,
and items are switched on and off. As long as no text is longer than 500 characters, nothing of this
faults, and what is refused changes nothing.

* `MenuBar.Action`, `MenuBar.after` — uses of a bar, and the bar after some of them.
* `MenuBar.Step`, `MenuBar.run_yields` — all that an action can do to a bar.
* `MenuBar.Built`, `MenuBar.after_yields` — the invariant of bars with texts of that length.
-/

namespace TwinDesk

open MenuLayout

/-- The menu without its items. -/
def Menu.bare (menu : Menu) : Menu :=
  { menu with items := [] }

/-- Other flags do not make a separator of an item, or something else of a separator. -/
theorem ItemFlags.contains_separator_set {flags other : ItemFlags} (on : Bool)
    (apart : other.bits &&& 1 = 0) (apart' : ~~~other.bits &&& 1 = 1) :
    (flags.set other on).contains .separator = flags.contains .separator := by
  have distrib : (flags.bits ||| other.bits) &&& 1 = flags.bits &&& 1 ||| other.bits &&& 1 := by
    rw [← UInt8.toNat_inj, UInt8.toNat_and, UInt8.toNat_or, Nat.and_or_distrib_right]
    rfl
  cases on with
  | true => simp [set, contains, separator, distrib, apart]
  | false => simp [set, contains, separator, UInt8.and_assoc, apart']

namespace MenuBar

/-- One use of a menu bar. -/
inductive Action where
  | addMenu (title : String)
  | addItem (menu : Nat) (text : String) (command : UInt16) (flags : ItemFlags)
  | addSeparator (menu : Nat)
  | setEnabled (menu item : Nat) (enabled : Bool)
  | setChecked (menu item : Nat) (checked : Bool)
  | mouseDown (p : Point)
  | mouseMove (p : Point)
  | mouseUp
  | close
  deriving DecidableEq, Repr

/-- What the bar answers. -/
inductive Answer where
  /-- The index of the new menu or item. -/
  | added (index : Nat)
  | changed
  | refused (error : DesktopError)
  /-- Whether there was a title at the place of the press. -/
  | pressed (onTitle : Bool)
  | released (choice : Option MenuSelection)
  | done
  deriving DecidableEq, Repr

namespace Answer

def ofAdding : Except DesktopError Nat → Answer
  | .ok index => added index
  | .error error => refused error

def ofChanging : Except DesktopError Unit → Answer
  | .ok () => changed
  | .error error => refused error

end Answer

namespace Action

/-- The answer to an action, and the bar after it. -/
def run (bar : MenuBar) : Action → Checked (Answer × MenuBar)
  | addMenu title => do
    let (result, bar) ← bar.addMenu title
    return (.ofAdding result, bar)
  | addItem menu text command flags =>
    let (result, bar) := bar.addItem menu text command flags
    return (.ofAdding result, bar)
  | addSeparator menu =>
    let (result, bar) := bar.addSeparator menu
    return (.ofAdding result, bar)
  | setEnabled menu item enabled =>
    let (result, bar) := bar.setEnabled menu item enabled
    return (.ofChanging result, bar)
  | setChecked menu item checked =>
    let (result, bar) := bar.setChecked menu item checked
    return (.ofChanging result, bar)
  | mouseDown p => do
    let (onTitle, bar) ← bar.mouseDown p
    return (.pressed onTitle, bar)
  | mouseMove p => do
    let bar ← bar.mouseMove p
    return (.done, bar)
  | mouseUp => do
    let (choice, bar) ← bar.mouseUp
    return (.released choice, bar)
  | close => return (.done, bar.close)

/-- No text is longer than 500 characters. -/
def Short : Action → Prop
  | addMenu title => title.length ≤ 500
  | addItem _ text _ _ => text.length ≤ 500
  | _ => True

instance (action : Action) : Decidable action.Short := by
  cases action <;> unfold Short <;> infer_instance

/-- Where an action moves the pointer to. -/
def move? : Action → Option Point
  | mouseMove p => some p
  | _ => none

/-- The item that an action adds, and the menu that it is for. -/
def item? : Action → Option (Nat × MenuItem)
  | addItem menu text command flags => some (menu, ⟨text, flags, command⟩)
  | addSeparator menu => some (menu, ⟨"", .separator, 0⟩)
  | _ => none

end Action

/-- The bar after some actions, from a bar without menus. -/
def after (actions : List Action) : Checked MenuBar :=
  actions.foldlM (fun bar action => do
    let (_, bar) ← action.run bar
    return bar) empty

/-! ## What an action does -/

/-- The title comes to the right of the others. -/
structure Next (bar : MenuBar) (added : Menu) : Prop where
  short : added.title.length ≤ 500
  titleX : added.titleX.toInt = match bar.menus.getLast? with
    | none => 10
    | some last => last.titleX.toInt + last.titleWidth.toInt + 8
  titleWidth : added.titleWidth.toInt = 6 * added.title.length + 8
  items : added.items = []

/-- The bar with another menu in place of the one at an index. -/
def setMenu (bar : MenuBar) (index : Nat) (menu : Menu) : MenuBar :=
  { bar with menus := bar.menus.set index menu }

/-- All that an action can do to a bar. -/
inductive Step (bar : MenuBar) : Action → Answer → MenuBar → Prop
  | refused {action : Action} (still : action.move? = none) (error : DesktopError) :
      Step bar action (.refused error) bar
  | menu {title : String} {added : Menu} (room : bar.menus.length < 8) (next : bar.Next added) :
      Step bar (.addMenu title) (.added bar.menus.length)
        { bar with menus := bar.menus ++ [added] }
  | item {action : Action} {menu : Nat} {new : MenuItem} {found : Menu}
      (adds : action.item? = some (menu, new)) (short : new.text.length ≤ 500)
      (known : bar.menus[menu]? = some found) (room : found.items.length < 16) :
      Step bar action (.added found.items.length)
        (bar.setMenu menu { found with items := found.items ++ [new] })
  | flags {action : Action} {menu item : Nat} {found : Menu} {old : MenuItem} {flags : ItemFlags}
      (still : action.move? = none) (known : bar.menus[menu]? = some found)
      (there : found.items[item]? = some old)
      (kept : flags.contains .separator = old.flags.contains .separator) :
      Step bar action .changed
        (bar.setMenu menu { found with items := found.items.set item { old with flags } })
  | move {p : Point} {moved : MenuBar} (moves : bar.mouseMove p = .ok moved)
      (tracks : bar.Tracked moved) : Step bar (.mouseMove p) .done moved
  /-- Without a move no item gets highlighted. -/
  | track {action : Action} {answer : Answer} {tracked : MenuBar} (still : action.move? = none)
      (adds : action.item? = none) (ready : ∀ error, answer ≠ .refused error)
      (tracks : bar.Tracked tracked)
      (dark : tracked.tracking = bar.tracking ∨ tracked.highlighted? = none) :
      Step bar action answer tracked

/-! ## Bars with texts of moderate length -/

/-- The titles of a bar, from left to right, with nothing but their places. -/
structure Titled (titles : List Menu) : Prop where
  count : titles.length ≤ 8
  ordered : titles.Pairwise fun left right =>
    left.titleX.toInt + left.titleWidth.toInt + 8 ≤ right.titleX.toInt
  near : ∀ (index : Nat) title, titles[index]? = some title →
    10 ≤ title.titleX.toInt ∧ title.titleX.toInt ≤ 10 + 3016 * (index : Int)
  width : ∀ title ∈ titles, title.title.length ≤ 500 ∧
    title.titleWidth.toInt = 6 * title.title.length + 8

/-- What holds of a bar whose texts have at most 500 characters. -/
structure Built (bar : MenuBar) : Prop where
  titles : Titled (bar.menus.map Menu.bare)
  items : ∀ menu ∈ bar.menus, menu.items.length ≤ 16 ∧
    ∀ item ∈ menu.items, item.text.length ≤ 500
  tracks : bar.Tracks

variable {bar bar' : MenuBar} {action : Action} {answer : Answer} {actions : List Action}

namespace Titled

variable {titles : List Menu} (h : Titled titles)
include h

theorem titleX_le {title : Menu} (mem : title ∈ titles) :
    10 ≤ title.titleX.toInt ∧ title.titleX.toInt ≤ 21122 := by
  obtain ⟨index, inside, rfl⟩ := List.mem_iff_getElem.mp mem
  have near := h.near index _ (List.getElem?_eq_getElem inside)
  have count := h.count
  omega

/-- No title reaches past the end of the last one. -/
theorem end_le_of_getLast? {last : Menu} (known : titles.getLast? = some last) {title : Menu}
    (mem : title ∈ titles) : title.titleX.toInt + title.titleWidth.toInt ≤
      last.titleX.toInt + last.titleWidth.toInt := by
  obtain ⟨front, rfl⟩ := List.getLast?_eq_some_iff.mp known
  rcases List.mem_append.mp mem with before | same
  · have apart := (List.pairwise_append.mp h.ordered).2.2 title before last (by simp)
    have width := (h.width last (by simp)).2
    omega
  · simp at same
    simp [same]

theorem concat {added : Menu} (room : titles.length < 8) (short : added.title.length ≤ 500)
    (titleX : added.titleX.toInt = match titles.getLast? with
      | none => 10
      | some last => last.titleX.toInt + last.titleWidth.toInt + 8)
    (titleWidth : added.titleWidth.toInt = 6 * added.title.length + 8) :
    Titled (titles ++ [added]) := by
  -- where the title starts, seen from the titles before it
  have start : 10 ≤ added.titleX.toInt ∧ added.titleX.toInt ≤ 10 + 3016 * titles.length := by
    cases known : titles.getLast? with
    | none =>
      simp only [known] at titleX
      omega
    | some last =>
      simp only [known] at titleX
      obtain ⟨front, rfl⟩ := List.getLast?_eq_some_iff.mp known
      have near := h.near front.length last (by simp)
      have width := h.width last (by simp)
      rw [List.length_append, List.length_singleton]
      omega
  have apart : ∀ title ∈ titles,
      title.titleX.toInt + title.titleWidth.toInt + 8 ≤ added.titleX.toInt := by
    intro title mem
    cases known : titles.getLast? with
    | none => simp [List.getLast?_eq_none_iff.mp known] at mem
    | some last =>
      simp only [known] at titleX
      have := h.end_le_of_getLast? known mem
      omega
  refine ⟨?_, ?_, ?_, ?_⟩
  · rw [List.length_append, List.length_singleton]
    omega
  · refine List.pairwise_append.mpr ⟨h.ordered, List.pairwise_singleton _ _, ?_⟩
    intro title mem other same
    simp at same
    rw [same]
    exact apart title mem
  · intro index title known
    rw [List.getElem?_append] at known
    split at known
    · exact h.near index title known
    · rename_i past
      rw [List.getElem?_singleton] at known
      split at known
      · cases known
        omega
      · cases known
  · intro title mem
    rcases List.mem_append.mp mem with before | same
    · exact h.width title before
    · simp at same
      rw [same]
      exact ⟨short, titleWidth⟩

end Titled

theorem built_empty : Built empty := by
  refine ⟨⟨by decide, List.Pairwise.nil, ?_, ?_⟩, ?_, ?_⟩
  · simp [empty]
  · simp [empty]
  · simp [empty]
  · rintro tracking ⟨⟩

namespace Built

variable (h : bar.Built)
include h

theorem menu_fits {menu : Menu} (mem : menu ∈ bar.menus) : menu.Fits := by
  have mem' : menu.bare ∈ bar.menus.map Menu.bare := List.mem_map_of_mem mem
  have near := h.titles.titleX_le mem'
  have width := h.titles.width _ mem'
  dsimp only [Menu.bare] at near width
  obtain ⟨count, items⟩ := h.items menu mem
  exact ⟨⟨by omega, by omega⟩, ⟨by omega, by omega⟩, width.1, count, items⟩

theorem fits : bar.Fits :=
  ⟨fun _ => h.menu_fits, h.tracks⟩

/-- A menu is replaced by one with the same title, and with room for what is tracked. -/
theorem setMenu {index : Nat} {found menu : Menu} (known : bar.menus[index]? = some found)
    (same : menu.bare = found.bare) (grows : found.items.length ≤ menu.items.length)
    (count : menu.items.length ≤ 16) (short : ∀ item ∈ menu.items, item.text.length ≤ 500) :
    (bar.setMenu index menu).Built := by
  have titles : (bar.menus.set index menu).map Menu.bare = bar.menus.map Menu.bare := by
    obtain ⟨inside, rfl⟩ := List.getElem?_eq_some_iff.mp known
    rw [List.map_set, same, ← List.map_set, List.set_getElem_self]
  refine ⟨?_, ?_, ?_⟩
  · show Titled ((bar.menus.set index menu).map Menu.bare)
    rw [titles]
    exact h.titles
  · intro other mem
    rcases List.mem_or_eq_of_mem_set mem with before | rfl
    · exact h.items other before
    · exact ⟨count, short⟩
  · intro tracking opened
    obtain ⟨menu', known', inside⟩ := h.tracks tracking opened
    show ∃ menu', (bar.menus.set index menu)[tracking.menu]? = some menu' ∧ _
    rw [List.getElem?_set]
    split
    · rename_i here
      cases (here ▸ known).symm.trans known'
      have bound := (List.getElem?_eq_some_iff.mp known).1
      refine ⟨menu, if_pos bound, fun item lit => ?_⟩
      exact Nat.lt_of_lt_of_le (inside item lit) grows
    · exact ⟨menu', known', inside⟩

theorem addMenu {added : Menu} (room : bar.menus.length < 8) (next : bar.Next added) :
    Built { bar with menus := bar.menus ++ [added] } := by
  have bare : added.bare = added := by
    rw [Menu.bare, ← next.items]
  refine ⟨?_, ?_, ?_⟩
  · show Titled ((bar.menus ++ [added]).map Menu.bare)
    rw [List.map_append, List.map_singleton, bare]
    refine h.titles.concat (by simpa using room) next.short ?_ next.titleWidth
    rw [next.titleX, List.getLast?_map]
    cases bar.menus.getLast? <;> rfl
  · intro menu mem
    rcases List.mem_append.mp mem with before | same
    · exact h.items menu before
    · simp at same
      simp [same, next.items]
  · intro tracking opened
    obtain ⟨menu, known, inside⟩ := h.tracks tracking opened
    exact ⟨menu, by rw [List.getElem?_append_left (List.getElem?_eq_some_iff.mp known).1, known],
      inside⟩

theorem of_tracked (tracked : bar.Tracked bar') : bar'.Built :=
  ⟨tracked.menus ▸ h.titles, tracked.menus ▸ h.items, tracked.tracks⟩

/-- Every step keeps the invariant. -/
theorem step (step : bar.Step action answer bar') : bar'.Built := by
  cases step with
  | refused => exact h
  | menu room next => exact h.addMenu room next
  | item adds short known room =>
    have items := h.items _ (List.mem_of_getElem? known)
    refine h.setMenu known rfl (by simp) (by rw [List.length_append]; exact room) ?_
    simp only [List.mem_append, List.mem_singleton]
    rintro item (before | rfl)
    · exact items.2 item before
    · exact short
  | @flags _ _ _ _ old _ still known there kept =>
    have items := h.items _ (List.mem_of_getElem? known)
    have short := items.2 old (List.mem_of_getElem? there)
    refine h.setMenu known rfl (by simp) (by simpa using items.1) ?_
    intro item mem
    rcases List.mem_or_eq_of_mem_set mem with before | rfl
    · exact items.2 item before
    · exact short
  | move moves tracks => exact h.of_tracked tracks
  | track still adds ready tracks dark => exact h.of_tracked tracks

/-! ## Actions on these bars -/

theorem addMenu_yields {title : String} (short : title.length ≤ 500) :
    Yields (bar.addMenu title) fun result =>
      bar.Step (.addMenu title) (.ofAdding result.1) result.2 := by
  have padding : titlePadding.toInt = 8 := rfl
  have text := Layout.toInt_textWidth (Nat.le_trans short (by decide))
  -- the title comes after the last one
  have next : Yields bar.nextTitleX fun x => x.toInt = match bar.menus.getLast? with
      | none => 10
      | some last => last.titleX.toInt + last.titleWidth.toInt + 8 := by
    unfold nextTitleX
    cases known : bar.menus.getLast? with
    | none => exact .pure rfl
    | some last =>
      have fits := h.menu_fits (List.mem_of_getLast? known)
      have x := fits.titleX
      have width := fits.titleWidth
      refine (Coord.add_yields (by omega) (by omega)).bind ?_
      intro past eq
      refine (Coord.add_yields (by omega) (by omega)).mono ?_
      intro x eq'
      dsimp only
      omega
  unfold MenuBar.addMenu
  split
  · exact .pure (.refused rfl _)
  rename_i room
  refine next.bind fun x start => ?_
  refine (Coord.add_yields (by omega) (by omega)).bind ?_
  intro width eq
  refine .pure (.menu (Nat.lt_of_not_le room) ⟨short, start, ?_, rfl⟩)
  dsimp only
  omega

omit h in
theorem step_addItem {menu : Nat} {text : String} {command : UInt16} {flags : ItemFlags}
    (adds : action.item? = some (menu, ⟨text, flags, command⟩)) (still : action.move? = none)
    (short : text.length ≤ 500) :
    bar.Step action (.ofAdding (bar.addItem menu text command flags).1)
      (bar.addItem menu text command flags).2 := by
  unfold addItem
  split
  · exact .refused still _
  · rename_i found known
    split
    · exact .refused still _
    · rename_i room
      exact .item adds short known (Nat.lt_of_not_le room)

omit h in
theorem step_modifyFlags {menu item : Nat} {f : ItemFlags → ItemFlags}
    (still : action.move? = none)
    (kept : ∀ flags, (f flags).contains .separator = flags.contains .separator) :
    bar.Step action (.ofChanging (bar.modifyFlags menu item f).1)
      (bar.modifyFlags menu item f).2 := by
  unfold modifyFlags
  split
  · exact .refused still _
  · rename_i found known
    split
    · exact .refused still _
    · rename_i old there
      exact .flags still known there (kept old.flags)

theorem mouseDown_yields (p : Point) :
    Yields (bar.mouseDown p) fun result =>
      bar.Step (.mouseDown p) (.pressed result.1) result.2 := by
  obtain ⟨result, eq, tracks⟩ := h.fits.mouseDown_yields p
  refine ⟨result, eq, .track rfl rfl (by simp) tracks ?_⟩
  unfold mouseDown at eq
  split at eq
  · cases eq
    exact .inr rfl
  · obtain ⟨found, -, eq⟩ := Checked.bind_eq_ok_iff.mp eq
    cases found with
    | none =>
      cases eq
      exact .inl rfl
    | some menu =>
      cases eq
      exact .inr rfl

theorem mouseUp_yields :
    Yields bar.mouseUp fun result => bar.Step .mouseUp (.released result.1) result.2 := by
  obtain ⟨result, eq, tracks⟩ := h.fits.mouseUp_yields
  refine ⟨result, eq, .track rfl rfl (by simp) tracks ?_⟩
  unfold mouseUp at eq
  split at eq
  · cases eq
    exact .inl rfl
  · rename_i tracking opened
    split at eq
    · cases eq
      exact .inr rfl
    · obtain ⟨menu, -, eq⟩ := Checked.bind_eq_ok_iff.mp eq
      split at eq
      · cases eq
      · cases eq
        exact .inr rfl

/-- No action faults. -/
theorem run_yields (short : action.Short) :
    Yields (action.run bar) fun result => bar.Step action result.1 result.2 := by
  cases action with
  | addMenu title => exact (h.addMenu_yields short).bind fun _ stepped => .pure stepped
  | addItem menu text command flags => exact .pure (step_addItem rfl rfl short)
  | addSeparator menu => exact .pure (step_addItem rfl rfl (by decide))
  | setEnabled menu item enabled =>
    exact .pure (step_modifyFlags rfl fun _ => ItemFlags.contains_separator_set _ rfl rfl)
  | setChecked menu item checked =>
    exact .pure (step_modifyFlags rfl fun _ => ItemFlags.contains_separator_set _ rfl rfl)
  | mouseDown p => exact (h.mouseDown_yields p).bind fun _ stepped => .pure stepped
  | mouseMove p =>
    obtain ⟨moved, eq, tracks⟩ := h.fits.mouseMove_yields p
    refine Yields.bind ⟨moved, eq, rfl⟩ ?_
    rintro _ rfl
    exact .pure (.move eq tracks)
  | mouseUp => exact h.mouseUp_yields.bind fun _ stepped => .pure stepped
  | close => exact .pure (.track rfl rfl (by simp) ⟨rfl, bar.tracks_close⟩ (.inr rfl))

end Built

/-! ## Sequences of actions -/

theorem after_concat (actions : List Action) (action : Action) :
    after (actions ++ [action]) = (do
      let bar ← after actions
      let (_, bar) ← action.run bar
      return bar) := by
  rw [after, List.foldlM_append]
  simp only [List.foldlM_cons, List.foldlM_nil, bind_pure]
  rfl

/-- What holds at first, and of a bar with one more action if it holds without it, holds after any
actions. -/
theorem after_induction {P : List Action → MenuBar → Prop} (begins : P [] empty)
    (step : ∀ {actions bar action answer bar'}, after actions = .ok bar → bar.Built →
      action.run bar = .ok (answer, bar') → bar.Step action answer bar' → P actions bar →
      P (actions ++ [action]) bar')
    (short : ∀ action ∈ actions, action.Short) :
    Yields (after actions) fun bar => bar.Built ∧ P actions bar := by
  induction actions using List.reverseRecOn with
  | nil => exact .pure ⟨built_empty, begins⟩
  | append_singleton actions action ih =>
    simp only [List.mem_append, List.mem_singleton] at short
    obtain ⟨bar, before, built, holds⟩ := ih fun action mem => short action (.inl mem)
    obtain ⟨⟨answer, bar'⟩, ran, stepped⟩ := built.run_yields (short action (.inr rfl))
    refine ⟨bar', ?_, built.step stepped, step before built ran stepped holds⟩
    rw [after_concat, before]
    exact Checked.bind_eq_ok_iff.mpr ⟨bar, rfl, Checked.bind_eq_ok_iff.mpr ⟨_, ran, rfl⟩⟩

/-- The bar after any actions with texts of at most 500 characters. -/
theorem after_yields (short : ∀ action ∈ actions, action.Short) : Yields (after actions) Built :=
  (after_induction (P := fun _ _ => True) trivial (fun _ _ _ _ _ => trivial) short).mono
    fun _ => And.left

end MenuBar

end TwinDesk
