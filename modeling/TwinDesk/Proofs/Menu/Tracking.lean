import TwinDesk.Proofs.Menu.Built
import TwinDesk.Proofs.Menu.Rows

/-!
# Tracking a menu

What is tracked is a pair of indices, and the menus may change in the meantime: they grow at their
ends, and flags of items are changed. The indices stay good all the while, for a menu or an item
never goes away, nor does it get another place or another command.

* `MenuBar.stamp?` — what no action changes about an item.
* `MenuBar.Given`, `MenuBar.Recalls.given` — the commands that were given with the items.
* `MenuBar.LastMove`, `MenuBar.PointedAt` — what the pointer was last moved to.
* `MenuBar.Follows`, `MenuBar.after_follows` — what is highlighted, and what a release chooses.
-/

namespace TwinDesk

theorem MenuItem.isSelectable_iff {item : MenuItem} :
    item.isSelectable = true ↔
      item.isSeparator = false ∧ item.flags.contains .disabled = false := by
  simp [isSelectable]

/-- What no action changes about an item: its command, and whether it is a separator. -/
def MenuItem.stamp (item : MenuItem) : UInt16 × Bool :=
  (item.command, item.isSeparator)

namespace MenuBar

variable {bar bar' : MenuBar} {action : Action} {answer : Answer} {actions : List Action}
  {menu index : Nat} {item : MenuItem} {command : UInt16} {p : Point}

/-! ## Items keep their places -/

/-- The item at an index of the menu at an index. -/
def item? (bar : MenuBar) (menu index : Nat) : Option MenuItem :=
  bar.menus[menu]?.bind (·.items[index]?)

/-- The stamp of the item at an index of the menu at an index. -/
def stamp? (bar : MenuBar) (menu index : Nat) : Option (UInt16 × Bool) :=
  (bar.item? menu index).map MenuItem.stamp

theorem item?_of_menu {found : Menu} (known : bar.menus[menu]? = some found) :
    bar.item? menu index = found.items[index]? := by
  rw [item?, known, Option.bind_some]

/-- A changed menu has other items; the items of the other menus are what they were. -/
theorem item?_setMenu {place : Nat} {found changed : Menu}
    (known : bar.menus[place]? = some found) :
    (bar.setMenu place changed).item? menu index =
      if place = menu then changed.items[index]? else bar.item? menu index := by
  obtain ⟨inside, -⟩ := List.getElem?_eq_some_iff.mp known
  unfold item? MenuBar.setMenu
  rw [List.getElem?_set, if_pos inside]
  split <;> rfl

namespace Step

/-- An item that is added gets a place where there was none. -/
theorem item?_of_added (step : bar.Step action (.added index) bar')
    (adds : action.item? = some (menu, item)) :
    bar.item? menu index = none ∧ bar'.item? menu index = some item := by
  cases step with
  | menu room next => cases adds
  | item adds' short known room =>
    cases adds.symm.trans adds'
    rw [item?_setMenu known, if_pos rfl, item?_of_menu known]
    simp
  | track still adds' ready tracks dark => cases adds.symm.trans adds'

/-- Everywhere else the stamps stay. -/
theorem stamp?_eq (step : bar.Step action answer bar')
    (other : ∀ item, action.item? = some (menu, item) → answer ≠ .added index) :
    bar'.stamp? menu index = bar.stamp? menu index := by
  cases step with
  | refused still error => rfl
  | menu room next =>
    unfold stamp? item?
    rw [List.getElem?_append]
    split
    · rfl
    · rename_i past
      -- neither the new menu nor what is not there has an item
      rw [List.getElem?_eq_none (Nat.le_of_not_lt past), List.getElem?_singleton]
      split
      · rw [Option.bind_some, next.items]
        rfl
      · rfl
  | item adds short known room =>
    unfold stamp?
    rw [item?_setMenu known]
    split
    · rename_i here
      subst here
      have apart := other _ adds
      rw [item?_of_menu known, List.getElem?_append]
      grind
    · rfl
  | flags still known there kept =>
    unfold stamp?
    rw [item?_setMenu known]
    split
    · rename_i here
      subst here
      rw [item?_of_menu known, List.getElem?_set]
      split
      · rename_i here
        subst here
        rw [there, if_pos (List.getElem?_eq_some_iff.mp there).1]
        exact congrArg some (Prod.ext rfl kept)
      · rfl
    · rfl
  | move moves tracks =>
    unfold stamp? item?
    rw [tracks.menus]
  | track still adds ready tracks dark =>
    unfold stamp? item?
    rw [tracks.menus]

/-- What is refused changes nothing. -/
theorem eq_of_refused {error : DesktopError} (step : bar.Step action (.refused error) bar') :
    bar' = bar := by
  cases step with
  | refused still => rfl
  | track still adds ready tracks dark => exact absurd rfl (ready error)

/-- Without a move no item gets highlighted. -/
theorem dark (step : bar.Step action answer bar') (still : action.move? = none) :
    bar'.tracking = bar.tracking ∨ bar'.highlighted? = none := by
  cases step with
  | refused still error => exact .inl rfl
  | menu room next => exact .inl rfl
  | item adds short known room => exact .inl rfl
  | flags still known there kept => exact .inl rfl
  | move moves tracks => cases still
  | track still adds ready tracks dark => exact dark

end Step

/-! ## The past of a bar -/

/-- Among the actions is one with a certain answer. -/
def Answered (actions : List Action) (action : Action) (answer : Answer) : Prop :=
  ∃ earlier later bar bar', actions = earlier ++ action :: later ∧ after earlier = .ok bar ∧
    action.run bar = .ok (answer, bar')

/-- The item at an index of a menu was added with a command, and is no separator. -/
def Given (actions : List Action) (menu index : Nat) (command : UInt16) : Prop :=
  ∃ text flags, flags.contains .separator = false ∧
    Answered actions (.addItem menu text command flags) (.added index)

/-- The last move was to a point, and started from a bar. -/
def LastMove (actions : List Action) (bar : MenuBar) (p : Point) : Prop :=
  ∃ earlier later, actions = earlier ++ .mouseMove p :: later ∧ after earlier = .ok bar ∧
    ∀ action ∈ later, action.move? = none

/-- The last move was to the row of a selectable item, and its menu was open. -/
def PointedAt (actions : List Action) (menu index : Nat) : Prop :=
  ∃ bar p found, LastMove actions bar p ∧ bar.openMenu? = some menu ∧
    bar.menus[menu]? = some found ∧ ∀ other, (∃ item, found.Offers other item p) ↔ other = index

theorem answered_concat {action' : Action} {answer' : Answer} (before : after actions = .ok bar)
    (ran : action.run bar = .ok (answer, bar')) :
    Answered (actions ++ [action]) action' answer' ↔
      Answered actions action' answer' ∨ (action' = action ∧ answer' = answer) := by
  constructor
  · rintro ⟨earlier, later, start, next, split, before', ran'⟩
    -- it is the last action, or one before that
    rcases List.eq_nil_or_concat later with rfl | ⟨later, last, rfl⟩
    · obtain ⟨rfl, same⟩ := List.append_inj' split rfl
      cases same
      cases before.symm.trans before'
      cases ran.symm.trans ran'
      exact .inr ⟨rfl, rfl⟩
    · rw [List.concat_eq_append, ← List.cons_append, ← List.append_assoc] at split
      obtain ⟨rfl, -⟩ := List.append_inj' split rfl
      exact .inl ⟨earlier, later, start, next, rfl, before', ran'⟩
  · rintro (⟨earlier, later, start, next, rfl, before', ran'⟩ | ⟨rfl, rfl⟩)
    · exact ⟨earlier, later ++ [action], start, next, by simp, before', ran'⟩
    · exact ⟨actions, [], bar, bar', rfl, before, ran⟩

theorem PointedAt.concat (pointed : PointedAt actions menu index) (still : action.move? = none) :
    PointedAt (actions ++ [action]) menu index := by
  obtain ⟨bar, p, found, ⟨earlier, later, rfl, before, quiet⟩, opened⟩ := pointed
  refine ⟨bar, p, found, ⟨earlier, later ++ [action], by simp, before, ?_⟩, opened⟩
  simp only [List.mem_append, List.mem_singleton]
  rintro action (among | rfl)
  · exact quiet action among
  · exact still

theorem given_concat (before : after actions = .ok bar)
    (ran : action.run bar = .ok (answer, bar')) :
    Given (actions ++ [action]) menu index command ↔
      Given actions menu index command ∨ (answer = .added index ∧
        ∃ item, action.item? = some (menu, item) ∧ item.stamp = (command, false)) := by
  simp only [Given, answered_concat before ran]
  constructor
  · rintro ⟨text, flags, label, given | ⟨rfl, rfl⟩⟩
    · exact .inl ⟨text, flags, label, given⟩
    · exact .inr ⟨rfl, _, rfl, Prod.ext rfl label⟩
  · rintro (⟨text, flags, label, given⟩ | ⟨rfl, item, adds, stamp⟩)
    · exact ⟨text, flags, label, .inl given⟩
    · obtain ⟨rfl, label⟩ := Prod.mk.inj stamp
      cases action with
      | addItem menu text command flags =>
        cases adds
        exact ⟨text, flags, label, .inr ⟨rfl, rfl⟩⟩
      | addSeparator menu =>
        cases adds
        cases label
      | _ => cases adds

/-! ## What a bar tells about its past -/

/-- What a bar tells about the actions that led to it. -/
structure Recalls (actions : List Action) (bar : MenuBar) : Prop where
  given : ∀ menu index command, bar.stamp? menu index = some (command, false) ↔
    Given actions menu index command
  pointed : ∀ menu index, bar.openMenu? = some menu → bar.highlighted? = some index →
    PointedAt actions menu index

theorem recalls_empty : Recalls [] empty := by
  constructor
  · intro menu index command
    refine iff_of_false ?_ ?_
    · simp [stamp?, item?, empty]
    · rintro ⟨text, flags, -, earlier, later, -, -, split, -⟩
      simp at split
  · rintro menu index ⟨⟩

/-- A move below the bar leaves the same menu open. -/
theorem openMenu?_of_below (below : ¬p.y < Layout.menuBarHeight)
    (moved : bar.mouseMove p = .ok bar') : bar'.openMenu? = bar.openMenu? := by
  unfold mouseMove at moved
  split at moved
  · cases moved
    rfl
  · rename_i tracking opened
    rw [if_neg below] at moved
    obtain ⟨menu, -, moved⟩ := Checked.bind_eq_ok_iff.mp moved
    obtain ⟨item, -, moved⟩ := Checked.bind_eq_ok_iff.mp moved
    cases moved
    rw [openMenu?, openMenu?, opened]
    rfl

/-- What a move highlights is what it points at. -/
theorem pointedAt_of_move (before : after actions = .ok bar) (built : bar.Built)
    (moved : bar.mouseMove p = .ok bar') (tracks : bar.Tracked bar')
    (opened : bar'.openMenu? = some menu) (lit : bar'.highlighted? = some index) :
    PointedAt (actions ++ [.mouseMove p]) menu index := by
  cases before' : bar.tracking with
  | none =>
    rw [mouseMove, before'] at moved
    cases moved
    rw [openMenu?, before'] at opened
    cases opened
  | some tracking =>
    have tracking : bar.isTracking = true := by rw [isTracking, before']; rfl
    have fits : bar'.Fits := (built.of_tracked tracks).fits
    have highlights := highlights_mouseMove tracking moved fits.dropdownArea_yields
    obtain ⟨tracking', opened', rfl⟩ := Option.map_eq_some_iff.mp opened
    obtain ⟨found, p', known, same, -, offered⟩ := highlights tracking' opened'
    cases same
    rw [highlighted?, opened', Option.bind_some] at lit
    obtain ⟨item, offers⟩ := (offered index).mp lit
    rw [tracks.menus] at known
    refine ⟨bar, p, found, ⟨actions, [], rfl, before, ?_⟩, ?_, known, fun other => ?_⟩
    · exact fun action none => absurd none List.not_mem_nil
    · rw [← openMenu?_of_below offers.1.below_bar moved]
      exact opened
    · rw [← offered other, lit, Option.some_inj, eq_comm]

/-- One more action is recalled as well. -/
theorem Recalls.concat (recalls : Recalls actions bar) (before : after actions = .ok bar)
    (built : bar.Built) (ran : action.run bar = .ok (answer, bar'))
    (step : bar.Step action answer bar') : Recalls (actions ++ [action]) bar' := by
  constructor
  · intro menu index command
    rw [given_concat before ran, ← recalls.given]
    -- either this very item is new, or nothing happens to its stamp
    by_cases added : answer = .added index ∧ ∃ item, action.item? = some (menu, item)
    · obtain ⟨rfl, item, adds⟩ := added
      obtain ⟨fresh, there⟩ := step.item?_of_added adds
      simp [stamp?, fresh, there, adds]
    · rw [step.stamp?_eq fun item adds same => added ⟨same, item, adds⟩]
      refine ⟨.inl, ?_⟩
      rintro (known | ⟨same, item, adds, -⟩)
      · exact known
      · exact absurd ⟨same, item, adds⟩ added
  · intro menu index opened lit
    cases moves : action.move? with
    | none =>
      -- what is highlighted now was so before
      rcases step.dark moves with same | dark
      · rw [openMenu?, same] at opened
        rw [highlighted?, same] at lit
        exact (recalls.pointed menu index opened lit).concat moves
      · rw [dark] at lit
        cases lit
    | some p =>
      cases step with
      | move moved tracks => exact pointedAt_of_move before built moved tracks opened lit
      | refused still | flags still | track still => cases still.symm.trans moves
      | menu => cases moves
      | item adds =>
        cases action with
        | mouseMove p => cases adds
        | _ => cases moves

/-! ## Tracking -/

/-- What a release does: it closes the menu, and chooses the highlighted item with the command that
was given with it, but neither a separator nor an item that is disabled now. -/
structure Releases (actions : List Action) (bar : MenuBar) (choice : Option MenuSelection)
    (released : MenuBar) : Prop where
  menus : released.menus = bar.menus
  closed : released.isTracking = false
  chosen : ∀ selection, choice = some selection ↔
    bar.openMenu? = some selection.menu ∧ bar.highlighted? = some selection.item ∧
    (∃ item, bar.item? selection.menu selection.item = some item ∧
      item.isSeparator = false ∧ item.flags.contains .disabled = false) ∧
    Given actions selection.menu selection.item selection.command

/-- What tracking promises of a bar after some actions. -/
structure Follows (actions : List Action) (bar : MenuBar) : Prop where
  /-- The open menu exists, and what is highlighted in it was pointed at by the last move. -/
  tracks : ∀ tracking ∈ bar.tracking, ∃ found, bar.menus[tracking.menu]? = some found ∧
    ∀ index ∈ tracking.item, index < found.items.length ∧ PointedAt actions tracking.menu index
  releases : Yields bar.mouseUp fun result => Releases actions bar result.1 result.2
  /-- No action faults, and what is refused changes nothing. -/
  refuses : ∀ action : Action, action.Short → Yields (action.run bar) fun result =>
    ∀ error, result.1 = .refused error → result.2 = bar

theorem Recalls.releases (recalls : Recalls actions bar) (built : bar.Built) :
    Yields bar.mouseUp fun result => Releases actions bar result.1 result.2 := by
  unfold mouseUp
  split
  · rename_i closed
    refine .pure ⟨rfl, by rw [isTracking, closed]; rfl, fun selection => iff_of_false ?_ ?_⟩
    · simp
    · rw [openMenu?, closed]
      simp
  rename_i tracking opened
  have openMenu : bar.openMenu? = some tracking.menu := by rw [openMenu?, opened]; rfl
  have highlighted : bar.highlighted? = tracking.item := by rw [highlighted?, opened]; rfl
  split
  · rename_i dark
    refine .pure ⟨rfl, rfl, fun selection => iff_of_false ?_ ?_⟩
    · simp
    · simp [highlighted, dark]
  rename_i index lit
  obtain ⟨found, known, inside⟩ := built.tracks tracking opened
  obtain ⟨item, there⟩ : ∃ item, found.items[index]? = some item :=
    ⟨_, List.getElem?_eq_getElem (inside index lit)⟩
  refine Yields.bind ⟨found, menuAt_eq_ok_iff.mpr known, rfl⟩ ?_
  rintro _ rfl
  rw [there]
  refine .pure ⟨rfl, rfl, ?_⟩
  rintro ⟨chosen, place, command⟩
  -- the command of the item is the one that was given with it
  have given (label : item.isSeparator = false) (command : UInt16) :
      item.command = command ↔ Given actions tracking.menu index command := by
    rw [← recalls.given, stamp?, item?_of_menu known, there]
    simp [MenuItem.stamp, label]
  rw [openMenu, highlighted, lit]
  constructor
  · intro same
    split at same
    · rename_i selectable
      cases same
      have able := MenuItem.isSelectable_iff.mp selectable
      refine ⟨rfl, rfl, ⟨item, ?_, able⟩, (given able.1 _).mp rfl⟩
      rw [item?_of_menu known, there]
    · cases same
  · rintro ⟨sameMenu, sameItem, ⟨item', there', able⟩, command⟩
    obtain rfl : tracking.menu = chosen := Option.some.inj sameMenu
    obtain rfl : index = place := Option.some.inj sameItem
    rw [item?_of_menu known, there] at there'
    cases there'
    rw [if_pos (MenuItem.isSelectable_iff.mpr able), (given able.1 _).mpr command]

/-- However a bar is used, tracking it never faults and always fits what it has. -/
theorem after_follows (short : ∀ action ∈ actions, action.Short) :
    Yields (after actions) (Follows actions) := by
  refine (after_induction recalls_empty ?_ short).mono fun bar ⟨built, recalls⟩ => ⟨?_, ?_, ?_⟩
  · intro actions bar action answer bar' before built ran step recalls
    exact recalls.concat before built ran step
  · intro tracking opened
    obtain ⟨found, known, inside⟩ := built.tracks tracking opened
    refine ⟨found, known, fun index lit => ⟨inside index lit, recalls.pointed _ _ ?_ ?_⟩⟩
    · rw [openMenu?, opened]
      rfl
    · rw [highlighted?, opened]
      exact lit
  · exact recalls.releases built
  · intro action short
    refine (built.run_yields short).mono fun result step error refused => ?_
    rw [refused] at step
    exact step.eq_of_refused

/-- Between the move and the release the menu grows, and what is highlighted gets a check mark. -/
theorem after_follows_open_menu :
    let actions := [.addMenu "File", .addItem 0 "New" 257 .none, .mouseDown ⟨20, 5⟩,
      .mouseMove ⟨30, 25⟩, .addSeparator 0, .setChecked 0 0 true, .addMenu "Edit"]
    (∀ action ∈ actions, action.Short) ∧ Yields (after actions) fun bar =>
      Follows actions bar ∧ bar.highlighted? = some 0 := by
  intro actions
  have short : ∀ action ∈ actions, action.Short := by decide
  obtain ⟨bar, eq, follows⟩ := after_follows short
  refine ⟨short, bar, eq, follows, ?_⟩
  cases eq
  rfl

end MenuBar

end TwinDesk
