import TwinDesk.Proofs.Window.Coverage
import TwinDesk.Proofs.Window.Order
import TwinDesk.Proofs.Window.Sound

/-!
# What a pixel shows of the windows

The layers of a pixel are the visible windows whose frames contain it, from the back to the front;
of each of them only so much counts as the pixel can tell. Every operation of the pool reports what
it does to the layers: a pixel that is not damaged afterwards has the layers that it had before.

* `Pool.layers` — the layers of a pixel.
* `Pool.Edit` — the operations, as data.
* `Pool.Edit.spared` — each of them reports enough.
-/

namespace TwinDesk

variable {P : Type} {contents : SlotTable (Option P)} {p : Point}

/-! ## Layers -/

namespace Window

variable {window : Window}

/-- The window as far as one pixel can tell: the title counts in the title bar only. -/
def seenAt (window : Window) (p : Point) : Window :=
  if window.titleBar.contains p then window else { window with title := .ofText "" }

/-- The window as a layer of a pixel, with its content where that reaches the pixel. -/
def layer (contents : SlotTable (Option P)) (p : Point) (window : Window) :
    Option (Window × Option P) :=
  if window.isVisible && window.frame.contains p then
    some (window.seenAt p,
      if window.content.contains p then window.id.slot?.bind contents.get else none)
  else
    none

theorem layer_of_outside (outside : window.frame.contains p = false) :
    window.layer contents p = none := by
  rw [layer, outside, Bool.and_false]
  rfl

theorem layer_of_hidden (hidden : window.isVisible = false) : window.layer contents p = none := by
  rw [layer, hidden]
  rfl

theorem layer_eq_none_iff : window.layer contents p = none ↔
    (window.isVisible && window.frame.contains p) = false := by
  unfold layer
  cases window.isVisible && window.frame.contains p <;> simp

/-- The title shows in the title bar only. -/
theorem layer_withTitle (outside : window.titleBar.contains p = false) (title : Title) :
    { window with title }.layer contents p = window.layer contents p := by
  have seen : { window with title }.seenAt p = window.seenAt p := by
    unfold seenAt
    rw [outside]
    exact if_neg fun inside => Bool.false_ne_true (outside.symm.trans inside)
  unfold layer
  rw [seen]
  rfl

end Window

namespace WindowFlags

/-- Whether a window is highlighted has nothing to do with whether it is visible. -/
theorem visible_insert_highlighted (flags : WindowFlags) :
    (flags.insert .highlighted).contains .visible = flags.contains .visible := by
  obtain ⟨⟨bits⟩⟩ := flags
  revert bits
  decide

end WindowFlags

namespace Pool

variable {pool pool' : Pool} {slot : Slot} {window : Window}

/-- The layers of a pixel, from the back to the front. -/
def layers (pool : Pool) (contents : SlotTable (Option P)) (p : Point) :
    List (Window × Option P) :=
  pool.backToFront.filterMap (Window.layer contents p)

/-- The window in a slot as a layer of a pixel. -/
def layerAt (pool : Pool) (contents : SlotTable (Option P)) (p : Point) (slot : Slot) :
    Option (Window × Option P) :=
  (pool.slots.get slot).bind (Window.layer contents p)

theorem layers_eq : pool.layers contents p =
    pool.order.backToFront.filterMap (pool.layerAt contents p) := by
  rw [layers, backToFront, List.filterMap_filterMap]
  rfl

theorem layerAt_of_outside (known : pool.slots.get slot = some window)
    (outside : window.frame.contains p = false) : pool.layerAt contents p slot = none := by
  rw [layerAt, known]
  exact Window.layer_of_outside outside

/-- The layers depend on the windows and their order. -/
theorem layers_congr (order : pool'.order = pool.order)
    (same : ∀ slot, pool'.layerAt contents p slot = pool.layerAt contents p slot) :
    pool'.layers contents p = pool.layers contents p := by
  have same : pool'.layerAt contents p = pool.layerAt contents p := funext same
  rw [layers_eq, layers_eq, order, same]

/-- Contents count where they reach the pixel. -/
theorem layers_contents (sound : pool.Sound) {contents' : SlotTable (Option P)}
    (same : ∀ slot window, pool.slots.get slot = some window → window.frame.contains p = true →
      window.content.contains p = true → contents'.get slot = contents.get slot) :
    pool.layers contents' p = pool.layers contents p := by
  have agree : pool.layerAt contents' p = pool.layerAt contents p := by
    funext slot
    unfold layerAt
    cases known : pool.slots.get slot with
    | none => rfl
    | some window =>
      show window.layer contents' p = window.layer contents p
      have named : window.id.slot? = some slot := by
        rw [(sound slot window known).2]
        exact Slot.slot?_id slot
      unfold Window.layer
      rw [named]
      by_cases inside : window.content.contains p = true
      · by_cases reached : window.frame.contains p = true
        · rw [Option.bind_some, Option.bind_some, same slot window known reached inside]
        · rw [Bool.eq_false_iff.mpr reached, Bool.and_false]
          rfl
      · rw [if_neg inside, if_neg inside]
  rw [layers_eq, layers_eq, agree]

/-! ### A window in a slot is replaced -/

theorem layerAt_set_of_ne {value : Option Window} {other : Slot} (ne : other ≠ slot) :
    { pool with slots := pool.slots.set slot value }.layerAt contents p other =
      pool.layerAt contents p other := by
  unfold layerAt
  dsimp only
  rw [SlotTable.get_set_of_ne _ _ ne]

theorem layerAt_set_self {value : Option Window} :
    { pool with slots := pool.slots.set slot value }.layerAt contents p slot =
      value.bind (Window.layer contents p) := by
  unfold layerAt
  dsimp only
  rw [SlotTable.get_set_self]

theorem layers_set {value : Option Window}
    (same : value.bind (Window.layer contents p) = pool.layerAt contents p slot) :
    { pool with slots := pool.slots.set slot value }.layers contents p =
      pool.layers contents p := by
  refine layers_congr rfl ?_
  intro other
  by_cases ne : other = slot
  · rw [ne, layerAt_set_self, same]
  · exact layerAt_set_of_ne ne

theorem layers_modify {f : Window → Window}
    (same : ∀ window, pool.slots.get slot = some window →
      (f window).layer contents p = window.layer contents p) :
    (pool.modify slot f).layers contents p = pool.layers contents p := by
  apply layers_set
  rw [layerAt]
  cases known : pool.slots.get slot with
  | none => rfl
  | some window => exact same window known

/-- Outside of a window, only what keeps its frame may happen to it. -/
theorem layers_modify_of_outside (known : pool.slots.get slot = some window)
    (outside : window.frame.contains p = false) {f : Window → Window}
    (frame : (f window).frame = window.frame) :
    (pool.modify slot f).layers contents p = pool.layers contents p := by
  apply layers_modify
  intro other known'
  obtain rfl := Option.some.inj (known.symm.trans known')
  rw [Window.layer_of_outside outside]
  exact Window.layer_of_outside (frame ▸ outside)

/-! ### A slot without a layer moves -/

theorem layers_pushTop (wf : pool.order.WellFormed)
    (unseen : pool.layerAt contents p slot = none) :
    { pool with order := pool.order.pushTop slot }.layers contents p =
      pool.layers contents p := by
  rw [layers_eq, layers_eq]
  exact wf.seen_pushTop unseen

theorem layers_pushBottom (wf : pool.order.WellFormed)
    (unseen : pool.layerAt contents p slot = none) :
    { pool with order := pool.order.pushBottom slot }.layers contents p =
      pool.layers contents p := by
  rw [layers_eq, layers_eq]
  exact wf.seen_pushBottom unseen

theorem layers_unlink (wf : pool.order.WellFormed)
    (unseen : pool.layerAt contents p slot = none) :
    { pool with order := pool.order.unlink slot }.layers contents p = pool.layers contents p := by
  rw [layers_eq, layers_eq]
  exact wf.seen_unlink unseen

/-- A slot without a layer is emptied. -/
theorem layers_close (wf : pool.order.WellFormed)
    (unseen : pool.layerAt contents p slot = none) :
    { pool with order := pool.order.unlink slot, slots := pool.slots.set slot none }.layers
      contents p = pool.layers contents p := by
  let unlinked : Pool := { pool with order := pool.order.unlink slot }
  have emptied : { unlinked with slots := unlinked.slots.set slot none }.layers contents p =
      unlinked.layers contents p := layers_set unseen.symm
  exact emptied.trans (layers_unlink wf unseen)

/-! ### Damage -/

@[simp] theorem layerAt_invalidate (rect : Rect) :
    (pool.invalidate rect).layerAt contents p slot = pool.layerAt contents p slot := by
  rw [layerAt, layerAt, slots_invalidate]

@[simp] theorem layers_invalidate (rect : Rect) :
    (pool.invalidate rect).layers contents p = pool.layers contents p :=
  layers_congr (order_invalidate rect) fun _ => layerAt_invalidate rect

@[simp] theorem layers_invalidateSlot :
    (pool.invalidateSlot slot).layers contents p = pool.layers contents p := by
  unfold invalidateSlot
  split
  · exact layers_invalidate _
  · rfl

theorem invalidateSlot_eq (known : pool.slots.get slot = some window) :
    pool.invalidateSlot slot = pool.invalidate window.frame := by
  rw [invalidateSlot, known]

theorem clean_invalidate {rect : Rect} (visible : Layout.screen.contains p = true)
    (clean : (pool.invalidate rect).damage.covers p = false) :
    pool.damage.covers p = false ∧ rect.contains p = false := by
  rw [damage_invalidate] at clean
  exact Damage.not_covers_invalidate visible clean

/-- If a pixel is not damaged afterwards, it was not before, and it has the same layers. -/
def Spared (contents : SlotTable (Option P)) (p : Point) (pool pool' : Pool) : Prop :=
  pool'.damage.covers p = false →
    pool.damage.covers p = false ∧ pool'.layers contents p = pool.layers contents p

theorem Spared.rfl : Spared contents p pool pool :=
  fun clean => ⟨clean, by rfl⟩

theorem Spared.trans {pool'' : Pool} (first : Spared contents p pool pool')
    (second : Spared contents p pool' pool'') : Spared contents p pool pool'' := by
  intro clean
  obtain ⟨clean', same'⟩ := second clean
  obtain ⟨clean, same⟩ := first clean'
  exact ⟨clean, same'.trans same⟩

/-- A change inside of a rectangle that is reported. -/
theorem spared_of_reported {rect : Rect} (visible : Layout.screen.contains p = true)
    (damage : pool'.damage = pool.damage)
    (same : rect.contains p = false → pool'.layers contents p = pool.layers contents p) :
    Spared contents p pool (pool'.invalidate rect) := by
  intro clean
  obtain ⟨clean, outside⟩ := clean_invalidate visible clean
  rw [damage] at clean
  rw [layers_invalidate]
  exact ⟨clean, same outside⟩

theorem spared_invalidate (visible : Layout.screen.contains p = true) (rect : Rect) :
    Spared contents p pool (pool.invalidate rect) :=
  spared_of_reported visible (by rfl) fun _ => by rfl

/-- A window changes within its frame, which is reported. -/
theorem spared_modify (visible : Layout.screen.contains p = true)
    (known : pool.slots.get slot = some window) {f : Window → Window}
    (frame : (f window).frame = window.frame) :
    Spared contents p pool ((pool.modify slot f).invalidate window.frame) :=
  spared_of_reported visible (by rfl) fun outside => layers_modify_of_outside known outside frame

theorem get_modify_self (f : Window → Window) :
    (pool.modify slot f).slots.get slot = (pool.slots.get slot).map f :=
  SlotTable.get_set_self _ _ _

/-- Like `spared_modify`, with the report as the operations make it. -/
theorem spared_modify_invalidateSlot (visible : Layout.screen.contains p = true)
    {f : Window → Window} (frame : ∀ window, (f window).frame = window.frame) :
    Spared contents p pool ((pool.modify slot f).invalidateSlot slot) := by
  cases known : pool.slots.get slot with
  | none =>
    have gone : (pool.modify slot f).slots.get slot = none := by
      rw [get_modify_self, known]
      rfl
    rw [invalidateSlot, gone]
    intro clean
    refine ⟨clean, layers_modify fun window known' => ?_⟩
    rw [known] at known'
    cases known'
  | some window =>
    have changed : (pool.modify slot f).slots.get slot = some (f window) := by
      rw [get_modify_self, known]
      rfl
    rw [invalidateSlot_eq changed, frame]
    exact spared_modify visible known (frame window)

/-! ### Activity -/

theorem spared_deactivateOthers (visible : Layout.screen.contains p = true) :
    Spared contents p pool (pool.deactivateOthers slot) := by
  unfold deactivateOthers
  split
  · split
    · exact .rfl
    · exact spared_modify_invalidateSlot visible fun _ => by rfl
  · exact .rfl

theorem get_deactivateOthers :
    (pool.deactivateOthers slot).slots.get slot = pool.slots.get slot := by
  unfold deactivateOthers
  split
  · split
    · rfl
    · rename_i old _ ne
      rw [slots_invalidateSlot]
      exact SlotTable.get_set_of_ne _ _ (Ne.symm ne)
  · rfl

/-- The window that becomes active stays where it is. -/
theorem get_activate (known : pool.slots.get slot = some window) :
    (pool.activate slot).slots.get slot =
      some { window with flags := window.flags.insert .highlighted } := by
  apply (get_modify_self _).trans
  show ((pool.deactivateOthers slot).slots.get slot).map _ = _
  rw [get_deactivateOthers, known]
  rfl

/-- A window without a layer is made the active one. -/
theorem spared_activate (visible : Layout.screen.contains p = true)
    (unseen : pool.layerAt contents p slot = none) :
    Spared contents p pool (pool.activate slot) := by
  have others : Spared contents p pool (pool.deactivateOthers slot) :=
    spared_deactivateOthers visible
  refine others.trans fun clean => ⟨clean, ?_⟩
  apply layers_modify
  intro window known
  have known : (pool.deactivateOthers slot).slots.get slot = some window := known
  rw [get_deactivateOthers] at known
  rw [layerAt, known] at unseen
  have hidden := Window.layer_eq_none_iff.mp unseen
  refine (Window.layer_eq_none_iff.mpr ?_).trans unseen.symm
  rw [← hidden, Window.isVisible, WindowFlags.visible_insert_highlighted]
  rfl

/-- A window is made the active one and reported. -/
theorem outside_of_activate (visible : Layout.screen.contains p = true)
    (known : pool.slots.get slot = some window)
    (clean : ((pool.activate slot).invalidateSlot slot).damage.covers p = false) :
    window.frame.contains p = false ∧ pool.damage.covers p = false ∧
      ((pool.activate slot).invalidateSlot slot).layers contents p = pool.layers contents p := by
  rw [invalidateSlot_eq (get_activate known)] at clean
  obtain ⟨clean, outside⟩ := clean_invalidate visible clean
  obtain ⟨clean, same⟩ := spared_activate visible (layerAt_of_outside known outside) clean
  refine ⟨outside, clean, ?_⟩
  rw [layers_invalidateSlot, same]

/-! ## The operations -/

variable (visible : Layout.screen.contains p = true)
include visible

theorem spared_select (wf : pool.order.WellFormed) (id : WindowId) :
    Spared contents p pool (pool.select id).2 := by
  unfold select
  split
  · exact .rfl
  · rename_i slot window found
    have known := (find?_eq_some_iff.mp found).2
    split
    · exact .rfl
    · intro clean
      have raised : { pool with order := pool.order.pushTop slot }.slots.get slot = some window :=
        known
      obtain ⟨outside, clean, same⟩ := outside_of_activate visible raised clean
      exact ⟨clean, same.trans (layers_pushTop wf (layerAt_of_outside known outside))⟩

theorem spared_sendToBack (wf : pool.order.WellFormed) (id : WindowId) :
    Spared contents p pool (pool.sendToBack id).2 := by
  unfold sendToBack
  split
  · exact .rfl
  · rename_i slot window found
    have known := (find?_eq_some_iff.mp found).2
    split
    · exact .rfl
    · have lowered : { pool with order := pool.order.pushBottom slot }.slots.get slot =
          some window := known
      rw [invalidateSlot_eq lowered]
      apply spared_of_reported visible (by rfl)
      intro outside
      exact layers_pushBottom wf (layerAt_of_outside known outside)

/-- A window comes into a free slot, and to the front. -/
theorem spared_allocate (wf : pool.order.WellFormed) (frame : Rect) (title : String)
    (style : WindowStyle) (flags : WindowFlags) :
    Spared contents p pool (pool.allocate frame title style flags).2 := by
  unfold allocate
  split
  · exact .rfl
  · rename_i slot found
    dsimp only
    generalize Window.create slot.id frame title style flags = window
    have vacant : pool.slots.get slot = none := by simpa using List.find?_some found
    let filled : Pool := { pool with slots := pool.slots.set slot (some window) }
    let opened : Pool := { filled with order := pool.order.pushTop slot }
    have known : opened.slots.get slot = some window := SlotTable.get_set_self _ _ _
    -- without a layer of its own, the new window changes nothing
    have same (unseen : window.layer contents p = none) :
        opened.layers contents p = pool.layers contents p := by
      have unseen' : filled.layerAt contents p slot = none := layerAt_set_self.trans unseen
      have moved : opened.layers contents p = filled.layers contents p :=
        layers_pushTop wf unseen'
      refine moved.trans (layers_set ?_)
      rw [layerAt, vacant]
      exact unseen
    split
    · intro clean
      obtain ⟨outside, clean, activated⟩ := outside_of_activate visible known clean
      exact ⟨clean, activated.trans (same (Window.layer_of_outside outside))⟩
    · rename_i hidden
      have unseen : window.layer contents p = none :=
        Window.layer_of_hidden (Bool.eq_false_iff.mpr hidden)
      have unseen' : opened.layerAt contents p slot = none := by
        rw [layerAt, known]
        exact unseen
      intro clean
      obtain ⟨clean, activated⟩ := spared_activate visible unseen' clean
      exact ⟨clean, activated.trans (same unseen)⟩

/-- A window goes, and where it was active, the one in front becomes active. -/
theorem spared_free (wf : pool.order.WellFormed) (id : WindowId) :
    Spared contents p pool (pool.free id).2 := by
  unfold free
  split
  · exact .rfl
  · rename_i slot window found
    have known := (find?_eq_some_iff.mp found).2
    dsimp only
    have marking : Spared contents p pool (pool.invalidate window.frame) :=
      spared_invalidate visible _
    -- where marking has left the screen clean, the window shows nothing, so nothing is missed
    have unseen (clean : (pool.invalidate window.frame).damage.covers p = false) :
        (pool.invalidate window.frame).layerAt contents p slot = none := by
      rw [layerAt_invalidate]
      exact layerAt_of_outside known (clean_invalidate visible clean).2
    have wf : (pool.invalidate window.frame).order.WellFormed := by
      rw [order_invalidate]
      exact wf
    generalize pool.invalidate window.frame = marked at marking unseen wf ⊢
    let closed : Pool := { marked with
      order := marked.order.unlink slot
      slots := marked.slots.set slot none }
    have gone : Spared contents p pool closed := by
      refine marking.trans fun clean => ⟨clean, ?_⟩
      exact layers_close wf (unseen clean)
    split
    · split
      · apply Spared.trans gone
        exact spared_modify_invalidateSlot visible fun _ => by rfl
      · exact gone
    · exact gone

omit visible in
/-- The slot of a closed window is empty. -/
theorem get_free {id : WindowId} (named : id.slot? = some slot)
    (freed : pool.free id = (.ok (), pool')) : pool'.slots.get slot = none := by
  have emptied {pool : Pool} (gone : pool.slots.get slot = none) (next : Slot)
      (f : Window → Window) : (pool.modify next f).slots.get slot = none := by
    by_cases same : slot = next
    · rw [← same, get_modify_self, gone]
      rfl
    · exact (SlotTable.get_set_of_ne _ _ same).trans gone
  unfold free at freed
  split at freed
  · cases freed
  · rename_i found window known
    obtain rfl := Option.some.inj (named.symm.trans (find?_eq_some_iff.mp known).1)
    dsimp only at freed
    split at freed
    · split at freed
      · cases freed
        rw [slots_invalidateSlot]
        exact emptied (SlotTable.get_set_self _ _ _) _ _
      · cases freed
        exact SlotTable.get_set_self _ _ _
    · cases freed
      exact SlotTable.get_set_self _ _ _

theorem spared_reveal (id : WindowId) : Spared contents p pool (pool.reveal id).2 := by
  unfold reveal
  split
  · exact .rfl
  · rename_i slot window found
    have known := (find?_eq_some_iff.mp found).2
    split
    · exact .rfl
    · refine spared_modify visible known (f := fun window => { window with flags := _ }) ?_
      rfl

theorem spared_hide (id : WindowId) : Spared contents p pool (pool.hide id).2 := by
  unfold hide
  split
  · exact .rfl
  · rename_i slot window found
    have known := (find?_eq_some_iff.mp found).2
    split
    · refine spared_modify visible known (f := fun window => { window with flags := _ }) ?_
      rfl
    · exact .rfl

/-- Both the old and the new frame are reported. -/
theorem spared_reframe (id : WindowId) (frame : Rect → Rect) :
    Spared contents p pool (pool.reframe id frame).2 := by
  unfold reframe
  split
  · exact .rfl
  · rename_i slot window found
    have known := (find?_eq_some_iff.mp found).2
    dsimp only
    generalize window.withFrame (frame window.frame) = moved
    intro clean
    obtain ⟨clean, outside'⟩ := clean_invalidate visible clean
    obtain ⟨clean, outside⟩ := clean_invalidate visible clean
    rw [layers_invalidate, layers_invalidate]
    refine ⟨clean, layers_modify fun window' known' => ?_⟩
    obtain rfl := Option.some.inj (known.symm.trans known')
    rw [Window.layer_of_outside outside, Window.layer_of_outside outside']

theorem spared_setTitle (id : WindowId) (title : String) :
    Spared contents p pool (pool.setTitle id title).2 := by
  unfold setTitle
  split
  · exact .rfl
  · rename_i slot window found
    have known := (find?_eq_some_iff.mp found).2
    refine spared_of_reported visible ?_ fun outside => layers_modify fun window' known' => ?_
    · rfl
    obtain rfl := Option.some.inj (known.symm.trans known')
    exact Window.layer_withTitle outside _

theorem spared_invalidateWindow (id : WindowId) :
    Spared contents p pool (pool.invalidateWindow id).2 := by
  unfold invalidateWindow
  split
  · exact .rfl
  · exact spared_invalidate visible _

omit visible

/-! ## The operations as data -/

/-- An operation of the pool that reports its damage. -/
inductive Edit where
  | allocate (frame : Rect) (title : String) (style : WindowStyle) (flags : WindowFlags)
  | free (id : WindowId)
  | select (id : WindowId)
  | sendToBack (id : WindowId)
  | reveal (id : WindowId)
  | hide (id : WindowId)
  | moveTo (id : WindowId) (x y : Coord)
  | resize (id : WindowId) (width height : Coord)
  | setTitle (id : WindowId) (title : String)
  | invalidate (rect : Rect)
  | invalidateWindow (id : WindowId)

/-- The pool after an operation, whatever it answers. -/
def Edit.run (pool : Pool) : Edit → Pool
  | allocate frame title style flags => (pool.allocate frame title style flags).2
  | free id => (pool.free id).2
  | select id => (pool.select id).2
  | sendToBack id => (pool.sendToBack id).2
  | reveal id => (pool.reveal id).2
  | hide id => (pool.hide id).2
  | moveTo id x y => (pool.moveTo id x y).2
  | resize id width height => (pool.resize id width height).2
  | setTitle id title => (pool.setTitle id title).2
  | invalidate rect => pool.invalidate rect
  | invalidateWindow id => (pool.invalidateWindow id).2

/-- Every operation reports what it does to the layers of a pixel on the screen. -/
theorem Edit.spared (edit : Edit) (visible : Layout.screen.contains p = true)
    (wf : pool.order.WellFormed) : Spared contents p pool (edit.run pool) := by
  cases edit with
  | allocate frame title style flags => exact spared_allocate visible wf frame title style flags
  | free id => exact spared_free visible wf id
  | select id => exact spared_select visible wf id
  | sendToBack id => exact spared_sendToBack visible wf id
  | reveal id => exact spared_reveal visible id
  | hide id => exact spared_hide visible id
  | moveTo id x y => exact spared_reframe visible id _
  | resize id width height => exact spared_reframe visible id _
  | setTitle id title => exact spared_setTitle visible id title
  | invalidate rect => exact spared_invalidate visible rect
  | invalidateWindow id => exact spared_invalidateWindow visible id

/-! ### Invariants -/

theorem order_deactivateOthers : (pool.deactivateOthers slot).order = pool.order := by
  unfold deactivateOthers
  split
  · split
    · rfl
    · exact order_invalidateSlot
  · rfl

theorem order_activate : (pool.activate slot).order = pool.order :=
  order_deactivateOthers

theorem wellFormed_invalidate (wf : pool.order.WellFormed) (rect : Rect) :
    (pool.invalidate rect).order.WellFormed := by
  rw [order_invalidate]
  exact wf

theorem wellFormed_invalidateSlot (wf : pool.order.WellFormed) :
    (pool.invalidateSlot slot).order.WellFormed := by
  rw [order_invalidateSlot]
  exact wf

theorem wellFormed_activate (wf : pool.order.WellFormed) :
    (pool.activate slot).order.WellFormed := by
  rw [order_activate]
  exact wf

theorem wellFormed_allocate (wf : pool.order.WellFormed) (frame : Rect) (title : String)
    (style : WindowStyle) (flags : WindowFlags) :
    (pool.allocate frame title style flags).2.order.WellFormed := by
  unfold allocate
  split
  · exact wf
  · rename_i slot _
    dsimp only
    generalize Window.create slot.id frame title style flags = window
    have opened : { pool with
        slots := pool.slots.set slot (some window)
        order := pool.order.pushTop slot }.order.WellFormed := wf.pushTop slot
    split
    · exact wellFormed_invalidateSlot (wellFormed_activate opened)
    · exact wellFormed_activate opened

theorem wellFormed_free (wf : pool.order.WellFormed) (id : WindowId) :
    (pool.free id).2.order.WellFormed := by
  unfold free
  split
  · exact wf
  · rename_i slot window _
    have marked := wellFormed_invalidate wf window.frame
    dsimp only
    generalize pool.invalidate window.frame = pool at marked ⊢
    have unlinked := marked.unlink slot
    split
    · split
      · exact wellFormed_invalidateSlot unlinked
      · exact unlinked
    · exact unlinked

theorem wellFormed_select (wf : pool.order.WellFormed) (id : WindowId) :
    (pool.select id).2.order.WellFormed := by
  unfold select
  split
  · exact wf
  · rename_i slot _ _
    split
    · exact wf
    · have raised : { pool with order := pool.order.pushTop slot }.order.WellFormed :=
        wf.pushTop slot
      exact wellFormed_invalidateSlot (wellFormed_activate raised)

theorem wellFormed_sendToBack (wf : pool.order.WellFormed) (id : WindowId) :
    (pool.sendToBack id).2.order.WellFormed := by
  unfold sendToBack
  split
  · exact wf
  · rename_i slot _ _
    split
    · exact wf
    · have lowered : { pool with order := pool.order.pushBottom slot }.order.WellFormed :=
        wf.pushBottom slot
      exact wellFormed_invalidateSlot lowered

/-- Windows that stay where they are in the order. -/
theorem wellFormed_modify (wf : pool.order.WellFormed) (f : Window → Window) :
    (pool.modify slot f).order.WellFormed :=
  wf

theorem wellFormed_reveal (wf : pool.order.WellFormed) (id : WindowId) :
    (pool.reveal id).2.order.WellFormed := by
  unfold reveal
  split
  · exact wf
  · split
    · exact wf
    · exact wellFormed_invalidate (wellFormed_modify wf _) _

theorem wellFormed_hide (wf : pool.order.WellFormed) (id : WindowId) :
    (pool.hide id).2.order.WellFormed := by
  unfold hide
  split
  · exact wf
  · split
    · exact wellFormed_invalidate (wellFormed_modify wf _) _
    · exact wf

theorem wellFormed_reframe (wf : pool.order.WellFormed) (id : WindowId) (frame : Rect → Rect) :
    (pool.reframe id frame).2.order.WellFormed := by
  unfold reframe
  split
  · exact wf
  · exact wellFormed_invalidate (wellFormed_invalidate (wellFormed_modify wf _) _) _

theorem wellFormed_setTitle (wf : pool.order.WellFormed) (id : WindowId) (title : String) :
    (pool.setTitle id title).2.order.WellFormed := by
  unfold setTitle
  split
  · exact wf
  · exact wellFormed_invalidate (wellFormed_modify wf _) _

theorem wellFormed_invalidateWindow (wf : pool.order.WellFormed) (id : WindowId) :
    (pool.invalidateWindow id).2.order.WellFormed := by
  unfold invalidateWindow
  split
  · exact wf
  · exact wellFormed_invalidate wf _

/-- Every operation keeps the order well-formed. -/
theorem Edit.wellFormed (edit : Edit) (wf : pool.order.WellFormed) :
    (edit.run pool).order.WellFormed := by
  cases edit with
  | allocate frame title style flags => exact wellFormed_allocate wf frame title style flags
  | free id => exact wellFormed_free wf id
  | select id => exact wellFormed_select wf id
  | sendToBack id => exact wellFormed_sendToBack wf id
  | reveal id => exact wellFormed_reveal wf id
  | hide id => exact wellFormed_hide wf id
  | moveTo id x y => exact wellFormed_reframe wf id _
  | resize id width height => exact wellFormed_reframe wf id _
  | setTitle id title => exact wellFormed_setTitle wf id title
  | invalidate rect => exact wellFormed_invalidate wf rect
  | invalidateWindow id => exact wellFormed_invalidateWindow wf id

/-- Every operation keeps the windows sound. -/
theorem Edit.sound (edit : Edit) (h : pool.Sound) : (edit.run pool).Sound := by
  cases edit with
  | allocate frame title style flags => exact h.allocate frame title style flags
  | free id => exact h.free id
  | select id => exact h.select id
  | sendToBack id => exact h.sendToBack id
  | reveal id => exact h.reveal id
  | hide id => exact h.hide id
  | moveTo id x y => exact h.moveTo id x y
  | resize id width height => exact h.reframe id _
  | setTitle id title => exact h.setTitle id title
  | invalidate rect => exact h.invalidate rect
  | invalidateWindow id => exact h.invalidateWindow id

end Pool

end TwinDesk
