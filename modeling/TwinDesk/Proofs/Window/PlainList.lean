import TwinDesk.Proofs.Window.Order

/-!
# The order as a plain list

Callers change and read the order by window ids. After any changes it is to them what a plain list
of ids is that went through the same changes: an id is taken out of the list, and then put in front
of it, behind it or nowhere.

* `ZOrder.Represents` — everything that is read off the order is read off the list.
* `ZOrder.represents_run` — after any changes the order represents the list.
-/

namespace TwinDesk

namespace ZOrder

/-! ## Changes -/

/-- A change that callers make, by window id. -/
inductive Change where
  | pushTop (id : WindowId)
  | pushBottom (id : WindowId)
  | sendToBack (id : WindowId)
  | unlink (id : WindowId)
  deriving DecidableEq, Repr

namespace Change

/-- The window that is moved or taken out. -/
def id : Change → WindowId
  | pushTop id => id
  | pushBottom id => id
  | sendToBack id => id
  | unlink id => id

/-- Makes a change to the order. -/
def run (z : ZOrder) : Change → Checked ZOrder
  | pushTop id => z.pushTopId id
  | pushBottom id => z.pushBottomId id
  | sendToBack id => z.sendToBackId id
  | unlink id => .ok (z.unlinkId id).2

/-- Makes a change to a plain list. -/
def apply (ids : List WindowId) : Change → List WindowId
  | pushTop id => id :: ids.filter (· ≠ id)
  | pushBottom id => ids.filter (· ≠ id) ++ [id]
  | sendToBack id => ids.filter (· ≠ id) ++ [id]
  | unlink id => ids.filter (· ≠ id)

end Change

/-! ## What callers see -/

/-- An iterator that stands before `start` and goes on by `next` yields these ids and ends. -/
inductive Yielded (next : WindowId → Option WindowId) : Option WindowId → List WindowId → Prop where
  | ended : Yielded next none []
  | step {id : WindowId} {rest : List WindowId} (later : Yielded next (next id) rest) :
    Yielded next (some id) (id :: rest)

/-- Whatever callers read off the order is what they would read off the list. -/
structure Represents (z : ZOrder) (ids : List WindowId) : Prop where
  nodup : ids.Nodup
  down : Yielded z.belowId (z.front.map Slot.id) ids
  up : Yielded z.aboveId (z.back.map Slot.id) ids.reverse
  frontToBack : z.frontToBack.map Slot.id = ids
  backToFront : z.backToFront.map Slot.id = ids.reverse
  front : z.front.map Slot.id = ids.head?
  back : z.back.map Slot.id = ids.getLast?
  /-- The window above is the one just before in the list. -/
  above (id other : WindowId) : z.aboveId id = some other ↔ [other, id] <:+: ids
  /-- The window below is the one right after in the list. -/
  below (id other : WindowId) : z.belowId id = some other ↔ [id, other] <:+: ids
  contains (id : WindowId) : z.containsId id = decide (id ∈ ids)
  size : z.size = ids.length
  isEmpty : z.isEmpty = ids.isEmpty
  /-- Taking a window out tells whether there was something to take out. -/
  unlinked (id : WindowId) : (z.unlinkId id).1 = decide (id ∈ ids)

/-! ## Reading the order -/

variable {z : ZOrder} {slot other : Slot} {slots : List Slot} {id : WindowId}

theorem mem_map_id : id ∈ slots.map Slot.id ↔ ∃ slot ∈ slots, id.slot? = some slot := by
  rw [List.mem_map]
  constructor
  · rintro ⟨slot, mem, rfl⟩
    exact ⟨slot, mem, slot.slot?_id⟩
  · rintro ⟨slot, mem, named⟩
    exact ⟨slot, mem, Slot.id_of_slot? named⟩

@[simp] theorem aboveId_id : z.aboveId slot.id = (z.above slot).map Slot.id := by
  rw [aboveId, slot.slot?_id]
  rfl

@[simp] theorem belowId_id : z.belowId slot.id = (z.below slot).map Slot.id := by
  rw [belowId, slot.slot?_id]
  rfl

namespace Lists

theorem contains_iff (h : z.Lists slots) : z.contains slot = true ↔ slot ∈ slots := by
  constructor
  · intro present
    by_contra absent
    rw [ZOrder.contains, h.absent slot absent] at present
    cases present
  · intro mem
    obtain ⟨xs, ys, rfl⟩ := List.append_of_mem mem
    rw [ZOrder.contains, (linked_append.mp h.linked).2.1]
    rfl

/-- A slot's neighbours are those that the list has next to it. -/
theorem links_eq {xs ys : List Slot} (h : z.Lists (xs ++ slot :: ys)) :
    z.links.get slot = some ⟨xs.getLast?, ys.head?⟩ := by
  have here := (linked_append.mp h.linked).2.1
  rwa [Option.or_none, Option.or_none] at here

theorem above_iff (h : z.Lists slots) : z.above slot = some other ↔ [other, slot] <:+: slots := by
  constructor
  · intro above
    have mem : slot ∈ slots := by
      by_contra absent
      rw [ZOrder.above, h.absent slot absent] at above
      cases above
    obtain ⟨xs, ys, rfl⟩ := List.append_of_mem mem
    rw [ZOrder.above, h.links_eq, Option.bind_some] at above
    obtain ⟨earlier, rfl⟩ := List.getLast?_eq_some_iff.mp above
    exact ⟨earlier, ys, by simp⟩
  · rintro ⟨xs, ys, rfl⟩
    have split : xs ++ [other, slot] ++ ys = (xs ++ [other]) ++ slot :: ys := by simp
    rw [split] at h
    rw [ZOrder.above, h.links_eq, Option.bind_some, List.getLast?_concat]

theorem below_iff (h : z.Lists slots) : z.below slot = some other ↔ [slot, other] <:+: slots := by
  constructor
  · intro below
    have mem : slot ∈ slots := by
      by_contra absent
      rw [ZOrder.below, h.absent slot absent] at below
      cases below
    obtain ⟨xs, ys, rfl⟩ := List.append_of_mem mem
    rw [ZOrder.below, h.links_eq, Option.bind_some] at below
    obtain ⟨later, rfl⟩ := List.head?_eq_some_iff.mp below
    exact ⟨xs, later, by simp⟩
  · rintro ⟨xs, ys, rfl⟩
    rw [List.append_assoc] at h
    rw [ZOrder.below, h.links_eq, Option.bind_some]
    rfl

theorem size_eq (h : z.Lists slots) : z.size = slots.length := by
  rw [ZOrder.size, List.countP_eq_length_filter]
  apply List.Perm.length_eq
  have nodup : Slot.all.Nodup := List.nodup_finRange _
  rw [List.perm_ext_iff_of_nodup (nodup.filter _) h.nodup]
  intro slot
  rw [List.mem_filter, h.contains_iff]
  exact and_iff_right slot.mem_all

end Lists

/-! ### By window id -/

theorem containsId_eq (h : z.Lists slots) (id : WindowId) :
    z.containsId id = decide (id ∈ slots.map Slot.id) := by
  rw [Bool.eq_iff_iff, decide_eq_true_iff, containsId, Option.any_eq_true, mem_map_id]
  constructor
  · rintro ⟨slot, named, present⟩
    exact ⟨slot, h.contains_iff.mp present, named⟩
  · rintro ⟨slot, mem, named⟩
    exact ⟨slot, named, h.contains_iff.mpr mem⟩

theorem unlinkId_fst (z : ZOrder) (id : WindowId) : (z.unlinkId id).1 = z.containsId id := by
  rw [unlinkId, containsId]
  cases id.slot? <;> rfl

/-- Two ids are next to each other where the slots that they name are. -/
theorem pair_infix_iff {a b : WindowId} : [a, b] <:+: slots.map Slot.id ↔
    ∃ first second, a.slot? = some first ∧ b = second.id ∧ [first, second] <:+: slots := by
  rw [List.infix_map_iff]
  constructor
  · rintro ⟨pair, within, ids⟩
    obtain ⟨first, rest, rfl, rfl, others⟩ := List.map_eq_cons_iff.mp ids.symm
    obtain ⟨second, rfl, rfl⟩ := List.map_eq_singleton_iff.mp others
    exact ⟨first, second, first.slot?_id, rfl, within⟩
  · rintro ⟨first, second, named, rfl, within⟩
    refine ⟨_, within, ?_⟩
    rw [List.map_cons, List.map_singleton, Slot.id_of_slot? named]

theorem belowId_iff (h : z.Lists slots) (id other : WindowId) :
    z.belowId id = some other ↔ [id, other] <:+: slots.map Slot.id := by
  rw [belowId, Option.map_eq_some_iff, pair_infix_iff]
  constructor
  · rintro ⟨next, found, rfl⟩
    obtain ⟨slot, named, below⟩ := Option.bind_eq_some_iff.mp found
    exact ⟨slot, next, named, rfl, h.below_iff.mp below⟩
  · rintro ⟨slot, next, named, rfl, within⟩
    exact ⟨next, Option.bind_eq_some_iff.mpr ⟨slot, named, h.below_iff.mpr within⟩, rfl⟩

theorem aboveId_iff (h : z.Lists slots) (id other : WindowId) :
    z.aboveId id = some other ↔ [other, id] <:+: slots.map Slot.id := by
  rw [aboveId, Option.map_eq_some_iff, pair_infix_iff]
  constructor
  · rintro ⟨next, found, rfl⟩
    obtain ⟨slot, named, above⟩ := Option.bind_eq_some_iff.mp found
    refine ⟨next, slot, next.slot?_id, (Slot.id_of_slot? named).symm, h.above_iff.mp above⟩
  · rintro ⟨next, slot, named, rfl, within⟩
    refine ⟨next, ?_, Slot.id_of_slot? named⟩
    rw [slot.slot?_id]
    exact h.above_iff.mpr within

/-! ### Iterating -/

theorem yielded_below {before : Option Slot} (linked : z.Linked before slots none) :
    Yielded z.belowId (slots.head?.map Slot.id) (slots.map Slot.id) := by
  induction slots generalizing before with
  | nil => exact .ended
  | cons slot rest ih =>
    obtain ⟨here, later⟩ := linked
    refine .step ?_
    have next : z.below slot = rest.head? := by
      rw [below, here, Option.or_none]
      rfl
    rw [belowId_id, next]
    exact ih later

theorem yielded_above {after : Option Slot} (linked : z.Linked none slots after) :
    Yielded z.aboveId (slots.getLast?.map Slot.id) (slots.map Slot.id).reverse := by
  induction slots using List.reverseRecOn generalizing after with
  | nil => exact .ended
  | append_singleton rest slot ih =>
    obtain ⟨earlier, here, -⟩ := linked_append.mp linked
    have next : z.above slot = rest.getLast? := by
      rw [above, here, Option.or_none]
      rfl
    rw [List.getLast?_concat, List.map_append, List.reverse_append]
    refine .step ?_
    rw [aboveId_id, next]
    exact ih earlier

/-- An order that stands for a list of slots is to callers the list of their ids. -/
theorem Lists.represents (h : z.Lists slots) : z.Represents (slots.map Slot.id) where
  nodup := h.nodup.map fun _ _ => Slot.id_injective
  down := by
    rw [h.front]
    exact yielded_below h.linked
  up := by
    rw [h.back]
    exact yielded_above h.linked
  frontToBack := by
    rw [h.frontToBack_eq]
  backToFront := by
    rw [h.backToFront_eq, List.map_reverse]
  front := by
    rw [h.front, List.head?_map]
  back := by
    rw [h.back, List.getLast?_map]
  above := aboveId_iff h
  below := belowId_iff h
  contains := containsId_eq h
  size := by
    rw [h.size_eq, List.length_map]
  isEmpty := by
    rw [isEmpty, h.size_eq]
    cases slots <;> rfl
  unlinked id := by
    rw [unlinkId_fst, containsId_eq h]

/-! ## Changing the order -/

theorem map_id_erase (nodup : slots.Nodup) (named : id.slot? = some slot) :
    (slots.erase slot).map Slot.id = (slots.map Slot.id).filter (· ≠ id) := by
  rw [nodup.erase_eq_filter, List.filter_map]
  congr 1
  apply List.filter_congr
  intro other _
  rw [Function.comp_apply, Bool.eq_iff_iff, bne_iff_ne, decide_eq_true_iff,
    ← Slot.id_of_slot? named]
  exact not_congr ⟨congrArg Slot.id, Slot.id_injective⟩

/-- A change of a window that has a slot is made, to the order as to the list. -/
theorem Change.run_lists (h : z.Lists slots) {change : Change}
    (named : change.id.slot? = some slot) :
    ∃ z' slots', change.run z = .ok z' ∧ z'.Lists slots' ∧
      slots'.map Slot.id = change.apply (slots.map Slot.id) := by
  have erased := map_id_erase h.nodup named
  have own := Slot.id_of_slot? named
  cases change with
  | pushTop id =>
    refine ⟨_, _, ?_, h.pushTop slot, ?_⟩
    · rw [run, pushTopId, show id.slot? = some slot from named]
    · rw [List.map_cons, erased, own]
      rfl
  | pushBottom id =>
    refine ⟨_, _, ?_, h.pushBottom slot, ?_⟩
    · rw [run, pushBottomId, show id.slot? = some slot from named]
    · rw [List.map_append, erased, List.map_singleton, own]
      rfl
  | sendToBack id =>
    refine ⟨_, _, ?_, h.pushBottom slot, ?_⟩
    · rw [run, sendToBackId, pushBottomId, show id.slot? = some slot from named]
    · rw [List.map_append, erased, List.map_singleton, own]
      rfl
  | unlink id =>
    refine ⟨_, _, ?_, h.unlink slot, erased⟩
    rw [run, unlinkId, show id.slot? = some slot from named]

/-- Order and list stay in step over any changes. -/
theorem run_lists (h : z.Lists slots) {changes : List Change}
    (known : ∀ change ∈ changes, change.id.byte.toNat < Layout.maxWindows) :
    ∃ z' slots', changes.foldlM Change.run z = .ok z' ∧ z'.Lists slots' ∧
      slots'.map Slot.id = changes.foldl Change.apply (slots.map Slot.id) := by
  induction changes generalizing z slots with
  | nil => exact ⟨z, slots, rfl, h, rfl⟩
  | cons change rest ih =>
    have named : change.id.slot? = some ⟨_, known change List.mem_cons_self⟩ := dif_pos _
    obtain ⟨z', slots', ran, lists, ids⟩ := Change.run_lists h named
    rw [List.foldlM_cons, ran, List.foldl_cons, ← ids]
    exact ih lists fun other mem => known other (List.mem_cons_of_mem _ mem)

/-- After any changes, made in turn to the order and to a plain list that both start without
windows, the order represents the list. -/
theorem represents_run (changes : List Change)
    (known : ∀ change ∈ changes, change.id.byte.toNat < Layout.maxWindows) :
    ∃ z, changes.foldlM Change.run empty = .ok z ∧
      z.Represents (changes.foldl Change.apply []) := by
  obtain ⟨z, slots, ran, lists, ids⟩ := run_lists lists_empty known
  refine ⟨z, ran, ?_⟩
  rw [List.map_nil] at ids
  rw [← ids]
  exact lists.represents

/-- The last window is put to the front, the first one to the back, and one in the middle is taken
out twice. -/
def shuffling : List Change :=
  [.pushTop ⟨3⟩, .pushTop ⟨0⟩, .pushBottom ⟨15⟩, .pushTop ⟨15⟩, .pushBottom ⟨7⟩, .sendToBack ⟨15⟩,
    .unlink ⟨3⟩, .unlink ⟨3⟩]

theorem represents_shuffling :
    (∀ change ∈ shuffling, change.id.byte.toNat < Layout.maxWindows) ∧
      ∃ z, shuffling.foldlM Change.run empty = .ok z ∧ z.Represents [⟨0⟩, ⟨7⟩, ⟨15⟩] := by
  have known : ∀ change ∈ shuffling, change.id.byte.toNat < Layout.maxWindows := by decide
  exact ⟨known, represents_run shuffling known⟩

end ZOrder

end TwinDesk
