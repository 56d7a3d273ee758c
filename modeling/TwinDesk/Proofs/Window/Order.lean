import Mathlib.Data.Fintype.Card
import TwinDesk.Window.ZOrder

/-!
# The represented order

A front-to-back order is a list linked in both directions, spread over a table. `ZOrder.Lists` says
which list of slots a table stands for; taking a slot out and putting it to either end do to the
list what their names say, and both walks go through all of it.

* `ZOrder.Lists.unlink`, `ZOrder.Lists.pushTop`, `ZOrder.Lists.pushBottom` — the operations.
* `ZOrder.Lists.frontToBack_eq`, `ZOrder.Lists.backToFront_eq` — the walks.
-/

namespace TwinDesk

namespace ZOrder

variable {z z' : ZOrder} {slot : Slot} {slots xs ys : List Slot} {before after : Option Slot}

/-! ## Linked stretches -/

/-- The slots of a stretch know their neighbours; `before` and `after` are those of the whole
stretch. -/
def Linked (z : ZOrder) : Option Slot → List Slot → Option Slot → Prop
  | _, [], _ => True
  | before, slot :: rest, after =>
    z.links.get slot = some ⟨before, rest.head?.or after⟩ ∧ z.Linked (some slot) rest after

theorem linked_append : z.Linked before (xs ++ ys) after ↔
    z.Linked before xs (ys.head?.or after) ∧ z.Linked (xs.getLast?.or before) ys after := by
  induction xs generalizing before with
  | nil => simp [Linked]
  | cons slot rest ih =>
    rw [List.cons_append, Linked, Linked, ih, List.head?_append, Option.or_assoc, and_assoc]
    have last : (slot :: rest).getLast?.or before = rest.getLast?.or (some slot) := by
      rw [List.getLast?_cons]
      cases rest.getLast? <;> rfl
    rw [last]

/-- A stretch speaks of the links of its own slots only. -/
theorem Linked.congr (linked : z.Linked before slots after)
    (same : ∀ slot ∈ slots, z'.links.get slot = z.links.get slot) :
    z'.Linked before slots after := by
  induction slots generalizing before with
  | nil => trivial
  | cons slot rest ih =>
    obtain ⟨here, later⟩ := linked
    refine ⟨?_, ih later fun other mem => same other (List.mem_cons_of_mem _ mem)⟩
    rw [same slot List.mem_cons_self]
    exact here

/-! ## Changing a neighbour -/

theorem links_setAbove_of_ne (neighbour : Option Slot) {other : Slot} (ne : other ≠ slot) :
    (z.setAbove slot neighbour).links.get other = z.links.get other := by
  rw [setAbove]
  exact SlotTable.get_set_of_ne _ _ ne

theorem links_setBelow_of_ne (neighbour : Option Slot) {other : Slot} (ne : other ≠ slot) :
    (z.setBelow slot neighbour).links.get other = z.links.get other := by
  rw [setBelow]
  exact SlotTable.get_set_of_ne _ _ ne

/-- The first slot of a stretch gets another neighbour above. -/
theorem Linked.setAbove (linked : z.Linked before (slot :: ys) after) (apart : slot ∉ ys)
    (above : Option Slot) : (z.setAbove slot above).Linked above (slot :: ys) after := by
  obtain ⟨here, later⟩ := linked
  constructor
  · rw [ZOrder.setAbove, SlotTable.get_set_self, here]
    rfl
  · refine later.congr fun other mem => links_setAbove_of_ne _ ?_
    rintro rfl
    exact apart mem

/-- The last slot of a stretch gets another neighbour below. -/
theorem Linked.setBelow (linked : z.Linked before (xs ++ [slot]) after) (apart : slot ∉ xs)
    (below : Option Slot) : (z.setBelow slot below).Linked before (xs ++ [slot]) below := by
  rw [linked_append] at linked ⊢
  obtain ⟨earlier, here, -⟩ := linked
  refine ⟨earlier.congr fun other mem => links_setBelow_of_ne _ ?_, ?_, trivial⟩
  · rintro rfl
    exact apart mem
  · rw [ZOrder.setBelow, SlotTable.get_set_self, here]
    rfl

/-! ## The represented list -/

/-- The slots of the order, from the front to the back. -/
structure Lists (z : ZOrder) (slots : List Slot) : Prop where
  nodup : slots.Nodup
  front : z.front = slots.head?
  back : z.back = slots.getLast?
  linked : z.Linked none slots none
  absent : ∀ slot, slot ∉ slots → z.links.get slot = none

theorem lists_empty : empty.Lists [] where
  nodup := List.nodup_nil
  front := rfl
  back := rfl
  linked := trivial
  absent slot _ := SlotTable.get_replicate _ slot

/-- A slot without neighbours, which is both ends. -/
theorem lists_singleton (front : z.front = some slot) (back : z.back = some slot)
    (here : z.links.get slot = some ⟨none, none⟩)
    (absent : ∀ other, other ≠ slot → z.links.get other = none) : z.Lists [slot] where
  nodup := List.nodup_singleton slot
  front := front
  back := back
  linked := ⟨here, trivial⟩
  absent other mem := by
    apply absent
    intro same
    exact mem (List.mem_singleton.mpr same)

/-! ### Taking a slot out -/

/-- What lies above a slot is linked to what lies below it, seen from above. -/
def bridgeDown (z : ZOrder) (above below : Option Slot) : ZOrder :=
  match above with
  | some neighbour => z.setBelow neighbour below
  | none => { z with front := below }

/-- What lies below a slot is linked to what lies above it, seen from below. -/
def bridgeUp (z : ZOrder) (above below : Option Slot) : ZOrder :=
  match below with
  | some neighbour => z.setAbove neighbour above
  | none => { z with back := above }

theorem unlink_eq {above below : Option Slot} (known : z.links.get slot = some ⟨above, below⟩) :
    z.unlink slot =
      { (z.bridgeDown above below).bridgeUp above below with
        links := ((z.bridgeDown above below).bridgeUp above below).links.set slot none } := by
  rw [unlink, known]
  rfl

theorem links_bridgeDown_of_ne {other : Slot} (above below : Option Slot)
    (ne : some other ≠ above) : (z.bridgeDown above below).links.get other = z.links.get other := by
  cases above with
  | none => rfl
  | some neighbour =>
    apply links_setBelow_of_ne
    rintro rfl
    exact ne rfl

theorem links_bridgeUp_of_ne {other : Slot} (above below : Option Slot)
    (ne : some other ≠ below) : (z.bridgeUp above below).links.get other = z.links.get other := by
  cases below with
  | none => rfl
  | some neighbour =>
    apply links_setAbove_of_ne
    rintro rfl
    exact ne rfl

/-- The stretch above the slot ends at what lies below it. -/
theorem Linked.bridgeDown (linked : z.Linked none xs after) (nodup : xs.Nodup)
    (below : Option Slot) : (z.bridgeDown xs.getLast? below).Linked none xs below := by
  rcases List.eq_nil_or_concat xs with rfl | ⟨rest, last, rfl⟩
  · trivial
  · rw [List.concat_eq_append] at *
    rw [List.getLast?_concat]
    refine linked.setBelow (fun mem => ?_) below
    exact (List.nodup_append.mp nodup).2.2 last mem last (List.mem_singleton_self last) rfl

/-- The stretch below the slot starts at what lies above it. -/
theorem Linked.bridgeUp (linked : z.Linked before ys none) (nodup : ys.Nodup)
    (above : Option Slot) : (z.bridgeUp above ys.head?).Linked above ys none := by
  cases ys with
  | nil => trivial
  | cons first rest => exact linked.setAbove (List.nodup_cons.mp nodup).1 above

@[simp] theorem front_bridgeUp (above below : Option Slot) :
    (z.bridgeUp above below).front = z.front := by
  cases below <;> rfl

@[simp] theorem back_bridgeDown (above below : Option Slot) :
    (z.bridgeDown above below).back = z.back := by
  cases above <;> rfl

/-- The links of the slots that stay, once both sides are bridged. -/
theorem linked_bridge (linked : z.Linked none (xs ++ slot :: ys) none)
    (nodup : (xs ++ slot :: ys).Nodup) :
    ((z.bridgeDown xs.getLast? ys.head?).bridgeUp xs.getLast? ys.head?).Linked none (xs ++ ys)
      none := by
  obtain ⟨nodupX, nodupY, apart⟩ := List.nodup_append.mp nodup
  obtain ⟨upper, -, lower⟩ := linked_append.mp linked
  rw [linked_append, Option.or_none, Option.or_none]
  constructor
  · apply (upper.bridgeDown nodupX ys.head?).congr
    intro other mem
    apply links_bridgeUp_of_ne
    intro same
    have mem' : other ∈ slot :: ys := List.mem_cons_of_mem _ (List.mem_of_head? same.symm)
    exact apart other mem other mem' rfl
  · refine Linked.bridgeUp (lower.congr fun other mem => ?_) (List.nodup_cons.mp nodupY).2 _
    apply links_bridgeDown_of_ne
    intro same
    have mem' : other ∈ slot :: ys := List.mem_cons_of_mem _ mem
    exact apart other (List.mem_of_getLast? same.symm) other mem' rfl

theorem front_bridge (front : z.front = (xs ++ slot :: ys).head?) :
    (z.bridgeDown xs.getLast? ys.head?).front = (xs ++ ys).head? := by
  cases xs with
  | nil => rfl
  | cons first rest =>
    rw [List.getLast?_cons]
    exact front

theorem back_bridge (back : z.back = (xs ++ slot :: ys).getLast?) :
    (z.bridgeUp xs.getLast? ys.head?).back = (xs ++ ys).getLast? := by
  cases ys with
  | nil =>
    rw [List.append_nil]
    rfl
  | cons first rest =>
    rw [List.getLast?_append] at back ⊢
    rw [List.getLast?_cons_cons] at back
    exact back

/-- Bridging touches the neighbours of the slot only. -/
theorem absent_bridge (absent : ∀ other, other ∉ xs ++ slot :: ys → z.links.get other = none)
    {other : Slot} (mem : other ∉ xs ++ ys) (ne : other ≠ slot) :
    ((z.bridgeDown xs.getLast? ys.head?).bridgeUp xs.getLast? ys.head?).links.get other = none := by
  rw [List.mem_append, not_or] at mem
  rw [links_bridgeUp_of_ne, links_bridgeDown_of_ne]
  · apply absent
    rw [List.mem_append, List.mem_cons]
    rintro (mem' | rfl | mem')
    · exact mem.1 mem'
    · exact ne rfl
    · exact mem.2 mem'
  · intro same
    exact mem.1 (List.mem_of_getLast? same.symm)
  · intro same
    exact mem.2 (List.mem_of_head? same.symm)

namespace Lists

theorem unlink (h : z.Lists slots) (slot : Slot) : (z.unlink slot).Lists (slots.erase slot) := by
  by_cases mem : slot ∈ slots
  · obtain ⟨xs, ys, rfl⟩ := List.append_of_mem mem
    obtain ⟨-, -, apart⟩ := List.nodup_append.mp h.nodup
    have absentX : slot ∉ xs := fun mem => apart slot mem slot List.mem_cons_self rfl
    have erased : (xs ++ slot :: ys).erase slot = xs ++ ys := by
      rw [List.erase_append_right _ absentX, List.erase_cons_head]
    have here := (linked_append.mp h.linked).2.1
    rw [Option.or_none, Option.or_none] at here
    have gone : slot ∉ xs ++ ys := by
      rw [← erased]
      exact h.nodup.not_mem_erase
    -- the neighbours are bridged over the slot that goes
    rw [unlink_eq here]
    constructor
    · exact h.nodup.erase slot
    · rw [erased]
      exact (front_bridgeUp _ _).trans (front_bridge h.front)
    · rw [erased]
      refine Eq.trans ?_ (back_bridge h.back)
      cases ys.head?
      · rfl
      · exact back_bridgeDown _ _
    · rw [erased]
      apply (linked_bridge h.linked h.nodup).congr
      intro other mem'
      apply SlotTable.get_set_of_ne
      rintro rfl
      exact gone mem'
    · intro other mem
      rw [erased] at mem
      by_cases same : other = slot
      · rw [same]
        exact SlotTable.get_set_self _ _ _
      · apply (SlotTable.get_set_of_ne _ _ same).trans
        exact absent_bridge h.absent mem same
  · rw [List.erase_of_not_mem mem, ZOrder.unlink, h.absent slot mem]
    exact h

/-! ### Putting a slot to either end -/

theorem absent_unlink (h : z.Lists slots) (slot : Slot) : slot ∉ slots.erase slot :=
  h.nodup.not_mem_erase

theorem pushTop (h : z.Lists slots) (slot : Slot) :
    (z.pushTop slot).Lists (slot :: slots.erase slot) := by
  have apart := h.absent_unlink slot
  have rest := h.unlink slot
  -- what is left without the slot is all that matters from here on
  unfold ZOrder.pushTop
  generalize z.unlink slot = z at rest ⊢
  generalize slots.erase slot = slots at rest apart ⊢
  dsimp only
  have elsewhere {other : Slot} (ne : other ≠ slot) :
      (z.links.set slot (some ⟨none, z.front⟩)).get other = z.links.get other :=
    SlotTable.get_set_of_ne _ _ ne
  have others : ∀ other ∈ slots, other ≠ slot := by
    rintro other mem rfl
    exact apart mem
  cases slots with
  | nil =>
    have none : z.front = none := rest.front
    rw [none]
    apply lists_singleton rfl rfl (SlotTable.get_set_self _ _ _)
    intro other ne
    rw [SlotTable.get_set_of_ne _ _ ne]
    exact rest.absent other List.not_mem_nil
  | cons first later =>
    have some_first : z.front = some first := rest.front
    obtain ⟨lone, -⟩ := List.nodup_cons.mp rest.nodup
    have ne : slot ≠ first := fun same => apart (same ▸ List.mem_cons_self)
    rw [some_first] at elsewhere ⊢
    constructor
    · exact List.nodup_cons.mpr ⟨apart, rest.nodup⟩
    · rfl
    · exact rest.back.trans List.getLast?_cons_cons.symm
    · constructor
      · rw [links_setAbove_of_ne _ ne]
        exact SlotTable.get_set_self _ _ _
      · exact Linked.setAbove (rest.linked.congr fun other mem => elsewhere (others other mem))
          lone _
    · intro other mem
      rw [List.mem_cons, not_or] at mem
      have ne' : other ≠ first := fun same => mem.2 (same ▸ List.mem_cons_self)
      rw [links_setAbove_of_ne _ ne']
      exact (elsewhere mem.1).trans (rest.absent other mem.2)

theorem pushBottom (h : z.Lists slots) (slot : Slot) :
    (z.pushBottom slot).Lists (slots.erase slot ++ [slot]) := by
  have apart := h.absent_unlink slot
  have rest := h.unlink slot
  unfold ZOrder.pushBottom
  generalize z.unlink slot = z at rest ⊢
  generalize slots.erase slot = slots at rest apart ⊢
  dsimp only
  have elsewhere {other : Slot} (ne : other ≠ slot) :
      (z.links.set slot (some ⟨z.back, none⟩)).get other = z.links.get other :=
    SlotTable.get_set_of_ne _ _ ne
  have others : ∀ other ∈ slots, other ≠ slot := by
    rintro other mem rfl
    exact apart mem
  rcases List.eq_nil_or_concat slots with rfl | ⟨earlier, last, rfl⟩
  · have none : z.back = none := rest.back
    rw [none]
    apply lists_singleton rfl rfl (SlotTable.get_set_self _ _ _)
    intro other ne
    rw [SlotTable.get_set_of_ne _ _ ne]
    exact rest.absent other List.not_mem_nil
  · rw [List.concat_eq_append] at *
    have some_last : z.back = some last := rest.back.trans List.getLast?_concat
    obtain ⟨-, -, lone⟩ := List.nodup_append.mp rest.nodup
    have lone : last ∉ earlier := fun mem => lone last mem last (List.mem_singleton_self last) rfl
    have ne : slot ≠ last := fun same => apart (same ▸ List.mem_concat_self)
    rw [some_last] at elsewhere ⊢
    constructor
    · refine List.nodup_append.mpr ⟨rest.nodup, List.nodup_singleton slot, ?_⟩
      intro other mem other' mem'
      rw [List.mem_singleton.mp mem']
      exact others other mem
    · rw [List.head?_append, List.head?_append]
      apply rest.front.trans
      rw [List.head?_append]
      cases earlier <;> rfl
    · exact List.getLast?_concat.symm
    · rw [linked_append, List.getLast?_concat]
      constructor
      · exact Linked.setBelow (rest.linked.congr fun other mem => elsewhere (others other mem))
          lone _
      · refine ⟨?_, trivial⟩
        rw [links_setBelow_of_ne _ ne]
        exact SlotTable.get_set_self _ _ _
    · intro other mem
      rw [List.mem_append, List.mem_singleton, not_or] at mem
      have ne' : other ≠ last := fun same => mem.1 (same ▸ List.mem_concat_self)
      rw [links_setBelow_of_ne _ ne']
      exact (elsewhere mem.2).trans (rest.absent other mem.1)

/-! ### Walking -/

theorem walk_below {limit : Nat} (linked : z.Linked before slots none)
    (enough : slots.length ≤ limit) : walk z.below limit slots.head? = slots := by
  induction slots generalizing before limit with
  | nil => cases limit <;> rfl
  | cons slot rest ih =>
    obtain ⟨here, later⟩ := linked
    cases limit with
    | zero => cases enough
    | succ limit =>
      have next : z.below slot = rest.head? := by
        rw [below, here, Option.or_none]
        rfl
      rw [List.head?_cons, walk, next, ih later (Nat.le_of_succ_le_succ enough)]

theorem walk_above {limit : Nat} (linked : z.Linked none slots after)
    (enough : slots.length ≤ limit) : walk z.above limit slots.getLast? = slots.reverse := by
  induction slots using List.reverseRecOn generalizing after limit with
  | nil => cases limit <;> rfl
  | append_singleton rest slot ih =>
    obtain ⟨earlier, here, -⟩ := linked_append.mp linked
    rw [List.length_append] at enough
    cases limit with
    | zero => cases enough
    | succ limit =>
      have next : z.above slot = rest.getLast? := by
        rw [above, here, Option.or_none]
        rfl
      rw [List.getLast?_concat, walk, next, ih earlier (Nat.le_of_succ_le_succ enough),
        List.reverse_append]
      rfl

theorem length_le (h : z.Lists slots) : slots.length ≤ Layout.maxWindows := by
  have bound := h.nodup.length_le_card
  rwa [Fintype.card_fin] at bound

theorem frontToBack_eq (h : z.Lists slots) : z.frontToBack = slots := by
  rw [frontToBack, h.front]
  exact walk_below h.linked h.length_le

theorem backToFront_eq (h : z.Lists slots) : z.backToFront = slots.reverse := by
  rw [backToFront, h.back]
  exact walk_above h.linked h.length_le

end Lists

/-! ## Well-formed orders -/

/-- The links stand for some list. -/
def WellFormed (z : ZOrder) : Prop :=
  ∃ slots, z.Lists slots

theorem filterMap_erase {α : Type} {f : Slot → Option α} (hidden : f slot = none)
    (slots : List Slot) : (slots.erase slot).filterMap f = slots.filterMap f := by
  induction slots with
  | nil => rfl
  | cons other rest ih =>
    by_cases same : other = slot
    · subst same
      rw [List.erase_cons_head, List.filterMap_cons_none hidden]
    · rw [List.erase_cons_tail (by simpa using same), List.filterMap_cons, List.filterMap_cons, ih]

namespace WellFormed

theorem empty : ZOrder.empty.WellFormed :=
  ⟨[], lists_empty⟩

theorem unlink (h : z.WellFormed) (slot : Slot) : (z.unlink slot).WellFormed := by
  obtain ⟨slots, lists⟩ := h
  exact ⟨_, lists.unlink slot⟩

theorem pushTop (h : z.WellFormed) (slot : Slot) : (z.pushTop slot).WellFormed := by
  obtain ⟨slots, lists⟩ := h
  exact ⟨_, lists.pushTop slot⟩

theorem pushBottom (h : z.WellFormed) (slot : Slot) : (z.pushBottom slot).WellFormed := by
  obtain ⟨slots, lists⟩ := h
  exact ⟨_, lists.pushBottom slot⟩

variable {α : Type} {f : Slot → Option α}

/-! ### Slots that show nothing may move -/

theorem seen_unlink (h : z.WellFormed) (hidden : f slot = none) :
    (z.unlink slot).backToFront.filterMap f = z.backToFront.filterMap f := by
  obtain ⟨slots, lists⟩ := h
  rw [(lists.unlink slot).backToFront_eq, lists.backToFront_eq, List.filterMap_reverse,
    List.filterMap_reverse, filterMap_erase hidden]

theorem seen_pushTop (h : z.WellFormed) (hidden : f slot = none) :
    (z.pushTop slot).backToFront.filterMap f = z.backToFront.filterMap f := by
  obtain ⟨slots, lists⟩ := h
  rw [(lists.pushTop slot).backToFront_eq, lists.backToFront_eq, List.filterMap_reverse,
    List.filterMap_reverse, List.filterMap_cons_none hidden, filterMap_erase hidden]

theorem seen_pushBottom (h : z.WellFormed) (hidden : f slot = none) :
    (z.pushBottom slot).backToFront.filterMap f = z.backToFront.filterMap f := by
  obtain ⟨slots, lists⟩ := h
  rw [(lists.pushBottom slot).backToFront_eq, lists.backToFront_eq, List.filterMap_reverse,
    List.filterMap_reverse, List.filterMap_append, List.filterMap_cons_none hidden,
    filterMap_erase hidden, List.filterMap_nil, List.append_nil]

end WellFormed

end ZOrder

end TwinDesk
