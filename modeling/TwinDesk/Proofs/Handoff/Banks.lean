import TwinDesk.Link.BankExchange
import TwinDesk.Proofs.Handoff.World

/-!
# Work on a bank

The bus cycles of a hand-off that take part in the memory mode and the banks, for either processor.
To the handshake they are nothing at all.

* `World.still` — a cycle that changes nothing is a move.
* `World.painting` — what the Sub processor may do while it carries a command out.
* `acquire_outline`, `withBytes_outline` — a bank is taken hold of, and worked on.
-/

namespace TwinDesk

open Program

namespace Handoff

variable {start : Bool} {side : Side} {between P : World start → Prop}

/-! ## Both banks -/

section

variable (banks : Vector BankCell 2) (bank other : Bank)

/-- The banks with a processor inside of one of them. -/
def enter : Vector BankCell 2 :=
  banks.set bank.index { cell banks bank with occupied := true } bank.index_lt

/-- The banks after a processor has left one of them with these bytes. -/
def leave (bytes : BankBytes) : Vector BankCell 2 :=
  banks.set bank.index ⟨bytes, false⟩ bank.index_lt

theorem cell_enter : cell (enter banks bank) other =
    if other = bank then { cell banks bank with occupied := true } else cell banks other :=
  GateArray.get_set_bank banks bank other _

theorem bytes_enter : (cell (enter banks bank) bank).bytes = (cell banks bank).bytes := by
  rw [cell_enter, if_pos rfl]

theorem cell_leave (bytes : BankBytes) :
    cell (leave banks bank bytes) other =
      if other = bank then ⟨bytes, false⟩ else cell banks other :=
  GateArray.get_set_bank banks bank other _

end

namespace Published

variable {c : Handshake.Course} {mode : MemMode} {banks : Vector BankCell 2} {paints : List Paint}
  (published : Published start c mode banks paints)
include published

/-- At rest the Main processor may be inside of its bank. -/
theorem enter (rest : c.stage = .rest) :
    Published start c mode (enter banks (Side.main.bank mode.select)) paints := by
  refine ⟨⟨published.returned, published.select, ?_⟩, published.count, published.rects, ?_⟩
  · rw [cell_enter, if_pos rfl]
    exact published.frame
  · intro bank elsewhere
    rw [cell_enter, if_neg fun same => elsewhere same rest]
    exact published.vacant bank elsewhere

/-- It leaves the bytes there as they are. -/
theorem leave {bytes : BankBytes}
    (same : (cell banks (Side.main.bank mode.select)).bytes = bytes) :
    Published start c mode (leave banks (Side.main.bank mode.select) bytes) paints := by
  refine ⟨⟨published.returned, published.select, ?_⟩, published.count, published.rects, ?_⟩
  · rw [cell_leave, if_pos rfl, ← same]
    exact published.frame
  · intro bank elsewhere
    rw [cell_leave]
    split
    · rfl
    · exact published.vacant bank elsewhere

/-- And then nobody is inside of any bank. -/
theorem vacant_leave (bytes : BankBytes) :
    Vacant (Handoff.leave banks (Side.main.bank mode.select) bytes) := by
  intro bank
  rw [cell_leave]
  split
  · rfl
  · rename_i ne
    exact published.vacant bank fun same => absurd same ne

end Published

/-! ## Bus cycles -/

namespace World

variable (w : World start)

theorem still (side : Side) : (rules start).Moves side w w := by
  refine ⟨link_rests side w.link, ?_⟩
  cases side with
  | main => exact ⟨rfl, .inl rfl, fun _ => rfl⟩
  | sub => exact ⟨List.prefix_rfl, fun _ => ⟨rfl, rfl, rfl⟩⟩

/-- The world with another memory mode, other banks and maybe one more frame, while a command is
carried out. -/
def painting (acked : w.link.course.stage = .acked) (mode : MemMode) (banks : Vector BankCell 2)
    (paints : List Paint) (small : ∀ paint ∈ paints, paint.rects ≤ Layout.maxDirtyRects)
    (quiet : mode.requesting = false) : World start :=
  { w with mode, banks, paints, small, quiet, published := fun other => absurd acked other }

theorem painting_moves (acked : w.link.course.stage = .acked) (mode : MemMode)
    (banks : Vector BankCell 2) {paints : List Paint}
    (small : ∀ paint ∈ paints, paint.rects ≤ Layout.maxDirtyRects)
    (quiet : mode.requesting = false) (more : w.paints <+: paints) :
    (rules start).Moves .sub w (w.painting acked mode banks paints small quiet) :=
  ⟨link_rests .sub w.link, more, fun other => absurd acked other⟩

/-- The world with other banks, at rest. -/
def viewing (banks : Vector BankCell 2)
    (published : Published start w.link.course w.mode banks w.paints) : World start :=
  { w with banks, published := fun _ => published }

theorem viewing_moves (rest : w.link.course.stage = .rest) (banks : Vector BankCell 2)
    (published : Published start w.link.course w.mode banks w.paints) :
    (rules start).Moves .main w (w.viewing banks published) :=
  ⟨link_rests .main w.link, rfl, .inl rfl, fun other => absurd rest other⟩

theorem perform_enter {bank : Bank} (vacant : (cell w.banks bank).occupied = false) :
    w.chip.perform side (.enterBank bank) = .ok ((cell w.banks bank).bytes,
      w.link.chip.withMemory w.mode (enter w.banks bank)) :=
  GateArray.perform_enterBank side vacant

theorem perform_leave (bank : Bank) (bytes : BankBytes) :
    w.chip.perform side (.leaveBank bank bytes) =
      .ok ((), w.link.chip.withMemory w.mode (leave w.banks bank bytes)) := by
  rfl

theorem perform_writeMode (value : UInt16) :
    w.chip.perform side (.writeWord Register.memMode value) =
      .ok ((), w.link.chip.withMemory
        (w.mode.write w.link.chip.automatic side value.toUInt8.toUInt16) w.banks) :=
  w.chip.perform_writeMode side value

end World

/-! ## Taking hold of a bank -/

theorem readMode_outline (rests : (rules start).Rests side between P) :
    (rules start).Outline side between (readWord Register.memMode) P
      fun word w => P w ∧ word = w.mode.word :=
  .cycle rests fun w h => ⟨_, w, w.chip.perform_readMode side, w.still side, h, rfl⟩

theorem swapRequested_outline (rests : (rules start).Rests side between P) :
    (rules start).Outline side between side.swapRequested P
      fun requested w => P w ∧ requested = w.mode.requested side := by
  refine (readMode_outline rests).bind fun word => .done ?_
  rintro w ⟨h, rfl⟩
  exact ⟨h, w.mode.word_swapBit side⟩

theorem currentBank_outline (rests : (rules start).Rests side between P) :
    (rules start).Outline side between side.currentBank P
      fun bank w => P w ∧ bank = side.bank w.mode.select := by
  refine (readMode_outline rests).bind fun word => .done ?_
  rintro w ⟨h, rfl⟩
  exact ⟨h, congrArg side.bank w.mode.word_select⟩

/-- A processor takes hold of the bank that it sees, if it has not asked for an exchange. -/
theorem acquire_outline (rests : (rules start).Rests side between P)
    (settled : ∀ w, P w → w.mode.requested side = false) {bank : Bank}
    (sees : ∀ w, P w → side.bank w.mode.select = bank) :
    (rules start).Outline side between (Grant.acquire side) P
      fun result w => result = .ok ⟨side, bank⟩ ∧ P w := by
  refine (swapRequested_outline rests).bind ?_
  rintro (_ | _)
  · refine ((currentBank_outline rests).strengthen fun w h => h.1).bind fun bank => .done ?_
    rintro w ⟨h, rfl⟩
    exact ⟨by rw [sees w h], h⟩
  · exact .done fun w h => absurd (h.2.trans (settled w h.1)) (by decide)

/-- Work on the bytes of a bank, by an assertion before it and one inside of the bank. -/
theorem withBytes_outline {α : Type} {grant : Grant} {work : BankBytes → Checked (α × BankBytes)}
    {inside : BankBytes → World start → Prop} {Q : α → World start → Prop}
    (before : (rules start).Rests side between P)
    (enters : (rules start).Performs side (.enterBank grant.bank) P inside)
    (rests : ∀ bytes, (rules start).Rests side between (inside bytes))
    (leaves : ∀ bytes, ∃ value bytes', work bytes = .ok (value, bytes') ∧
      (rules start).Performs side (.leaveBank grant.bank bytes') (inside bytes)
        fun _ => Q value) :
    (rules start).Outline side between (grant.withBytes work) P Q := by
  have enter : (rules start).Outline side between (cycle (.enterBank grant.bank)) P inside :=
    .cycle before enters
  refine enter.bind ?_
  intro bytes
  obtain ⟨value, bytes', eq, performs⟩ := leaves bytes
  show (rules start).Outline side between ((ofChecked (work bytes)).bind _) _ _
  rw [eq]
  have leave : (rules start).Outline side between (cycle (.leaveBank grant.bank bytes'))
      (inside bytes) fun _ => Q value :=
    .cycle (rests bytes) performs
  exact leave.bind fun _ => .done fun w h => h

end Handoff

end TwinDesk
