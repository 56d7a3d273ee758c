import Mathlib.Data.List.Induction
import Mathlib.Data.Nat.Bitwise
import TwinDesk.Machine.Bus
import TwinDesk.Proofs.Checked
import TwinDesk.Proofs.Hardware.Banks
import TwinDesk.Proofs.Hardware.Words

/-!
# Who wrote a register last

Two processors write the registers, by bytes and by words, and the chip looks after their exchange
requests from time to time. A byte that belongs to one of them holds what that one wrote to it last,
even where the other one has written next to it. The memory mode register belongs to both, bit by
bit, and the bank selection in it to the chip.

* `BusWrite.bytes`, `BusWrite.Trespasses` — a write as the bytes that it carries, and what the chip
  refuses.
* `GateArray.apply_ok_iff`, `GateArray.apply_error_iff` — a write stores its bytes, or is refused.
* `MemMode.word_assign`, `MemMode.foreign_write` — the bits of that register that a write changes.
* `GateArray.wordAt_apply`, `GateArray.mode_apply_onto` — a byte or a word written is a write of the
  word that it falls into, under a mask.
* `BusEvent`, `GateArray.run` — writes and steps of the chip, in any order.
* `GateArray.single_writer` — what the registers hold after any of them.
-/

namespace TwinDesk

/-! ## Writes -/

namespace BusWrite

/-- The bytes that a write carries, each with its offset; of a word the high byte comes first. -/
def bytes : BusWrite → List (UInt16 × UInt8)
  | byte _ offset value => [(offset, value)]
  | word _ offset value =>
    [(offset, GateArray.highByte value), (offset + 1, value.toUInt8)]

/-- A word that does not start at an even offset. -/
def Misaligned : BusWrite → Prop
  | byte .. => False
  | word _ offset _ => offset % 2 ≠ 0

instance : DecidablePred Misaligned
  | byte .. => inferInstanceAs (Decidable False)
  | word _ offset _ => inferInstanceAs (Decidable (offset % 2 ≠ 0))

/-- What a processor must not write: a byte of the other processor, a misaligned word, and what
lies outside of the register window. -/
def Trespasses (write : BusWrite) : Prop :=
  (∃ entry ∈ write.bytes, Register.owner entry.1 = .only write.side.peer) ∨ write.Misaligned ∨
    ∃ entry ∈ write.bytes, Register.windowSize ≤ entry.1.toNat

instance : DecidablePred Trespasses :=
  fun _ => inferInstanceAs (Decidable (_ ∨ _ ∨ _))

/-- What a write puts into the low byte of the memory mode register, where all of its bits are. -/
def mode? (write : BusWrite) : Option UInt8 :=
  write.bytes.lookup (Register.memMode + 1)

/-- Whether a write sets the exchange request of its processor. -/
def asks (write : BusWrite) : Bool :=
  write.mode?.any fun value => value.toUInt16 &&& write.side.swapBit != 0

end BusWrite

namespace Register

theorem mayWrite_eq_false_iff {side : Side} {offset : UInt16} :
    mayWrite side offset = false ↔ owner offset = .only side.peer := by
  unfold mayWrite
  cases owner offset with
  | only writer => cases writer <;> cases side <;> decide
  | _ => simp

/-- The bytes that belong to one processor are registers, and not the memory mode register. -/
theorem bounds_of_owner {side : Side} {offset : UInt16} (owned : owner offset = .only side) :
    offset.toNat < windowSize ∧ offset.toNat ≠ 2 ∧ offset.toNat ≠ 3 := by
  unfold owner windowSize at *
  grind

theorem even_iff {offset : UInt16} : offset % 2 = 0 ↔ offset.toNat % 2 = 0 := by
  rw [← UInt16.toNat_inj]
  simp

/-- An aligned word lies in the window with both of its bytes, or with none. -/
theorem toNat_add_one_of_even {offset : UInt16} (even : offset % 2 = 0) :
    (offset + 1).toNat = offset.toNat + 1 ∧ offset.toNat % 2 = 0 := by
  have parity := even_iff.mp even
  have range := offset.toNat_lt
  refine ⟨?_, parity⟩
  rw [UInt16.toNat_add]
  simp
  omega

end Register

namespace BusWrite

open Register

theorem trespasses_byte_iff {side : Side} {offset : UInt16} {value : UInt8} :
    (byte side offset value).Trespasses ↔
      mayWrite side offset = false ∨ windowSize ≤ offset.toNat := by
  simp [Trespasses, bytes, Misaligned, mayWrite_eq_false_iff, BusWrite.side]

theorem trespasses_word_iff {side : Side} {offset value : UInt16} :
    (word side offset value).Trespasses ↔
      offset % 2 ≠ 0 ∨ mayWrite side offset = false ∨ mayWrite side (offset + 1) = false ∨
        windowSize ≤ offset.toNat := by
  simp only [Trespasses, bytes, Misaligned, mayWrite_eq_false_iff, BusWrite.side]
  by_cases even : offset % 2 = 0
  · obtain ⟨next, parity⟩ := toNat_add_one_of_even even
    have window : windowSize = 0x68 := rfl
    simp only [List.mem_cons, List.not_mem_nil, or_false, exists_eq_or_imp, exists_eq_left, even,
      next]
    grind
  · simp [even]

theorem mode?_byte (side : Side) (offset : UInt16) (value : UInt8) :
    (byte side offset value).mode? = if offset.toNat = 3 then some value else none := by
  have lowByte : (memMode + 1 == offset) = decide (offset.toNat = 3) := by
    rw [Bool.eq_iff_iff, beq_iff_eq, decide_eq_true_iff, ← UInt16.toNat_inj, eq_comm]
    rfl
  rw [mode?, bytes, List.lookup_cons, lowByte]
  by_cases mode : offset.toNat = 3 <;> simp [mode]

/-- Of an aligned word, the low byte may be the one of the register. -/
theorem mode?_word (side : Side) {offset : UInt16} (even : offset % 2 = 0) (value : UInt16) :
    (word side offset value).mode? =
      if offset.toNat + 1 = 3 then some value.toUInt8 else none := by
  obtain ⟨next, parity⟩ := toNat_add_one_of_even even
  have high : memMode + 1 ≠ offset := by
    rintro rfl
    cases parity
  have low := mode?_byte side (offset + 1) value.toUInt8
  rw [next, mode?, bytes] at low
  rw [mode?, bytes, List.lookup_cons, beq_eq_false_iff_ne.mpr high]
  exact low

end BusWrite

namespace GateArray

variable {chip chip' : GateArray} {side : Side} {write : BusWrite}

/-- The chip carries out a write. -/
def apply (chip : GateArray) : BusWrite → Checked GateArray
  | .byte side offset value => chip.writeByte side offset value
  | .word side offset value => chip.writeWord side offset value

/-- The chip after some bytes are stored, one after the other. -/
def storeAll (chip : GateArray) (side : Side) (bytes : List (UInt16 × UInt8)) : GateArray :=
  bytes.foldl (fun chip entry => chip.store side entry.1.toNat entry.2) chip

theorem not_trespasses_of_apply (applied : chip.apply write = .ok chip') :
    ¬ write.Trespasses := by
  cases write with
  | byte side offset value =>
    rw [BusWrite.trespasses_byte_iff]
    unfold GateArray.apply writeByte at applied
    grind
  | word side offset value =>
    rw [BusWrite.trespasses_word_iff]
    unfold GateArray.apply writeWord at applied
    grind

theorem apply_of_not_trespasses (allowed : ¬ write.Trespasses) :
    chip.apply write = .ok (chip.storeAll write.side write.bytes) := by
  cases write with
  | byte side offset value =>
    simp only [BusWrite.trespasses_byte_iff, not_or, Bool.not_eq_false, Nat.not_le] at allowed
    simp [GateArray.apply, writeByte, allowed, storeAll, BusWrite.bytes, BusWrite.side]
  | word side offset value =>
    simp only [BusWrite.trespasses_word_iff, not_or, Bool.not_eq_false, Nat.not_le, ne_eq,
      not_not] at allowed
    have next := (Register.toNat_add_one_of_even allowed.1).1
    simp [GateArray.apply, writeWord, allowed, storeAll, BusWrite.bytes, BusWrite.side, next]

/-- A write that does not trespass stores its bytes. -/
theorem apply_ok_iff : chip.apply write = .ok chip' ↔
    ¬ write.Trespasses ∧ chip' = chip.storeAll write.side write.bytes := by
  constructor
  · intro applied
    have allowed := not_trespasses_of_apply applied
    rw [apply_of_not_trespasses allowed] at applied
    exact ⟨allowed, (Except.ok.inj applied).symm⟩
  · rintro ⟨allowed, rfl⟩
    exact apply_of_not_trespasses allowed

/-- All other writes are refused. -/
theorem apply_error_iff : (∃ fault, chip.apply write = .error fault) ↔ write.Trespasses := by
  cases applied : chip.apply write with
  | error fault =>
    refine iff_of_true ⟨fault, rfl⟩ ?_
    by_contra allowed
    cases applied.symm.trans (apply_of_not_trespasses allowed)
  | ok chip' => simp [not_trespasses_of_apply applied]

/-! ## Bytes of one processor -/

/-- The memory mode register takes part in no other byte. -/
theorem byteAt_store_of_ne_mode {offset other : Nat} (ne : other ≠ offset) (plain : other ≠ 3)
    (value : UInt8) : (chip.store side offset value).byteAt other = chip.byteAt other := by
  by_cases mode : offset = 3
  · simp [store, byteAt, mode, plain]
  · exact byteAt_store_of_ne chip side value ne mode

/-- Of several bytes for one register the last one stays. -/
theorem byteAt_storeAll {owner : Side} {offset : UInt16}
    (owned : Register.owner offset = .only owner) (bytes : List (UInt16 × UInt8)) :
    (chip.storeAll side bytes).byteAt offset.toNat =
      (bytes.reverse.lookup offset).getD (chip.byteAt offset.toNat) := by
  obtain ⟨window, low, high⟩ := Register.bounds_of_owner owned
  induction bytes using List.reverseRecOn with
  | nil => rfl
  | append_singleton bytes entry ih =>
    obtain ⟨at', value⟩ := entry
    have last : chip.storeAll side (bytes ++ [(at', value)]) =
        (chip.storeAll side bytes).store side at'.toNat value := by
      simp [storeAll]
    rw [last, List.reverse_append, List.reverse_singleton, List.singleton_append,
      List.lookup_cons]
    by_cases same : offset = at'
    · subst same
      simp [byteAt_store_same _ _ _ window low high]
    · have ne : offset.toNat ≠ at'.toNat := fun eq => same (UInt16.toNat.inj eq)
      rw [byteAt_store_of_ne_mode ne high, ih, beq_eq_false_iff_ne.mpr same]

end GateArray

/-! ## Bits of the memory mode register -/

namespace MemMode

variable {mode : MemMode} {side : Side} {value : UInt16}

/-- The bits of the register that are neither a processor's own nor the selection. -/
def foreign (mode : MemMode) (side : Side) : UInt16 :=
  mode.word &&& ~~~(side.modeWritable ||| Register.modeSelect)

/-- Of a single bit, a word has nothing or all. -/
theorem and_bit_cases (word bit : UInt16) {index : Nat} (single : bit.toNat = 2 ^ index) :
    word &&& bit = 0 ∨ word &&& bit = bit := by
  have value := Nat.and_two_pow word.toNat index
  rw [← single, ← UInt16.toNat_and] at value
  cases set : word.toNat.testBit index with
  | true =>
    right
    apply UInt16.toNat.inj
    rw [value, set]
    simp
  | false =>
    left
    apply UInt16.toNat.inj
    rw [value, set]
    simp

/-- A write replaces the bits under the writer's mask. -/
theorem word_assign : (mode.assign side value).word =
    (mode.word &&& ~~~side.modeWritable) ||| (value &&& side.modeWritable) := by
  obtain ⟨returning, requesting, twoBanks, select⟩ := mode
  cases side with
  | main =>
    have masked : value &&& Side.main.modeWritable =
        (value &&& Register.modeRequest) ||| (value &&& Register.modeTwoBanks) := by
      apply UInt16.toNat.inj
      simp only [Side.modeWritable, UInt16.toNat_and, UInt16.toNat_or]
      exact Nat.and_or_distrib_left _ _ _
    have request : value &&& Register.modeRequest = 0 ∨ _ :=
      and_bit_cases value _ (show _ = 2 ^ 1 from rfl)
    have banks : value &&& Register.modeTwoBanks = 0 ∨ _ :=
      and_bit_cases value _ (show _ = 2 ^ 2 from rfl)
    rw [masked, assign]
    rcases request with request | request <;> rcases banks with banks | banks <;>
      rw [request, banks] <;> revert returning requesting twoBanks select <;> decide
  | sub =>
    have request : value &&& Register.modeReturn = 0 ∨ _ :=
      and_bit_cases value _ (show _ = 2 ^ 0 from rfl)
    rw [assign, Side.modeWritable]
    rcases request with request | request <;> rw [request] <;>
      revert returning requesting twoBanks select <;> decide

/-- All bits of the register that a processor may write lie in its low byte. -/
theorem assign_toUInt8 : mode.assign side value.toUInt8.toUInt16 = mode.assign side value := by
  have low (bit : UInt16) (below : (0x00FF : UInt16) &&& bit = bit) :
      value.toUInt8.toUInt16 &&& bit = value &&& bit := by
    rw [← GateArray.join_and_low (GateArray.highByte value), GateArray.join_split,
      UInt16.and_assoc, below]
  cases side with
  | main => rw [assign, assign, low _ (by decide), low _ (by decide)]
  | sub => rw [assign, assign, low _ (by decide)]

theorem write_toUInt8 (automatic : Bool) :
    mode.write automatic side value.toUInt8.toUInt16 = mode.write automatic side value := by
  rw [write, write, assign_toUInt8]

/-- A processor that writes what it read there changes nothing. -/
theorem write_word (automatic : Bool) : mode.write automatic side mode.word = mode := by
  obtain ⟨returning, requesting, twoBanks, select⟩ := mode
  cases side <;> revert automatic returning requesting twoBanks select <;> decide

theorem foreign_assign : (mode.assign side value).foreign side = mode.foreign side := by
  rw [foreign, word_assign, foreign]
  apply UInt16.eq_of_toBitVec_eq
  simp only [UInt16.toBitVec_and, UInt16.toBitVec_or, UInt16.toBitVec_not]
  ext bit
  simp only [BitVec.getElem_and, BitVec.getElem_or, BitVec.getElem_not]
  grind

theorem foreign_withdraw : (mode.withdraw side).foreign side = mode.foreign side := by
  obtain ⟨returning, requesting, twoBanks, select⟩ := mode
  cases side <;> revert returning requesting twoBanks select <;> decide

theorem foreign_flip : mode.flip.foreign side = mode.foreign side := by
  obtain ⟨returning, requesting, twoBanks, select⟩ := mode
  cases side <;> revert returning requesting twoBanks select <;> decide

/-- A processor's write leaves the other processor's bits alone. -/
theorem foreign_write (automatic : Bool) :
    (mode.write automatic side value).foreign side = mode.foreign side := by
  unfold write
  dsimp only
  split
  · rw [foreign_flip, foreign_withdraw, foreign_assign]
  · exact foreign_assign

/-- Where exchanges are automatic, a write that asks for one gets it, and nothing waits. -/
theorem write_automatic (settled : mode.pending = false) :
    (mode.write true side value).pending = false ∧
      (mode.write true side value).select = (mode.select ^^ (value &&& side.swapBit != 0)) := by
  obtain ⟨returning, requesting, twoBanks, select⟩ := mode
  obtain ⟨rfl, rfl⟩ := Bool.or_eq_false_iff.mp settled
  cases side with
  | main =>
    cases asks : value &&& Register.modeRequest != 0 <;>
      simp [write, assign, requested, withdraw, flip, pending, Side.swapBit, asks]
  | sub =>
    cases asks : value &&& Register.modeReturn != 0 <;>
      simp [write, assign, requested, withdraw, flip, pending, Side.swapBit, asks]

end MemMode

namespace GateArray

variable {chip chip' : GateArray} {side : Side} {write : BusWrite}

theorem mode_store (offset : Nat) (value : UInt8) : (chip.store side offset value).mode =
    if offset = 3 then chip.mode.write chip.automatic side value.toUInt16 else chip.mode := by
  unfold store
  grind

@[simp] theorem automatic_store (offset : Nat) (value : UInt8) :
    (chip.store side offset value).automatic = chip.automatic := by
  unfold store
  grind

/-- A write reaches the memory mode register through its low byte, if it carries that one. -/
theorem mode_apply (applied : chip.apply write = .ok chip') :
    chip'.automatic = chip.automatic ∧ chip'.mode = write.mode?.elim chip.mode fun value =>
      chip.mode.write chip.automatic write.side value.toUInt16 := by
  obtain ⟨allowed, rfl⟩ := apply_ok_iff.mp applied
  cases write with
  | byte side offset value =>
    simp only [storeAll, BusWrite.mode?_byte, BusWrite.bytes, BusWrite.side, List.foldl_cons,
      List.foldl_nil, mode_store, automatic_store, true_and]
    split <;> rfl
  | word side offset value =>
    rw [BusWrite.trespasses_word_iff, not_or, not_not] at allowed
    obtain ⟨next, parity⟩ := Register.toNat_add_one_of_even allowed.1
    have high : offset.toNat ≠ 3 := by omega
    simp only [storeAll, BusWrite.mode?_word side allowed.1, BusWrite.bytes, BusWrite.side,
      List.foldl_cons, List.foldl_nil, mode_store, automatic_store, next, if_neg high, true_and]
    split <;> rfl

end GateArray

/-! ## Writes under a mask -/

namespace BusWrite

/-- The offset of the word that a write falls into. -/
def place : BusWrite → UInt16
  | byte _ offset _ => GateArray.even offset
  | word _ offset _ => offset

/-- The bits of that word which a write reaches: one half of it, or all of it. -/
def mask : BusWrite → UInt16
  | byte _ offset _ => if offset % 2 = 0 then 0xFF00 else 0x00FF
  | word .. => 0xFFFF

/-- What a write carries, moved to its place in the word. -/
def shifted : BusWrite → UInt16
  | byte _ offset value => if offset % 2 = 0 then value.toUInt16 <<< 8 else value.toUInt16
  | word _ _ value => value

/-- The word after a write, if it was `old` before. -/
def onto (write : BusWrite) (old : UInt16) : UInt16 :=
  (old &&& ~~~write.mask) ||| (write.shifted &&& write.mask)

open GateArray

theorem onto_high (side : Side) {offset : UInt16} (value high low : UInt8)
    (even : offset % 2 = 0) :
    (byte side offset value).onto (join high low) = join value low := by
  have carried := join_and_high value 0
  rw [join_zero_low] at carried
  rw [onto, mask, shifted, if_pos even, if_pos even, carried]
  show (join high low &&& 0x00FF) ||| _ = _
  rw [join_and_low, UInt16.or_comm]
  rfl

theorem onto_low (side : Side) {offset : UInt16} (value high low : UInt8)
    (odd : offset % 2 ≠ 0) :
    (byte side offset value).onto (join high low) = join high value := by
  have carried := join_and_low 0 value
  rw [join_zero_high] at carried
  rw [onto, mask, shifted, if_neg odd, if_neg odd, carried]
  show (join high low &&& (0xFF00 : UInt16)) ||| _ = _
  rw [join_and_high]
  rfl

theorem onto_word (side : Side) (offset value old : UInt16) :
    (word side offset value).onto old = value := by
  rw [onto, mask, shifted]
  show (old &&& 0) ||| (value &&& -1) = value
  simp

end BusWrite

/-- Of the memory mode register, a write reaches the bits that its mask and its writer allow. -/
theorem MemMode.word_assign_onto (mode : MemMode) (write : BusWrite) :
    (mode.assign write.side (write.onto mode.word)).word =
      (mode.word &&& ~~~(write.mask &&& write.side.modeWritable)) |||
        (write.shifted &&& (write.mask &&& write.side.modeWritable)) := by
  rw [word_assign, BusWrite.onto]
  apply UInt16.eq_of_toBitVec_eq
  simp only [UInt16.toBitVec_and, UInt16.toBitVec_or, UInt16.toBitVec_not]
  ext bit
  simp only [BitVec.getElem_and, BitVec.getElem_or, BitVec.getElem_not]
  grind

namespace GateArray

variable {chip chip' : GateArray} {side : Side} {write : BusWrite}

/-- A byte takes its half of the word that it lies in. -/
theorem wordAt_store {at' offset : Nat} (window : at' < Register.windowSize)
    (even : offset % 2 = 0) (plain : offset ≠ 2) (value : UInt8) :
    (chip.store side at' value).wordAt offset =
      if at' = offset then join value (chip.byteAt (offset + 1))
      else if at' = offset + 1 then join (chip.byteAt offset) value
      else chip.wordAt offset := by
  have other {k : Nat} (ne : k ≠ at') (low : k ≠ 3) :
      (chip.store side at' value).byteAt k = chip.byteAt k :=
    byteAt_store_of_ne_mode ne low value
  unfold wordAt
  split_ifs with high low
  · subst high
    rw [byteAt_store_same _ _ _ window plain (by omega), other (by omega) (by omega)]
  · subst low
    rw [byteAt_store_same _ _ _ window (by omega) (by omega), other (by omega) (by omega)]
  · rw [other (by omega) (by omega), other (by omega) (by omega)]

/-- **Masked writes**: a write that the chip carries out replaces the bits under its mask in the
word that it falls into, and leaves all other words alone. -/
theorem wordAt_apply (applied : chip.apply write = .ok chip') {offset : Nat}
    (even : offset % 2 = 0) (plain : offset ≠ 2) :
    chip'.wordAt offset =
      if write.place.toNat = offset then write.onto (chip.wordAt offset)
      else chip.wordAt offset := by
  cases write with
  | byte side at' value =>
    obtain ⟨allowed, -⟩ := apply_ok_iff.mp applied
    obtain rfl := eq_store_of_writeByte applied
    rw [BusWrite.trespasses_byte_iff, not_or, Nat.not_le] at allowed
    have place : (BusWrite.byte side at' value).place.toNat = 2 * (at'.toNat / 2) := toNat_even at'
    rw [wordAt_store allowed.2 even plain, place]
    split_ifs with high low there there there
    · exact (BusWrite.onto_high side value _ _ (Register.even_iff.mpr (by omega))).symm
    · omega
    · exact (BusWrite.onto_low side value _ _ (mt Register.even_iff.mp (by omega))).symm
    · omega
    · omega
    · rfl
  | word side at' value =>
    obtain ⟨allowed, -⟩ := apply_ok_iff.mp applied
    obtain rfl := eq_store_of_writeWord applied
    rw [BusWrite.trespasses_word_iff, not_or, not_not] at allowed
    obtain ⟨next, parity⟩ := Register.toNat_add_one_of_even allowed.1
    have window : at'.toNat + 1 < Register.windowSize := by
      unfold Register.windowSize at allowed ⊢
      omega
    have place : (BusWrite.word side at' value).place.toNat = at'.toNat := rfl
    -- its low byte is stored last, beside the high byte
    rw [wordAt_store window even plain, BusWrite.onto_word, place, if_neg (by omega)]
    by_cases there : at'.toNat = offset
    · rw [if_pos (congrArg Nat.succ there), if_pos there, there,
        byteAt_store_same _ _ _ (by omega) plain (by omega), join_split]
    · rw [if_neg (mt Nat.succ.inj there), if_neg there, wordAt_store (by omega) even plain,
        if_neg there, if_neg (by omega)]

/-- The memory mode register takes the masked word, as far as it lets the writer. -/
theorem mode_apply_onto (applied : chip.apply write = .ok chip') :
    chip'.mode =
      if write.place = Register.memMode then
        chip.mode.write chip.automatic write.side (write.onto chip.mode.word)
      else chip.mode := by
  obtain ⟨-, mode⟩ := mode_apply applied
  rw [mode]
  cases write with
  | byte side at' value =>
    have place : (BusWrite.byte side at' value).place = Register.memMode ↔
        at'.toNat = 2 ∨ at'.toNat = 3 := by
      rw [← UInt16.toNat_inj, BusWrite.place, toNat_even]
      show _ = 2 ↔ _
      omega
    rw [BusWrite.mode?_byte, BusWrite.side, MemMode.word]
    split_ifs with low there there
    · rw [BusWrite.onto_low side value _ _ (mt Register.even_iff.mp (by omega)), join_zero_high]
      rfl
    · exact absurd (place.mpr (.inr low)) there
    · have high := (place.mp there).resolve_right low
      -- the high byte of the register is not kept
      rw [BusWrite.onto_high side value _ _ (Register.even_iff.mpr (by omega)),
        ← MemMode.write_toUInt8, toUInt8_join, ← join_zero_high]
      exact (MemMode.write_word chip.automatic).symm
    · rfl
  | word side at' value =>
    obtain ⟨allowed, -⟩ := apply_ok_iff.mp applied
    rw [BusWrite.trespasses_word_iff, not_or, not_not] at allowed
    have place : (BusWrite.word side at' value).place = Register.memMode ↔
        at'.toNat + 1 = 3 := by
      rw [← UInt16.toNat_inj, BusWrite.place]
      show _ = 2 ↔ _
      omega
    rw [BusWrite.mode?_word side allowed.1, BusWrite.onto_word, if_congr place rfl rfl]
    split_ifs
    · exact MemMode.write_toUInt8 chip.automatic
    · rfl

end GateArray

/-! ## Writes and steps of the chip -/

/-- What happens to the registers. -/
inductive BusEvent where
  | write (write : BusWrite)
  /-- The chip looks after the exchange requests that wait. -/
  | stepHardware

namespace BusEvent

/-- The chip after an event. -/
def run (chip : GateArray) : BusEvent → Checked GateArray
  | .write made => chip.apply made
  | .stepHardware => .ok chip.stepHardware.2

/-- The bytes that a processor writes. -/
def bytesBy (side : Side) : BusEvent → List (UInt16 × UInt8)
  | .write made => if made.side = side then made.bytes else []
  | .stepHardware => []

/-- What a processor wrote last to the byte at an offset, if it ever wrote there. -/
def lastWritten? (side : Side) (offset : UInt16) (events : List BusEvent) : Option UInt8 :=
  (events.flatMap (bytesBy side)).reverse.lookup offset

theorem lastWritten?_cons (side : Side) (offset : UInt16) (event : BusEvent)
    (events : List BusEvent) : lastWritten? side offset (event :: events) =
      (lastWritten? side offset events).or ((event.bytesBy side).reverse.lookup offset) := by
  rw [lastWritten?, List.flatMap_cons, List.reverse_append, List.lookup_append]
  rfl

end BusEvent

namespace GateArray

variable {chip chip' : GateArray} {event : BusEvent} {events : List BusEvent}

/-- The chip after some events. -/
def run (chip : GateArray) (events : List BusEvent) : Checked GateArray :=
  events.foldlM BusEvent.run chip

theorem run_cons_eq_ok_iff : chip.run (event :: events) = .ok chip' ↔
    ∃ next, event.run chip = .ok next ∧ next.run events = .ok chip' := by
  rw [run, List.foldlM_cons, Checked.bind_eq_ok_iff]
  rfl

/-- Events go through unless a write among them trespasses. -/
theorem exists_run_iff : (∃ chip', chip.run events = .ok chip') ↔
    ∀ write, .write write ∈ events → ¬ write.Trespasses := by
  induction events generalizing chip with
  | nil => simp [run, pure, Except.pure]
  | cons event rest ih =>
    simp only [run_cons_eq_ok_iff, List.mem_cons]
    cases event with
    | stepHardware =>
      have stepped : BusEvent.stepHardware.run chip = .ok chip.stepHardware.2 := rfl
      simp [stepped, ih]
    | write write =>
      have applied : (BusEvent.write write).run chip = chip.apply write := rfl
      simp [applied, apply_ok_iff, ih]

/-- A byte of one processor holds what that one wrote to it last. -/
theorem byteAt_event {owner : Side} {offset : UInt16}
    (owned : Register.owner offset = .only owner) (ran : event.run chip = .ok chip') :
    chip'.byteAt offset.toNat =
      ((event.bytesBy owner).reverse.lookup offset).getD (chip.byteAt offset.toNat) := by
  obtain ⟨window, low, high⟩ := Register.bounds_of_owner owned
  cases event with
  | stepHardware =>
    cases ran
    unfold stepHardware
    split <;> simp [BusEvent.bytesBy, byteAt, low, high]
  | write write =>
    obtain ⟨allowed, rfl⟩ := apply_ok_iff.mp ran
    rw [byteAt_storeAll owned, BusEvent.bytesBy]
    split
    · rfl
    · rename_i foreign
      -- the other processor must not touch the byte, so that it is not among those that it writes
      have absent : write.bytes.reverse.lookup offset = none := by
        rw [List.lookup_eq_none_iff]
        intro entry mem
        apply bne_iff_ne.mpr
        intro same
        have peer : owner = write.side.peer :=
          (Side.eq_or_eq_peer owner write.side).resolve_left (Ne.symm foreign)
        exact allowed (.inl ⟨entry, List.mem_reverse.mp mem, by rw [← same, owned, peer]⟩)
      rw [absent]
      rfl

theorem byteAt_run {owner : Side} {offset : UInt16}
    (owned : Register.owner offset = .only owner) (ran : chip.run events = .ok chip') :
    chip'.byteAt offset.toNat =
      (BusEvent.lastWritten? owner offset events).getD (chip.byteAt offset.toNat) := by
  induction events generalizing chip with
  | nil =>
    cases ran
    rfl
  | cons event rest ih =>
    obtain ⟨next, first, later⟩ := run_cons_eq_ok_iff.mp ran
    rw [ih later, byteAt_event owned first, BusEvent.lastWritten?_cons]
    cases BusEvent.lastWritten? owner offset rest <;> rfl

/-! ## The bank selection -/

/-- Only a chip that exchanges banks at once lets a write change the selection. -/
theorem select_apply_manual (manual : chip.automatic = false)
    (applied : chip.apply write = .ok chip') : chip'.select = chip.select := by
  obtain ⟨-, mode⟩ := mode_apply applied
  rw [select, select, mode, manual]
  cases write.mode? with
  | none => rfl
  | some value => exact chip.mode.select_assign write.side _

/-- Such a chip makes the exchange that a write asks for, so that none waits. -/
theorem select_apply_automatic (automatic : chip.automatic = true)
    (settled : chip.swapPending = false) (applied : chip.apply write = .ok chip') :
    chip'.swapPending = false ∧ chip'.select = (chip.select ^^ write.asks) := by
  obtain ⟨-, mode⟩ := mode_apply applied
  rw [swapPending, select, select, mode, automatic, BusWrite.asks]
  cases write.mode? with
  | none => exact ⟨settled, (Bool.xor_false _).symm⟩
  | some value => exact MemMode.write_automatic settled

/-- The chip makes one exchange for all requests that wait, and tells whether it made one. -/
theorem select_stepHardware : chip.stepHardware.1 = chip.swapPending ∧
    chip.stepHardware.2.select = (chip.select ^^ chip.swapPending) ∧
    chip.stepHardware.2.swapPending = false := by
  unfold stepHardware swapPending select
  cases pending : chip.mode.pending with
  | true => exact ⟨rfl, (Bool.xor_true _).symm, rfl⟩
  | false => exact ⟨rfl, (Bool.xor_false _).symm, pending⟩

/-- The wiring of the chip, which nothing changes; nothing waits where exchanges are automatic. -/
def Settled (automatic : Bool) (chip : GateArray) : Prop :=
  chip.automatic = automatic ∧ (automatic = true → chip.swapPending = false)

theorem Settled.after_event {automatic : Bool} (settled : chip.Settled automatic)
    (ran : event.run chip = .ok chip') : chip'.Settled automatic := by
  obtain ⟨rfl, idle⟩ := settled
  cases event with
  | stepHardware =>
    cases ran
    constructor
    · unfold stepHardware
      split <;> rfl
    · intro automatic
      exact select_stepHardware.2.2
  | write write =>
    refine ⟨(mode_apply ran).1, ?_⟩
    intro automatic
    exact (select_apply_automatic automatic (idle automatic) ran).1

theorem Settled.after_run {automatic : Bool} (settled : chip.Settled automatic)
    (ran : chip.run events = .ok chip') : chip'.Settled automatic := by
  induction events generalizing chip with
  | nil =>
    cases ran
    exact settled
  | cons event rest ih =>
    obtain ⟨next, first, later⟩ := run_cons_eq_ok_iff.mp ran
    exact ih (settled.after_event first) later

/-! ## Single writers -/

/-- What is true of the registers after `events`. -/
structure SingleWriter (automatic : Bool) (events : List BusEvent) (chip : GateArray) :
    Prop where
  /-- The chip refuses just the writes that trespass. -/
  refused : ∀ write, (∃ fault, chip.apply write = .error fault) ↔ write.Trespasses
  /-- A byte that belongs to a processor holds what that one wrote to it last. -/
  last : ∀ side offset, Register.owner offset = .only side →
    chip.readByte offset = .ok ((BusEvent.lastWritten? side offset events).getD 0)
  /-- A write reaches only the writer's own bits of the memory mode register, and the selection. -/
  foreign : ∀ write chip', chip.apply write = .ok chip' →
    chip'.mode.foreign write.side = chip.mode.foreign write.side
  /-- Without automatic exchanges, the selection changes with a step of the chip that finds a
  request, and with nothing else. -/
  manual : automatic = false →
    (∀ write chip', chip.apply write = .ok chip' → chip'.select = chip.select) ∧
    chip.stepHardware.1 = chip.swapPending ∧
    chip.stepHardware.2.select = (chip.select ^^ chip.swapPending)
  /-- With them no request waits, and the selection changes with a write that makes one. -/
  automatic : automatic = true →
    chip.swapPending = false ∧
    (∀ write chip', chip.apply write = .ok chip' →
      chip'.select = (chip.select ^^ write.asks)) ∧
    chip.stepHardware.2.select = chip.select

/-- **Single writers**: writes of both processors and steps of the chip, in any order, go through
unless a write trespasses; and then every register byte of a processor holds what that one wrote
to it last, and a bit of the memory mode register changes only by its writer or by the chip. -/
theorem single_writer (automatic : Bool) (events : List BusEvent) :
    ((∃ chip, (initial automatic).run events = .ok chip) ↔
      ∀ write, .write write ∈ events → ¬ write.Trespasses) ∧
    ∀ chip, (initial automatic).run events = .ok chip → SingleWriter automatic events chip := by
  refine ⟨exists_run_iff, ?_⟩
  intro chip ran
  have begins : (initial automatic).Settled automatic := ⟨rfl, fun _ => rfl⟩
  obtain ⟨wiring, idle⟩ := begins.after_run ran
  constructor
  case refused => exact fun write => apply_error_iff
  case last =>
    intro side offset owned
    obtain ⟨window, low, high⟩ := Register.bounds_of_owner owned
    have zero : (initial automatic).byteAt offset.toNat = 0 := by
      simp [initial, byteAt, low, high]
    rw [readByte, if_pos window, byteAt_run owned ran, zero]
  case foreign =>
    intro write chip' applied
    rw [(mode_apply applied).2]
    cases write.mode? with
    | none => rfl
    | some value => exact MemMode.foreign_write chip.automatic
  case manual =>
    intro manual
    refine ⟨?_, select_stepHardware.1, select_stepHardware.2.1⟩
    intro write chip' applied
    exact select_apply_manual (wiring.trans manual) applied
  case automatic =>
    intro automatic
    have settled := idle automatic
    refine ⟨settled, ?_, ?_⟩
    · intro write chip' applied
      exact (select_apply_automatic (wiring.trans automatic) settled applied).2
    · rw [select_stepHardware.2.1, settled, Bool.xor_false]

/-- The two flags lie in one word, and neither processor spoils the flag of the other one. -/
theorem single_writer_flags :
    ∃ chip, (initial false).run [.write (.byte .main 0x0E 0x81), .write (.byte .sub 0x0F 0x42),
        .write (.word .main 0x02 0x0002), .stepHardware, .write (.byte .main 0x0E 0x82)] = .ok chip ∧
      chip.readByte 0x0E = .ok 0x82 ∧ chip.readByte 0x0F = .ok 0x42 ∧
      ∃ fault, chip.apply (.word .main 0x0E 0x8200) = .error fault := by
  obtain ⟨completes, holds⟩ := single_writer false [.write (.byte .main 0x0E 0x81),
    .write (.byte .sub 0x0F 0x42), .write (.word .main 0x02 0x0002), .stepHardware,
    .write (.byte .main 0x0E 0x82)]
  obtain ⟨chip, ran⟩ := completes.mpr (by
    simp only [List.mem_cons, List.not_mem_nil, BusEvent.write.injEq, reduceCtorEq, or_false,
      false_or, forall_eq_or_imp, forall_eq]
    decide)
  have registers := holds chip ran
  refine ⟨chip, ran, registers.last .main 0x0E rfl, registers.last .sub 0x0F rfl, ?_⟩
  exact (registers.refused _).mpr (by decide)

end GateArray

end TwinDesk
