import Mathlib.Tactic.IntervalCases
import TwinDesk.Link.Program
import TwinDesk.Protocol.Command
import TwinDesk.Protocol.Status

/-!
# The registers that each processor owns

The chip as the two processors use it: two flag bytes, the parameter words, which only the Main
processor writes, and the result words, the memory mode and the banks, which only the Sub processor
touches while commands are carried out.

* `GateArray.join_split` — a word survives being stored as two bytes.
* `GateArray.join_and_low`, `GateArray.join_and_high` — the halves of a word under a mask.
* `GateArray.perform_setFlag`, `GateArray.perform_writeParam`, `GateArray.perform_writeResult` —
  what the writes of the link do.
* `GateArray.params_setWord`, `GateArray.workspace_setResult` — what a stored word changes; the
  lemmas beside them say what it leaves alone.
-/

namespace TwinDesk

/-- The parameters with word `index` replaced. -/
def Params.set (params : Params) (index : Nat) (value : UInt16) : Params :=
  match index with
  | 0 => { params with word0 := value }
  | 1 => { params with word1 := value }
  | 2 => { params with word2 := value }
  | 3 => { params with word3 := value }
  | _ => params

/-- Parameter word `index`. -/
def Params.word (params : Params) (index : Nat) : UInt16 :=
  match index with
  | 0 => params.word0
  | 1 => params.word1
  | 2 => params.word2
  | _ => params.word3

/-- Result word 0, the one that tells how a command on windows went. -/
def Results.first (words : Results) : UInt16 :=
  words.head

namespace GateArray

/-- The word at an even offset, whoever asks. -/
def wordAt (chip : GateArray) (offset : Nat) : UInt16 :=
  join (chip.byteAt offset) (chip.byteAt (offset + 1))

/-- The parameter words. -/
def params (chip : GateArray) : Params :=
  ⟨chip.wordAt 0x10, chip.wordAt 0x12, chip.wordAt 0x14, chip.wordAt 0x16⟩

/-- The result words. -/
def results (chip : GateArray) : Results :=
  Vector.ofFn fun index => chip.wordAt (0x20 + 2 * index)

/-- The flag byte that a processor writes. -/
def flag (chip : GateArray) (side : Side) : UInt8 :=
  chip.byteAt side.flag.toNat

/-- The chip after a processor has stored a word. -/
def setWord (chip : GateArray) (side : Side) (offset : Nat) (value : UInt16) : GateArray :=
  (chip.store side offset (highByte value)).store side (offset + 1) value.toUInt8

/-- What the Sub processor has to itself while it carries a command out. -/
structure Workspace where
  results : Results
  mode : MemMode
  banks : Vector BankCell 2
  automatic : Bool

/-- The part of the chip that only the Sub processor touches. -/
def workspace (chip : GateArray) : Workspace :=
  ⟨chip.results, chip.mode, chip.banks, chip.automatic⟩

/-! ## Words and bytes -/

theorem join_split (word : UInt16) : join (highByte word) word.toUInt8 = word := by
  apply UInt16.toNat.inj
  have range : word.toNat < 65536 := word.toNat_lt
  have low : word.toNat % 256 < 2 ^ 8 := Nat.mod_lt _ (by decide)
  have high : (word.toNat / 256 % 256) <<< 8 % 65536 = (word.toNat / 256 % 256) <<< 8 := by
    rw [Nat.shiftLeft_eq]
    omega
  simp only [join, highByte, UInt16.toNat_or, UInt16.toNat_shiftLeft, UInt8.toNat_toUInt16,
    UInt16.toNat_toUInt8, UInt16.toNat_shiftRight]
  show ((word.toNat >>> 8) % 256) <<< 8 % 65536 ||| word.toNat % 256 = word.toNat
  rw [Nat.shiftRight_eq_div_pow, high, ← Nat.shiftLeft_add_eq_or_of_lt low, Nat.shiftLeft_eq]
  omega

theorem toNat_join (high low : UInt8) :
    (join high low).toNat = high.toNat * 256 + low.toNat := by
  have highRange : high.toNat < 256 := high.toNat_lt
  have lowRange : low.toNat < 2 ^ 8 := low.toNat_lt
  simp only [join, UInt16.toNat_or, UInt16.toNat_shiftLeft, UInt8.toNat_toUInt16]
  show (high.toNat <<< 8) % 65536 ||| low.toNat = _
  have fits : (high.toNat <<< 8) % 65536 = high.toNat <<< 8 := by
    rw [Nat.shiftLeft_eq]
    omega
  rw [fits, ← Nat.shiftLeft_add_eq_or_of_lt lowRange, Nat.shiftLeft_eq]

@[simp] theorem highByte_join (high low : UInt8) : highByte (join high low) = high := by
  apply UInt8.toNat.inj
  have highRange : high.toNat < 256 := high.toNat_lt
  have lowRange : low.toNat < 256 := low.toNat_lt
  rw [highByte, UInt16.toNat_toUInt8, UInt16.toNat_shiftRight, toNat_join]
  show (high.toNat * 256 + low.toNat) >>> 8 % 256 = high.toNat
  rw [Nat.shiftRight_eq_div_pow]
  omega

@[simp] theorem toUInt8_join (high low : UInt8) : (join high low).toUInt8 = low := by
  apply UInt8.toNat.inj
  have lowRange : low.toNat < 256 := low.toNat_lt
  rw [UInt16.toNat_toUInt8, toNat_join]
  omega

theorem join_and_low (high low : UInt8) : join high low &&& 0x00FF = low.toUInt16 := by
  apply UInt16.toNat.inj
  have lowRange : low.toNat < 256 := low.toNat_lt
  rw [UInt16.toNat_and, toNat_join, UInt8.toNat_toUInt16]
  show _ &&& 2 ^ 8 - 1 = _
  rw [Nat.and_two_pow_sub_one_eq_mod]
  omega

theorem join_and_high (high low : UInt8) :
    join high low &&& (0xFF00 : UInt16) = high.toUInt16 <<< 8 := by
  apply UInt16.eq_of_toBitVec_eq
  ext bit range
  have upper : (0xFF00#16)[bit] = decide (8 ≤ bit) := by
    revert bit
    decide
  rcases Nat.lt_or_ge bit 8 with below | above
  · simp [upper, below]
  · simp [join, upper, above, Nat.not_lt.mpr above, BitVec.getLsbD_of_ge]

theorem join_zero_low (value : UInt8) : join value 0 = value.toUInt16 <<< 8 :=
  UInt16.or_zero

theorem join_zero_high (value : UInt8) : join 0 value = value.toUInt16 :=
  UInt16.zero_or

/-- The word of a byte starts at the even offset below it, or there. -/
theorem toNat_even (offset : UInt16) : (even offset).toNat = 2 * (offset.toNat / 2) := by
  have range := offset.toNat_lt
  have half : (offset.toNat &&& 0xFFFE) / 2 = offset.toNat / 2 := by
    rw [Nat.and_div_two]
    show _ &&& 2 ^ 15 - 1 = _
    rw [Nat.and_two_pow_sub_one_eq_mod]
    omega
  have parity : (offset.toNat &&& 0xFFFE) % 2 = 0 := by
    have low := Nat.and_mod_two_pow (a := offset.toNat) (b := 0xFFFE) (n := 1)
    simpa using low
  rw [even, UInt16.toNat_and]
  show offset.toNat &&& 0xFFFE = _
  omega

/-! ## Stores -/

variable (chip : GateArray) (side : Side)

/-- A byte that the chip lets a processor write is stored. -/
theorem eq_store_of_writeByte {chip chip' : GateArray} {side : Side} {offset : UInt16}
    {value : UInt8} (write : chip.writeByte side offset value = .ok chip') :
    chip' = chip.store side offset.toNat value := by
  unfold writeByte at write
  split at write
  · cases write
  split at write
  · cases write
    rfl
  · cases write

/-- A word that the chip lets a processor write is stored, high byte first. -/
theorem eq_store_of_writeWord {chip chip' : GateArray} {side : Side} {offset value : UInt16}
    (write : chip.writeWord side offset value = .ok chip') :
    chip' = (chip.store side offset.toNat (highByte value)).store side (offset.toNat + 1)
      value.toUInt8 := by
  unfold writeWord at write
  split at write
  · cases write
  split at write
  · cases write
  split at write
  · cases write
  split at write
  · cases write
    rfl
  · cases write

/-- A store outside of the memory mode register leaves mode, banks and wiring alone. -/
theorem store_plain {offset : Nat} (plain : 4 ≤ offset) (value : UInt8) :
    (chip.store side offset value).mode = chip.mode ∧
      (chip.store side offset value).banks = chip.banks ∧
      (chip.store side offset value).automatic = chip.automatic := by
  have ne2 : offset ≠ 2 := by omega
  have ne3 : offset ≠ 3 := by omega
  unfold store
  rw [if_neg ne2, if_neg ne3]
  split <;> exact ⟨rfl, rfl, rfl⟩

theorem byteAt_setWord_of_ne {offset other : Nat} (plain : 4 ≤ offset) (value : UInt16)
    (ne : other ≠ offset) (ne' : other ≠ offset + 1) :
    (chip.setWord side offset value).byteAt other = chip.byteAt other := by
  unfold setWord
  rw [byteAt_store_of_ne _ _ _ ne' (by omega), byteAt_store_of_ne _ _ _ ne (by omega)]

theorem wordAt_setWord_self {offset : Nat} (plain : 4 ≤ offset)
    (window : offset + 1 < Register.windowSize) (value : UInt16) :
    (chip.setWord side offset value).wordAt offset = value := by
  have high : (chip.setWord side offset value).byteAt offset = highByte value := by
    unfold setWord
    rw [byteAt_store_of_ne _ _ _ (by omega) (by omega),
      byteAt_store_same _ _ _ (by omega) (by omega) (by omega)]
  have low : (chip.setWord side offset value).byteAt (offset + 1) = value.toUInt8 := by
    unfold setWord
    rw [byteAt_store_same _ _ _ window (by omega) (by omega)]
  rw [wordAt, high, low, join_split]

theorem wordAt_setWord_of_ne {offset other : Nat} (plain : 4 ≤ offset) (value : UInt16)
    (apart : other + 1 < offset ∨ offset + 1 < other) :
    (chip.setWord side offset value).wordAt other = chip.wordAt other := by
  unfold wordAt
  rw [byteAt_setWord_of_ne _ _ plain _ (by omega) (by omega),
    byteAt_setWord_of_ne _ _ plain _ (by omega) (by omega)]

theorem wordAt_store_of_ne {offset other : Nat} (plain : 4 ≤ offset) (value : UInt8)
    (ne : other ≠ offset) (ne' : other + 1 ≠ offset) :
    (chip.store side offset value).wordAt other = chip.wordAt other := by
  unfold wordAt
  rw [byteAt_store_of_ne _ _ _ ne (by omega), byteAt_store_of_ne _ _ _ ne' (by omega)]

theorem setWord_plain {offset : Nat} (plain : 4 ≤ offset) (value : UInt16) :
    (chip.setWord side offset value).mode = chip.mode ∧
      (chip.setWord side offset value).banks = chip.banks ∧
      (chip.setWord side offset value).automatic = chip.automatic := by
  obtain ⟨mode, banks, automatic⟩ :=
    store_plain (chip.store side offset (highByte value)) side
      (show 4 ≤ offset + 1 by omega) value.toUInt8
  obtain ⟨mode', banks', automatic'⟩ := store_plain chip side plain (highByte value)
  exact ⟨mode.trans mode', banks.trans banks', automatic.trans automatic'⟩

/-! ## Flags -/

theorem flag_bounds (side : Side) : side.flag.toNat = 14 ∨ side.flag.toNat = 15 := by
  cases side
  · exact .inl rfl
  · exact .inr rfl

@[simp] theorem flag_setFlag_self (value : UInt8) :
    (chip.store side side.flag.toNat value).flag side = value := by
  cases side <;> exact byteAt_store_same _ _ _ (by decide) (by decide) (by decide)

@[simp] theorem flag_setFlag_peer (value : UInt8) :
    (chip.store side side.flag.toNat value).flag side.peer = chip.flag side.peer := by
  cases side <;> exact byteAt_store_of_ne _ _ _ (by decide) (by decide)

@[simp] theorem params_setFlag (value : UInt8) :
    (chip.store side side.flag.toNat value).params = chip.params := by
  have frame (offset : Nat) (h : 0x10 ≤ offset) :
      (chip.store side side.flag.toNat value).wordAt offset = chip.wordAt offset := by
    rcases flag_bounds side with e | e <;>
      exact wordAt_store_of_ne _ _ (by omega) _ (by omega) (by omega)
  unfold params
  rw [frame _ (by decide), frame _ (by decide), frame _ (by decide), frame _ (by decide)]

/-- A byte among the flags has nothing to do with the Sub processor's other registers. -/
theorem workspace_storeFlag {offset : Nat} (flag : offset = 14 ∨ offset = 15) (value : UInt8) :
    (chip.store side offset value).workspace = chip.workspace := by
  have plain : 4 ≤ offset := by omega
  have results : (chip.store side offset value).results = chip.results :=
    congrArg Vector.ofFn (funext fun index =>
      wordAt_store_of_ne _ _ plain _ (by omega) (by omega))
  obtain ⟨mode, banks, automatic⟩ := store_plain chip side plain value
  unfold workspace
  rw [results, mode, banks, automatic]

@[simp] theorem workspace_setFlag (value : UInt8) :
    (chip.store side side.flag.toNat value).workspace = chip.workspace :=
  workspace_storeFlag chip side (flag_bounds side) value

/-! ## Parameter and result words -/

theorem flag_setWord (owner : Side) {offset : Nat} (plain : 0x10 ≤ offset) (value : UInt16) :
    (chip.setWord side offset value).flag owner = chip.flag owner := by
  rcases flag_bounds owner with e | e <;>
    exact byteAt_setWord_of_ne _ _ (by omega) _ (by omega) (by omega)

theorem params_setWord {index : Nat} (h : index < 4) (value : UInt16) :
    (chip.setWord side (0x10 + 2 * index) value).params = chip.params.set index value := by
  have same : (chip.setWord side (0x10 + 2 * index) value).wordAt (0x10 + 2 * index) = value :=
    wordAt_setWord_self chip side (by omega) (show _ < 0x68 by omega) value
  have other {k : Nat} (ne : k ≠ index) :
      (chip.setWord side (0x10 + 2 * index) value).wordAt (0x10 + 2 * k) =
        chip.wordAt (0x10 + 2 * k) :=
    wordAt_setWord_of_ne chip side (by omega) value (by omega)
  unfold params
  interval_cases index
  · rw [same, other (k := 1) (by decide), other (k := 2) (by decide), other (k := 3) (by decide)]
    rfl
  · rw [same, other (k := 0) (by decide), other (k := 2) (by decide), other (k := 3) (by decide)]
    rfl
  · rw [same, other (k := 0) (by decide), other (k := 1) (by decide), other (k := 3) (by decide)]
    rfl
  · rw [same, other (k := 0) (by decide), other (k := 1) (by decide), other (k := 2) (by decide)]
    rfl

theorem workspace_setParam {index : Nat} (h : index < 4) (value : UInt16) :
    (chip.setWord side (0x10 + 2 * index) value).workspace = chip.workspace := by
  have results : (chip.setWord side (0x10 + 2 * index) value).results = chip.results := by
    refine congrArg Vector.ofFn (funext fun k => ?_)
    exact wordAt_setWord_of_ne _ _ (by omega) _ (by omega)
  obtain ⟨mode, banks, automatic⟩ :=
    setWord_plain chip side (show 4 ≤ 0x10 + 2 * index by omega) value
  unfold workspace
  rw [results, mode, banks, automatic]

theorem params_setResult (index : Nat) (value : UInt16) :
    (chip.setWord side (0x20 + 2 * index) value).params = chip.params := by
  have frame (offset : Nat) (h : offset ≤ 0x16) :
      (chip.setWord side (0x20 + 2 * index) value).wordAt offset = chip.wordAt offset :=
    wordAt_setWord_of_ne _ _ (by omega) _ (by omega)
  unfold params
  rw [frame _ (by decide), frame _ (by decide), frame _ (by decide), frame _ (by decide)]

theorem workspace_setResult {index : Nat} (h : index < 8) (value : UInt16) :
    (chip.setWord side (0x20 + 2 * index) value).workspace =
      { chip.workspace with results := chip.results.set index value } := by
  have results : (chip.setWord side (0x20 + 2 * index) value).results =
      chip.results.set index value := by
    apply Vector.ext
    intro k hk
    unfold GateArray.results
    rw [Vector.getElem_ofFn, Vector.getElem_set]
    split
    case isTrue e =>
      subst e
      exact wordAt_setWord_self _ _ (by omega) (show _ < 0x68 by omega) _
    case isFalse ne =>
      rw [Vector.getElem_ofFn]
      show (chip.setWord side (0x20 + 2 * index) value).wordAt (0x20 + 2 * k) = _
      exact wordAt_setWord_of_ne _ _ (by omega) _ (by omega)
  obtain ⟨mode, banks, automatic⟩ :=
    setWord_plain chip side (show 4 ≤ 0x20 + 2 * index by omega) value
  unfold workspace
  rw [results, mode, banks, automatic]

/-! ## Bus cycles of the link -/

theorem perform_readFlag (owner : Side) :
    chip.perform side (.readByte owner.flag) = .ok (chip.flag owner, chip) := by
  cases owner <;> rfl

theorem perform_setFlag (value : UInt8) :
    chip.perform side (.writeByte side.flag value) =
      .ok ((), chip.store side side.flag.toNat value) := by
  cases side <;> rfl

theorem perform_writeParam {index : Nat} (h : index < 4) (value : UInt16) :
    chip.perform .main (.writeWord (Register.command0 + UInt16.ofNat index * 2) value) =
      .ok ((), chip.setWord .main (0x10 + 2 * index) value) := by
  interval_cases index <;> rfl

theorem perform_readParam {index : Nat} (h : index < 4) :
    chip.perform side (.readWord (Register.command0 + UInt16.ofNat index * 2)) =
      .ok (chip.params.word index, chip) := by
  interval_cases index <;> rfl

theorem perform_writeResult {index : Nat} (h : index < 8) (value : UInt16) :
    chip.perform .sub (.writeWord (Register.status0 + UInt16.ofNat index * 2) value) =
      .ok ((), chip.setWord .sub (0x20 + 2 * index) value) := by
  interval_cases index <;> rfl

theorem perform_readResult {index : Nat} (h : index < 8) :
    chip.perform side (.readWord (Register.status0 + UInt16.ofNat index * 2)) =
      .ok (chip.results[index], chip) := by
  have value : chip.results[index] = chip.wordAt (0x20 + 2 * index) := Vector.getElem_ofFn _
  rw [value]
  interval_cases index <;> rfl

end GateArray

end TwinDesk
