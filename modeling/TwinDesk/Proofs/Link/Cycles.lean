import Mathlib.Tactic.IntervalCases
import TwinDesk.Link.BankExchange
import TwinDesk.Link.Handshake
import TwinDesk.Proofs.Checked
import TwinDesk.Proofs.Hardware.Banks
import TwinDesk.Proofs.Hardware.Words
import TwinDesk.Proofs.Link.Outline

/-!
# The bus cycles of a program

Which bus cycles a program can make, whatever the answers to them are. The programs of the handshake
leave the memory mode register and the banks alone, and the responder's calls only touch the two
flags.

* `Program.Uses` — every bus cycle of a program is of a certain kind; `Program.Uses.bind`.
* `GateArray.perform_withMemory` — plain cycles take no part in the memory mode and the banks.
* `GateArray.workspace_of_onFlag` — a cycle on a flag leaves the Sub processor's registers alone.
* `Initiator.call_plain`, `Responder.finish_onFlags` — the programs of the handshake.
-/

namespace TwinDesk

/-! ## Kinds of cycles -/

/-- A bus cycle that leaves the reset register, the memory mode register and the banks alone. -/
def Access.Plain : Access → Prop
  | readByte offset | writeByte offset _ | readWord offset | writeWord offset _ => 4 ≤ offset.toNat
  | enterBank _ | leaveBank _ _ => False
  | loadProgram => True

/-- A bus cycle on one of the two flags. -/
def Access.OnFlag : Access → Prop
  | readByte offset | writeByte offset _ => offset.toNat = 14 ∨ offset.toNat = 15
  | _ => False

theorem Access.OnFlag.plain {a : Access} (onFlag : a.OnFlag) : a.Plain := by
  cases a with
  | readByte | writeByte =>
    have bound : _ ∨ _ := onFlag
    show 4 ≤ _
    omega
  | _ => exact onFlag.elim

/-- A bus cycle that writes neither of the two flags. -/
def Access.OffFlags : Access → Prop
  | writeByte _ _ => False
  | writeWord offset _ => offset = Register.memMode ∨ 16 ≤ offset.toNat
  | _ => True

namespace GateArray

variable (chip : GateArray)

/-- The chip with another memory mode and other banks. -/
def withMemory (mode : MemMode) (banks : Vector BankCell 2) : GateArray :=
  { chip with mode, banks }

variable (mode : MemMode) (banks : Vector BankCell 2)

theorem byteAt_withMemory {offset : Nat} (plain : 4 ≤ offset) :
    (chip.withMemory mode banks).byteAt offset = chip.byteAt offset := by
  unfold byteAt
  rw [if_neg (by omega), if_neg (by omega), if_neg (by omega), if_neg (by omega)]
  rfl

theorem store_withMemory (side : Side) {offset : Nat} (plain : 4 ≤ offset) (value : UInt8) :
    (chip.withMemory mode banks).store side offset value =
      (chip.store side offset value).withMemory mode banks := by
  unfold store
  rw [if_neg (by omega), if_neg (by omega), if_neg (by omega), if_neg (by omega)]
  split <;> rfl

/-- A plain cycle neither sees nor changes the memory mode and the banks. -/
theorem perform_withMemory (side : Side) {a : Access} (plain : a.Plain) :
    (chip.withMemory mode banks).perform side a =
      (chip.perform side a).map fun (answer, chip) => (answer, chip.withMemory mode banks) := by
  cases a with
  | readByte offset =>
    show Except.map _ (readByte _ _) = Except.map _ (Except.map _ _)
    unfold readByte
    rw [byteAt_withMemory chip mode banks plain]
    split <;> rfl
  | writeByte offset value =>
    show Except.map _ (writeByte _ _ _ _) = Except.map _ (Except.map _ _)
    unfold writeByte
    rw [store_withMemory chip mode banks side plain]
    split
    · rfl
    · split <;> rfl
  | readWord offset =>
    have plain : 4 ≤ offset.toNat := plain
    show Except.map _ (readWord _ _) = Except.map _ (Except.map _ _)
    unfold readWord
    rw [byteAt_withMemory chip mode banks plain, byteAt_withMemory chip mode banks (by omega)]
    split
    · rfl
    · split <;> rfl
  | writeWord offset value =>
    have plain : 4 ≤ offset.toNat := plain
    show Except.map _ (writeWord _ _ _ _) = Except.map _ (Except.map _ _)
    unfold writeWord
    rw [store_withMemory chip mode banks side plain,
      store_withMemory _ mode banks side (show 4 ≤ offset.toNat + 1 by omega)]
    split
    · rfl
    split
    · rfl
    split
    · rfl
    split <;> rfl
  | enterBank | leaveBank => exact plain.elim
  | loadProgram => rfl

/-- A cycle on a flag changes nothing that the Sub processor has to itself. -/
theorem workspace_of_onFlag {side : Side} {a : Access} (onFlag : a.OnFlag) {chip' : GateArray}
    {answer : a.Answer} (eq : chip.perform side a = .ok (answer, chip')) :
    chip'.workspace = chip.workspace := by
  cases a with
  | readByte offset =>
    obtain ⟨_, -, eq⟩ := Checked.map_eq_ok_iff.mp eq
    cases eq
    rfl
  | writeByte offset value =>
    obtain ⟨_, write, eq⟩ := Checked.map_eq_ok_iff.mp eq
    cases eq
    rw [eq_store_of_writeByte write]
    exact chip.workspace_storeFlag side onFlag value
  | _ => exact onFlag.elim

/-- A cycle off the flags leaves both of them as they are. -/
theorem flag_of_offFlags {side : Side} {a : Access} (offFlags : a.OffFlags) {chip' : GateArray}
    {answer : a.Answer} (eq : chip.perform side a = .ok (answer, chip')) (owner : Side) :
    chip'.flag owner = chip.flag owner := by
  cases a with
  | readByte | readWord =>
    obtain ⟨_, -, eq⟩ := Checked.map_eq_ok_iff.mp eq
    cases eq
    rfl
  | writeByte => exact offFlags.elim
  | writeWord offset value =>
    rcases offFlags with rfl | plain
    · rw [perform_writeMode] at eq
      cases eq
      cases owner <;> rfl
    · obtain ⟨_, write, eq⟩ := Checked.map_eq_ok_iff.mp eq
      cases eq
      rw [eq_store_of_writeWord write]
      rcases flag_bounds owner with bound | bound <;>
        exact (byteAt_store_of_ne _ side _ (by omega) (by omega)).trans
          (byteAt_store_of_ne chip side _ (by omega) (by omega))
  | enterBank bank =>
    change chip.enterBank bank = _ at eq
    unfold enterBank at eq
    dsimp only at eq
    split at eq
    · cases eq
    · cases eq
      cases owner <;> rfl
  | leaveBank | loadProgram =>
    cases eq
    cases owner <;> rfl

end GateArray

/-! ## Cycles of a program -/

namespace Program

variable {α β σ : Type} {ok : Access → Prop}

/-- Every bus cycle of the program is one of these. -/
def Uses (ok : Access → Prop) : {α : Type} → Program α → Prop
  | _, .done _ => True
  | _, .fault _ => True
  | _, .access a next => ok a ∧ ∀ answer, (next answer).Uses ok
  | _, .spin body _ next => (∀ state, (body state).Uses ok) ∧ ∀ value, (next value).Uses ok

namespace Uses

theorem mono {ok' : Access → Prop} (weaker : ∀ a, ok a → ok' a) {p : Program α} (uses : p.Uses ok) :
    p.Uses ok' := by
  induction p with
  | done | fault => trivial
  | access a next ih => exact ⟨weaker a uses.1, fun answer => ih answer (uses.2 answer)⟩
  | spin body start next ihBody ih =>
    exact ⟨fun state => ihBody state (uses.1 state), fun value => ih value (uses.2 value)⟩

theorem bind {p : Program α} {f : α → Program β} (uses : p.Uses ok)
    (rest : ∀ value, (f value).Uses ok) : (p.bind f).Uses ok := by
  induction p with
  | done value => exact rest value
  | fault => trivial
  | access a next ih => exact ⟨uses.1, fun answer => ih answer (uses.2 answer) rest⟩
  | spin body start next _ ih => exact ⟨uses.1, fun value => ih value (uses.2 value) rest⟩

theorem done (value : α) : (Program.done value).Uses ok := trivial

theorem cycle {a : Access} (h : ok a) : (Program.cycle a).Uses ok :=
  ⟨h, fun _ => trivial⟩

theorem loop {body : σ → Program (σ ⊕ β)} {start : σ} (uses : ∀ state, (body state).Uses ok) :
    (Program.loop body start).Uses ok :=
  ⟨uses, fun _ => trivial⟩

theorem ofChecked (checked : Checked α) : (Program.ofChecked checked).Uses ok := by
  cases checked <;> trivial

theorem await {look : Program (Option β)} (uses : look.Uses ok) : (Program.await look).Uses ok :=
  loop fun _ => uses.bind fun
    | some _ => trivial
    | none => trivial

end Uses

end Program

open Program

namespace Poll

variable {σ β : Type} {ok : Access → Prop} {poll : Poll σ β}

theorem uses_forever (uses : ∀ state, (poll state).Uses ok) (state : σ) :
    (poll.forever state).Uses ok :=
  .loop fun state => (uses state).bind fun
    | (.ok (some _), _) => trivial
    | (.ok none, _) => trivial
    | (.error _, _) => trivial

theorem uses_upTo (uses : ∀ state, (poll state).Uses ok) (polls : Nat) (state : σ) :
    (poll.upTo polls state).Uses ok := by
  induction polls generalizing state with
  | zero => trivial
  | succ polls ih =>
    exact (uses state).bind fun
      | (.ok (some _), _) => trivial
      | (.ok none, state) => ih state
      | (.error _, _) => trivial

end Poll

/-! ## The programs of the handshake -/

theorem Side.ownFlag_onFlag (side : Side) (value : UInt8) :
    (Access.writeByte side.flag value).OnFlag := by
  cases side
  · exact .inl rfl
  · exact .inr rfl

theorem Side.peerFlag_onFlags (side : Side) : side.peerFlag.Uses Access.OnFlag :=
  .cycle (side.peer.ownFlag_onFlag 0)

theorem Side.setFlag_onFlags (side : Side) (value : UInt8) :
    (side.setFlag value).Uses Access.OnFlag :=
  .cycle (side.ownFlag_onFlag value)

namespace Responder

theorem pollCommand_onFlags (responder : Responder) :
    responder.pollCommand.Uses Access.OnFlag := by
  unfold pollCommand
  split
  · trivial
  · exact Side.sub.peerFlag_onFlags.bind fun _ => trivial

theorem waitCommand_onFlags (responder : Responder) :
    responder.waitCommand.Uses Access.OnFlag :=
  .await responder.pollCommand_onFlags

theorem waitCommandWithin_onFlags (budget : Budget) (responder : Responder) :
    (responder.waitCommandWithin budget).Uses Access.OnFlag := by
  have look (state : Unit) : (Poll.ofLook responder.pollCommand state).Uses Access.OnFlag :=
    responder.pollCommand_onFlags.bind fun _ => trivial
  exact (Poll.uses_upTo look _ _).bind fun _ => trivial

theorem ack_onFlags (responder : Responder) : responder.ack.Uses Access.OnFlag :=
  responder.pollCommand_onFlags.bind fun
    | none => trivial
    | some _ => (Side.sub.setFlag_onFlags _).bind fun _ => trivial

theorem signal_onFlags (status : Status) (responder : Responder) :
    (responder.signal status).Uses Access.OnFlag := by
  unfold signal
  split
  · trivial
  · exact (Side.sub.setFlag_onFlags _).bind fun _ => trivial

theorem pollRelease_onFlags (responder : Responder) :
    responder.pollRelease.Uses Access.OnFlag := by
  unfold pollRelease
  split
  · trivial
  · trivial
  · refine Side.sub.peerFlag_onFlags.bind fun flag => ?_
    split
    · trivial
    · exact (Side.sub.setFlag_onFlags _).bind fun _ => trivial

theorem pollReleased_onFlags (responder : Responder) :
    (pollReleased responder).Uses Access.OnFlag :=
  responder.pollRelease_onFlags.bind fun
    | (.ok true, _) => trivial
    | (.ok false, _) => trivial
    | (.error _, _) => trivial

theorem finish_onFlags (status : Status) (responder : Responder) :
    (responder.finish status).Uses Access.OnFlag :=
  (responder.signal_onFlags status).bind fun
    | (.error _, _) => trivial
    | (.ok (), responder) => Poll.uses_forever pollReleased_onFlags responder

theorem finishWithin_onFlags (budget : Budget) (status : Status) (responder : Responder) :
    (responder.finishWithin budget status).Uses Access.OnFlag :=
  (responder.signal_onFlags status).bind fun
    | (.error _, _) => trivial
    | (.ok (), responder) => Poll.uses_upTo pollReleased_onFlags _ responder

end Responder

namespace Register

theorem commandWord_plain {index : Nat} {offset : UInt16}
    (eq : commandWord index = .ok offset) : 4 ≤ offset.toNat := by
  unfold commandWord at eq
  split at eq
  · cases eq
    interval_cases index <;> decide
  · cases eq

/-- The result words lie behind the flags. -/
theorem statusWord_bound {index : Nat} {offset : UInt16}
    (eq : statusWord index = .ok offset) : 16 ≤ offset.toNat := by
  unfold statusWord at eq
  split at eq
  · cases eq
    interval_cases index <;> decide
  · cases eq

theorem statusWord_plain {index : Nat} {offset : UInt16}
    (eq : statusWord index = .ok offset) : 4 ≤ offset.toNat :=
  Nat.le_trans (by decide) (statusWord_bound eq)

end Register

/-- A cycle at a checked offset. -/
theorem uses_at_offset {α : Type} {ok : Access → Prop} {offset : Checked UInt16}
    {f : UInt16 → Program α} (uses : ∀ o, offset = .ok o → (f o).Uses ok) :
    ((ofChecked offset).bind f).Uses ok := by
  cases offset with
  | ok o => exact uses o rfl
  | error e => trivial

namespace SubRegisters

theorem readParam_plain (index : Nat) : (readParam index).Uses Access.Plain := by
  unfold readParam
  split
  · trivial
  · exact uses_at_offset fun o eq => ⟨Register.commandWord_plain eq, fun _ => trivial⟩

theorem readParams_plain : readParams.Uses Access.Plain :=
  (readParam_plain 0).bind fun _ => (readParam_plain 1).bind fun _ =>
    (readParam_plain 2).bind fun _ => (readParam_plain 3).bind fun _ => trivial

theorem writeResult_plain (index : Nat) (value : UInt16) :
    (writeResult index value).Uses Access.Plain :=
  uses_at_offset fun _ eq => ⟨Register.statusWord_plain eq, fun _ => trivial⟩

theorem readParam_offFlags (index : Nat) : (readParam index).Uses Access.OffFlags := by
  unfold readParam
  split
  · trivial
  · exact uses_at_offset fun o eq => ⟨trivial, fun _ => trivial⟩

theorem readParams_offFlags : readParams.Uses Access.OffFlags :=
  (readParam_offFlags 0).bind fun _ => (readParam_offFlags 1).bind fun _ =>
    (readParam_offFlags 2).bind fun _ => (readParam_offFlags 3).bind fun _ => trivial

theorem writeResult_offFlags (index : Nat) (value : UInt16) :
    (writeResult index value).Uses Access.OffFlags :=
  uses_at_offset fun _ eq => ⟨.inr (Register.statusWord_bound eq), fun _ => trivial⟩

end SubRegisters

namespace MainRegisters

theorem writeParam_plain (index : Nat) (value : UInt16) :
    (writeParam index value).Uses Access.Plain := by
  unfold writeParam
  split
  · trivial
  · exact uses_at_offset fun o eq => ⟨Register.commandWord_plain eq, fun _ => trivial⟩

theorem writeParams_plain (params : Params) : (writeParams params).Uses Access.Plain :=
  (writeParam_plain 0 _).bind fun _ => (writeParam_plain 1 _).bind fun _ =>
    (writeParam_plain 2 _).bind fun _ => writeParam_plain 3 _

theorem readResult_plain (index : Nat) : (readResult index).Uses Access.Plain :=
  uses_at_offset fun _ eq => ⟨Register.statusWord_plain eq, fun _ => trivial⟩

theorem readResults_plain : readResults.Uses Access.Plain :=
  (readResult_plain 0).bind fun _ => (readResult_plain 1).bind fun _ =>
    (readResult_plain 2).bind fun _ => (readResult_plain 3).bind fun _ =>
      (readResult_plain 4).bind fun _ => (readResult_plain 5).bind fun _ =>
        (readResult_plain 6).bind fun _ => (readResult_plain 7).bind fun _ => trivial

end MainRegisters

namespace Initiator

theorem peerFlag_plain : Side.main.peerFlag.Uses Access.Plain :=
  Side.main.peerFlag_onFlags.mono fun _ onFlag => onFlag.plain

theorem setFlag_plain (value : UInt8) : (Side.main.setFlag value).Uses Access.Plain :=
  (Side.main.setFlag_onFlags value).mono fun _ onFlag => onFlag.plain

theorem post_plain (cmd : Command) (initiator : Initiator) :
    (initiator.post cmd).Uses Access.Plain := by
  unfold post
  split
  · trivial
  · refine peerFlag_plain.bind fun flag => ?_
    split
    · trivial
    · exact (MainRegisters.writeParams_plain _).bind fun _ =>
        (setFlag_plain _).bind fun _ => trivial

theorem awaitRest_plain (status : Status) : (awaitRest status).Uses Access.Plain := by
  refine peerFlag_plain.bind fun flag => ?_
  split <;> trivial

theorem pollCompletion_plain (initiator : Initiator) :
    (pollCompletion initiator).Uses Access.Plain := by
  unfold pollCompletion
  split
  · trivial
  · exact awaitRest_plain _
  · refine peerFlag_plain.bind fun flag => ?_
    split
    · exact (setFlag_plain _).bind fun _ => awaitRest_plain _
    · trivial

theorem pollPost_plain (cmd : Command) (initiator : Initiator) :
    (pollPost cmd initiator).Uses Access.Plain := by
  refine (initiator.post_plain cmd).bind ?_
  rintro ⟨e | ⟨⟨⟩⟩, initiator⟩
  · cases e <;> trivial
  · trivial

theorem call_plain (cmd : Command) (initiator : Initiator) :
    (initiator.call cmd).Uses Access.Plain :=
  (Poll.uses_forever (pollPost_plain cmd) initiator).bind fun
    | (.error _, _) => trivial
    | (.ok (), initiator) => (Poll.uses_forever pollCompletion_plain initiator).bind fun
      | (.error _, _) => trivial
      | (.ok _, _) => MainRegisters.readResults_plain.bind fun _ => trivial

end Initiator

/-! ## The exchange of banks -/

namespace Side

variable (side : Side)

theorem setModeBits_offFlags (bits : UInt16) : (side.setModeBits bits).Uses Access.OffFlags := by
  unfold setModeBits
  split
  · trivial
  · exact ⟨trivial, fun _ => .cycle (.inl rfl)⟩

theorem swapRequested_offFlags : side.swapRequested.Uses Access.OffFlags :=
  ⟨trivial, fun _ => trivial⟩

theorem currentBank_offFlags : side.currentBank.Uses Access.OffFlags :=
  ⟨trivial, fun _ => trivial⟩

end Side

theorem Grant.acquire_offFlags (side : Side) : (acquire side).Uses Access.OffFlags := by
  refine side.swapRequested_offFlags.bind fun requested => ?_
  split
  · trivial
  · exact side.currentBank_offFlags.bind fun _ => trivial

theorem Grant.withBytes_offFlags {α : Type} (grant : Grant)
    (work : BankBytes → Checked (α × BankBytes)) :
    (grant.withBytes work).Uses Access.OffFlags :=
  .bind (.cycle trivial) fun bytes => .bind (.ofChecked (work bytes)) fun _ =>
    .bind (.cycle trivial) fun _ => trivial

theorem PendingSwap.poll_offFlags (pending : PendingSwap) : pending.poll.Uses Access.OffFlags := by
  refine pending.side.swapRequested_offFlags.bind fun requested => ?_
  split
  · trivial
  · exact pending.side.currentBank_offFlags.bind fun _ => trivial

theorem Grant.beginSwap_offFlags (grant : Grant) : grant.beginSwap.Uses Access.OffFlags :=
  (grant.side.setModeBits_offFlags _).bind fun _ => trivial

theorem Grant.discard_swap_offFlags (grant : Grant) :
    (discard grant.swap).Uses Access.OffFlags := by
  show ((grant.beginSwap.bind PendingSwap.wait).bind fun _ => done ()).Uses Access.OffFlags
  exact (grant.beginSwap_offFlags.bind fun pending => .await pending.poll_offFlags).bind
    fun _ => trivial

end TwinDesk
