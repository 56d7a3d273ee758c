import TwinDesk.Proofs.Desktop.Sound
import TwinDesk.Proofs.Hardware.Banks
import TwinDesk.Proofs.Link.Cycles
import TwinDesk.Proofs.Sub.Serve

/-!
# Carrying commands out

What the dispatcher does between the acknowledgement of a command and its reply. Most commands only
change the dispatcher, and leave at most one result word; their *effect* is a computation without
any bus cycle. The commands that work on a bank find it free and get the other one back at once, on
a chip that exchanges banks automatically.

* `Dispatcher.effect`, `Dispatcher.perform_eq` — commands without a bank.
* `effect_yields` — no such command faults.
* `perform_offFlags`, `perform_answered` — no command touches the flags, or the dispatcher's half of
  the handshake, and each is answered.
* `renderFrame_outline`, `returnBank_outline` — commands with a bank.
-/

namespace TwinDesk

open Handshake Program

namespace Dispatcher

variable {R : Type}

/-! ## Commands without a bank -/

/-- Whether a command works on a bank. -/
def usesBank : Opcode → Bool
  | .renderFrame | .wramSwap => true
  | _ => false

theorem eq_of_usesBank {opcode : Opcode} (bank : usesBank opcode = true) :
    opcode = .renderFrame ∨ opcode = .wramSwap := by
  cases opcode with
  | renderFrame => exact .inl rfl
  | wramSwap => exact .inr rfl
  | _ => cases bank

/-- The window that a command names is closed. -/
def closeNamed (d : Dispatcher R) (params : Params) : Bool × Desktop :=
  match WindowId.ofParameter? params.word0 with
  | some id => d.desktop.closeWindow id
  | none => (false, d.desktop)

/-- The window that a command names is moved. -/
def moveNamed (d : Dispatcher R) (params : Params) : Bool × Desktop :=
  match WindowId.ofParameter? params.word0 with
  | some id => d.desktop.moveWindow id (Coord.ofWord params.word1) (Coord.ofWord params.word2)
  | none => (false, d.desktop)

/-- The window that a command describes is opened. -/
def openDescribed (d : Dispatcher R) (params : Params) : Option WindowId × Desktop :=
  d.desktop.openWindow (Rect.ofOriginSize (Coord.ofWord params.word0) (Coord.ofWord params.word1)
    (Coord.ofWord params.word2) (Coord.ofWord params.word3))

/-- What a command without a bank does: its status, what it leaves in result word 0, and the
dispatcher afterwards. -/
def effect (d : Dispatcher R) (params : Params) :
    Opcode → Checked (Status × Option UInt16 × Dispatcher R)
  | .initOs => do
    let fresh ← Desktop.fresh
    return (statusOf fresh.1, none, { d with desktop := fresh.2 })
  | .openWindow =>
    return (.done, some (WindowId.toResult (d.openDescribed params).1),
      { d with desktop := (d.openDescribed params).2 })
  | .closeWindow =>
    return (.done, some (Command.outcome (d.closeNamed params).1),
      { d with desktop := (d.closeNamed params).2 })
  | .moveWindow =>
    return (.done, some (Command.outcome (d.moveNamed params).1),
      { d with desktop := (d.moveNamed params).2 })
  | .cdPlay => return (.done, none, { d with cd := d.cd ++ [.play params.word0] })
  | .cdStop => return (.done, none, { d with cd := d.cd ++ [.stop] })
  | .mouseEvent =>
    match PointerEvent.ofParams? params with
    | some event => do
      let handled ← d.desktop.pointerEvent d.launcher event
      return (.done, none, { d with desktop := handled.1, launcher := handled.2 })
    | none => return (.error, none, d)
  | _ => return (.error, none, d)

/-- Leaves a word in result word 0, if there is one. -/
def publish : Option UInt16 → Program Unit
  | some word => SubRegisters.writeResult 0 word
  | none => .done ()

theorem perform_eq [Painter R] (d : Dispatcher R) (params : Params) {opcode : Opcode}
    (plain : usesBank opcode = false) :
    d.perform opcode params = (ofChecked (d.effect params opcode)).bind fun (status, word, d) =>
      (publish word).bind fun _ => .done (status, d) := by
  cases opcode with
  | renderFrame | wramSwap => cases plain
  | initOs =>
    unfold perform effect
    dsimp only
    generalize Desktop.fresh = fresh
    cases fresh <;> rfl
  | openWindow =>
    unfold perform effect openDescribed
    dsimp only
    generalize d.desktop.openWindow _ = opened
    rfl
  | closeWindow =>
    unfold perform effect closeNamed
    cases WindowId.ofParameter? params.word0 with
    | none => rfl
    | some id =>
      dsimp only
      generalize d.desktop.closeWindow id = closed
      rfl
  | moveWindow =>
    unfold perform effect moveNamed
    cases WindowId.ofParameter? params.word0 with
    | none => rfl
    | some id =>
      dsimp only
      generalize d.desktop.moveWindow id _ _ = moved
      rfl
  | mouseEvent =>
    unfold perform effect
    dsimp only
    cases PointerEvent.ofParams? params with
    | none => rfl
    | some event =>
      dsimp only
      generalize d.desktop.pointerEvent d.launcher event = routed
      cases routed <;> rfl
  | _ => rfl

theorem openDescribed_sound {d : Dispatcher R} (sound : d.desktop.Sound) (params : Params) :
    (d.openDescribed params).2.Sound := by
  unfold openDescribed
  exact Desktop.openWindow_sound sound _

theorem closeNamed_sound {d : Dispatcher R} (sound : d.desktop.Sound) (params : Params) :
    (d.closeNamed params).2.Sound := by
  unfold closeNamed
  split
  · exact Desktop.closeWindow_sound sound _
  · exact sound

theorem moveNamed_sound {d : Dispatcher R} (sound : d.desktop.Sound) (params : Params) :
    (d.moveNamed params).2.Sound := by
  unfold moveNamed
  split
  · exact Desktop.moveWindow_sound sound _ _ _
  · exact sound

/-- A command without a bank never faults, is answered, and keeps the desktop sound. -/
theorem effect_yields (d : Dispatcher R) (params : Params) (sound : d.desktop.Sound)
    (opcode : Opcode) :
    Yields (d.effect params opcode) fun result => result.1.isTerminal = true ∧
      result.2.2.desktop.Sound ∧ result.2.2.responder = d.responder := by
  have answered {status : Status} (word : Option UInt16) {d' : Dispatcher R}
      (terminal : status.isTerminal = true) (sound : d'.desktop.Sound)
      (same : d'.responder = d.responder) :
      Yields (return (status, word, d')) fun result : Status × Option UInt16 × Dispatcher R =>
        result.1.isTerminal = true ∧ result.2.2.desktop.Sound ∧
          result.2.2.responder = d.responder :=
    .pure ⟨terminal, sound, same⟩
  unfold effect
  split
  · refine Desktop.fresh_yields.bind fun fresh known => answered _ ?_ known.2 rfl
    rw [known.1]
    rfl
  · exact answered _ rfl (openDescribed_sound sound params) rfl
  · exact answered _ rfl (closeNamed_sound sound params) rfl
  · exact answered _ rfl (moveNamed_sound sound params) rfl
  · exact answered _ rfl sound rfl
  · exact answered _ rfl sound rfl
  · split
    · exact (Desktop.pointerEvent_yields sound _ _).bind fun handled known =>
        answered _ rfl known rfl
    · exact answered _ rfl sound rfl
  · exact answered _ rfl sound rfl

/-! ## What a command leaves alone -/

theorem publish_offFlags (word : Option UInt16) : (publish word).Uses Access.OffFlags := by
  cases word with
  | none => trivial
  | some word => exact SubRegisters.writeResult_offFlags 0 word

/-- What commands leave alone: the dispatcher's half of the handshake, and whether a release is
still to come. -/
structure SameLink (d d' : Dispatcher R) : Prop where
  responder : d'.responder = d.responder
  unreleased : d'.unreleased = d.unreleased

theorem isTerminal_statusOf {ε α : Type} (result : Except ε α) :
    (statusOf result).isTerminal = true := by
  cases result <;> rfl

theorem effect_answered (d : Dispatcher R) (params : Params) (opcode : Opcode) :
    Ensures (d.effect params opcode) fun result =>
      result.1.isTerminal = true ∧ d.SameLink result.2.2 := by
  have same {d' : Dispatcher R} (responder : d'.responder = d.responder)
      (unreleased : d'.unreleased = d.unreleased) : d.SameLink d' :=
    ⟨responder, unreleased⟩
  unfold effect
  split
  · exact (Ensures.any _).bind fun _ _ => .pure ⟨isTerminal_statusOf _, same rfl rfl⟩
  · exact .pure ⟨rfl, same rfl rfl⟩
  · exact .pure ⟨rfl, same rfl rfl⟩
  · exact .pure ⟨rfl, same rfl rfl⟩
  · exact .pure ⟨rfl, same rfl rfl⟩
  · exact .pure ⟨rfl, same rfl rfl⟩
  · split
    · exact (Ensures.any _).bind fun _ _ => .pure ⟨rfl, same rfl rfl⟩
    · exact .pure ⟨rfl, same rfl rfl⟩
  · exact .pure ⟨rfl, same rfl rfl⟩

section

variable [Painter R] (d : Dispatcher R)

theorem renderFrame_offFlags : d.renderFrame.Uses Access.OffFlags := by
  have note (index : Nat) (value : UInt16) :
      (SubRegisters.writeResult index value).Uses Access.OffFlags :=
    SubRegisters.writeResult_offFlags index value
  refine (note 0 _).bind fun _ => (note 1 _).bind fun _ => (Grant.acquire_offFlags .sub).bind ?_
  rintro (e | grant)
  · exact (note 0 _).bind fun _ => trivial
  · exact (grant.withBytes_offFlags _).bind fun _ => grant.discard_swap_offFlags.bind fun _ =>
      (note 0 _).bind fun _ => trivial

theorem returnBank_offFlags : returnBank.Uses Access.OffFlags := by
  refine (Grant.acquire_offFlags .sub).bind ?_
  rintro (e | grant)
  · trivial
  · exact grant.discard_swap_offFlags.bind fun _ => trivial

/-- Carrying a command out leaves the flags alone. -/
theorem perform_offFlags (opcode : Opcode) (params : Params) :
    (d.perform opcode params).Uses Access.OffFlags := by
  cases bank : usesBank opcode with
  | true =>
    rcases eq_of_usesBank bank with rfl | rfl
    · exact d.renderFrame_offFlags.bind fun _ => trivial
    · exact returnBank_offFlags.bind fun _ => trivial
  | false =>
    rw [d.perform_eq params bank]
    exact (Uses.ofChecked _).bind fun carried => (publish_offFlags _).bind fun _ => trivial

theorem paintInto_sameLink (bytes : BankBytes) :
    Ensures (d.paintInto bytes) fun result => d.SameLink result.1 := by
  unfold paintInto
  exact (Ensures.any _).bind fun _ _ => (Ensures.any _).bind fun _ _ => .pure ⟨rfl, rfl⟩

theorem renderFrame_sameLink : d.renderFrame.Returns fun result => d.SameLink result.2 := by
  refine .after fun _ => .after fun _ => .after ?_
  rintro (e | grant)
  · exact .after fun _ => ⟨rfl, rfl⟩
  · have painted : (grant.withBytes d.paintInto).Returns d.SameLink :=
      .after fun bytes => (Returns.ofChecked (d.paintInto_sameLink bytes)).bind fun _ same =>
        .after fun _ => same
    exact painted.bind fun _ same => .after fun _ => .after fun _ =>
      ⟨same.responder, same.unreleased⟩

/-- Every command is answered, and none has to do with the dispatcher's half of the handshake. -/
theorem perform_answered (opcode : Opcode) (params : Params) :
    (d.perform opcode params).Returns fun result =>
      result.1.isTerminal = true ∧ d.SameLink result.2 := by
  cases bank : usesBank opcode with
  | true =>
    rcases eq_of_usesBank bank with rfl | rfl
    · exact d.renderFrame_sameLink.bind fun _ same => ⟨isTerminal_statusOf _, same⟩
    · exact .after fun _ => ⟨isTerminal_statusOf _, rfl, rfl⟩
  | false =>
    rw [d.perform_eq params bank]
    exact (Returns.ofChecked (d.effect_answered params opcode)).bind fun _ answered =>
      .after fun _ => answered

end

end Dispatcher

/-! ## Bus cycles while a command is carried out -/

namespace GateArray

/-- Where exchanges are automatic, a request of the Sub processor is complete at once. -/
theorem returning_write {mode : MemMode} (free : mode.returning = false) (value : UInt16) :
    (mode.write true .sub value).returning = false := by
  unfold MemMode.write
  dsimp only
  split
  · rfl
  · rename_i still
    simp only [MemMode.requested, free, Bool.not_false, Bool.and_true, Bool.true_and,
      Bool.not_eq_true] at still
    exact still

end GateArray

namespace Handshake

/-- Exchanges are automatic, and nobody works on a bank. -/
structure Calm (own : GateArray.Workspace) : Prop where
  automatic : own.automatic = true
  free : ∀ bank : Bank, (own.banks.get ⟨bank.index, bank.index_lt⟩).occupied = false

/-- Nobody works on a bank but the Sub processor on this one. -/
structure Inside (bank : Bank) (own : GateArray.Workspace) : Prop where
  automatic : own.automatic = true
  settled : own.mode.returning = false
  free : ∀ other, other ≠ bank → (own.banks.get ⟨other.index, other.index_lt⟩).occupied = false

/-- Besides, no exchange of the Sub processor is pending. -/
structure Still (own : GateArray.Workspace) : Prop extends Calm own where
  settled : own.mode.returning = false

/-- A dispatcher that has painted, from one whose responder was `responder`. -/
structure HasPainted {R : Type} (responder : Responder) (d : Dispatcher R) : Prop where
  sound : d.desktop.Sound
  responder : d.responder = responder

/-- Painting the damage goes well if the painter's operations do. -/
theorem paintInto_yields {R : Type} [Painter R] {d : Dispatcher R} (sound : d.desktop.Sound)
    (paints : ∀ ops, (∀ op ∈ ops, PaintOp.Sound op) → Succeeds (Painter.paintAll d.painter ops))
    (bytes : BankBytes) :
    Yields (d.paintInto bytes) fun result => HasPainted d.responder result.1 := by
  refine (Compositor.paint_yields StandIn.keepsGood sound).bind ?_
  intro result known
  exact (paints _ known.1).bind fun painter _ => .pure ⟨known.2, rfl⟩

section

variable {contract : Contract} {A : Course → Prop} {room : Nat}
  (acked : ∀ c, A c → c.stage = .acked)
include acked

/-- While a command is carried out, the Main processor only waits. -/
theorem acked_standing : Standing .sub (fun _ => True) A :=
  .of_stage .acked rfl acked fun _ _ => trivial

/-- A bus cycle of the Sub processor that touches neither flags nor parameters. -/
theorem own_outline {a : Access} {W : GateArray.Workspace → Prop}
    {W' : a.Answer → GateArray.Workspace → Prop}
    (performs : ∀ chip : GateArray, W chip.workspace → ∃ answer chip',
      chip.perform .sub a = .ok (answer, chip') ∧ (∀ side, chip'.flag side = chip.flag side) ∧
        chip'.params = chip.params ∧ W' answer chip'.workspace) :
    Triple contract .sub (cycle a) (At .sub A (room + 1) W)
      fun answer => At .sub A room (W' answer) := by
  refine .cycle (acked_standing acked).rests (performs_linger fun w holds own => ?_)
  obtain ⟨answer, chip', eq, flags, params, post⟩ := performs w.chip own
  refine ⟨answer, chip', eq, ⟨flags, params, fun _ => params, fun closed => ?_⟩, holds, post,
    .inl (Nat.le_refl _)⟩
  rw [acked _ holds] at closed
  cases closed

theorem swapRequested_outline {W : GateArray.Workspace → Prop} :
    Triple contract .sub Side.sub.swapRequested (At .sub A (room + 1) W)
      fun requested => At .sub A room fun own => W own ∧ requested = own.mode.returning := by
  have look : Triple contract .sub (readWord Register.memMode) (At .sub A (room + 1) W)
      fun word => At .sub A room fun own => W own ∧ word = own.mode.word :=
    own_outline acked fun chip own =>
      ⟨_, chip, chip.perform_readMode .sub, fun _ => rfl, rfl, own, rfl⟩
  refine look.bind fun word => .done ?_
  intro w h
  refine h.weaken (fun holds => holds) (Nat.le_refl _) fun own known => ⟨known.1, ?_⟩
  rw [known.2]
  exact own.mode.word_swapBit .sub

theorem currentBank_outline {W : GateArray.Workspace → Prop} :
    Triple contract .sub Side.sub.currentBank (At .sub A (room + 1) W)
      fun _ => At .sub A room W := by
  have look : Triple contract .sub (readWord Register.memMode) (At .sub A (room + 1) W)
      fun _ => At .sub A room W :=
    own_outline acked fun chip own =>
      ⟨_, chip, chip.perform_readMode .sub, fun _ => rfl, rfl, own⟩
  exact look.bind fun word => .done fun w h => h

/-- The Sub processor takes hold of its bank, unless its last exchange is still pending. -/
theorem acquire_outline :
    Triple contract .sub (Grant.acquire .sub) (At .sub A (room + 2) Calm)
      fun
        | .ok grant => fun w => grant.side = .sub ∧ At .sub A room Still w
        | .error _ => At .sub A room Calm := by
  refine (swapRequested_outline acked).bind ?_
  intro requested
  cases requested with
  | true =>
    exact .done fun w h => h.weaken (fun holds => holds) (by omega) fun own known => known.1
  | false =>
    refine ((currentBank_outline acked).strengthen fun w h => ?_).bind fun bank =>
      .done fun w h => ⟨rfl, h⟩
    exact h.weaken (fun holds => holds) (Nat.le_refl _) fun own known => ⟨known.1, known.2.symm⟩

/-- A request for an exchange is complete as soon as it is written. -/
theorem requestSwap_outline :
    Triple contract .sub (Side.sub.setModeBits Side.sub.swapBit) (At .sub A (room + 2) Still)
      fun _ => At .sub A room Still := by
  have read : Triple contract .sub (readWord Register.memMode) (At .sub A (room + 2) Still)
      fun _ => At .sub A (room + 1) Still :=
    own_outline acked fun chip own =>
      ⟨_, chip, chip.perform_readMode .sub, fun _ => rfl, rfl, own⟩
  have write (value : UInt16) : Triple contract .sub (writeWord Register.memMode value)
      (At .sub A (room + 1) Still) fun _ => At .sub A room Still := by
    apply own_outline acked
    intro chip own
    refine ⟨(), _, chip.perform_writeMode .sub value, ?_, rfl, ⟨own.automatic, own.free⟩, ?_⟩
    · intro side
      cases side <;> rfl
    · have automatic : chip.automatic = true := own.automatic
      show (MemMode.write _ chip.automatic _ _).returning = false
      rw [automatic]
      exact GateArray.returning_write own.settled _
  exact read.bind fun mode => write _

/-- So the first look for the other bank finds it. -/
theorem pollSwap_outline (bank : Bank) :
    Triple contract .sub (PendingSwap.poll ⟨.sub, bank⟩) (At .sub A (room + 2) Still) fun
      | some _ => At .sub A room Calm
      | none => At .sub A (room + 3) Still := by
  refine (swapRequested_outline acked).bind ?_
  intro requested
  cases requested with
  | true => exact .done fun w h => absurd (h.own.2.trans h.own.1.settled) (by decide)
  | false =>
    refine ((currentBank_outline acked).strengthen fun w h => ?_).bind fun bank =>
      .done fun w h => h
    exact h.weaken (fun holds => holds) (Nat.le_refl _) fun own known => known.1.toCalm

/-- Giving the bank away brings the other one at once. -/
theorem swap_outline {grant : Grant} (side : grant.side = .sub) :
    Triple contract .sub grant.swap (At .sub A (room + 5) Still) fun _ => At .sub A room Calm := by
  obtain ⟨_, bank⟩ := grant
  obtain rfl : _ = Side.sub := side
  have begun : Triple contract .sub (Grant.beginSwap ⟨.sub, bank⟩) (At .sub A (room + 5) Still)
      fun pending w => pending = ⟨.sub, bank⟩ ∧ At .sub A (room + 3) Still w := by
    show Triple contract .sub
      ((Side.sub.setModeBits Side.sub.swapBit).bind fun _ => done (PendingSwap.mk .sub bank)) _ _
    exact (requestSwap_outline acked).bind fun _ => .done fun w h => ⟨rfl, h⟩
  refine begun.bind fun pending => Rules.Outline.assuming ?_
  intro same
  subst same
  refine .await (acked_standing acked).rests passes
    ((pollSwap_outline acked bank).weaken (fun _ h => h) ?_)
  rintro (_ | bank) w h
  · exact h
  · exact h

theorem discard_swap_outline {grant : Grant} (side : grant.side = .sub) :
    Triple contract .sub (discard grant.swap) (At .sub A (room + 5) Still)
      fun _ => At .sub A room Calm := by
  show Triple contract .sub (grant.swap.bind fun _ => done ()) _ _
  exact (swap_outline acked side).bind fun _ => .done fun w h => h

theorem enterBank_outline (bank : Bank) :
    Triple contract .sub (cycle (.enterBank bank)) (At .sub A (room + 1) Still)
      fun _ => At .sub A room (Inside bank) := by
  apply own_outline acked
  intro chip own
  have free : (chip.bank bank).occupied = false := own.free bank
  have eq : chip.perform .sub (.enterBank bank) = .ok ((chip.bank bank).bytes,
      { chip with
        banks := chip.banks.set bank.index ⟨(chip.bank bank).bytes, true⟩ bank.index_lt }) := by
    show chip.enterBank bank = _
    simp [GateArray.enterBank, free]
  refine ⟨_, _, eq, fun side => ?_, rfl, own.automatic, own.settled, fun other ne => ?_⟩
  · cases side <;> rfl
  · show BankCell.occupied (Vector.get (chip.banks.set _ _ bank.index_lt) _) = false
    rw [GateArray.get_set_bank, if_neg ne]
    exact own.free other

theorem leaveBank_outline (bank : Bank) (bytes : BankBytes) :
    Triple contract .sub (cycle (.leaveBank bank bytes)) (At .sub A (room + 1) (Inside bank))
      fun _ => At .sub A room Still := by
  apply own_outline acked
  intro chip own
  refine ⟨(), _, rfl, fun side => ?_, rfl, ⟨own.automatic, fun other => ?_⟩, own.settled⟩
  · cases side <;> rfl
  · show BankCell.occupied (Vector.get (chip.banks.set _ _ bank.index_lt) _) = false
    rw [GateArray.get_set_bank]
    split
    case isTrue => rfl
    case isFalse ne => exact own.free other ne

/-- The Sub processor works on its bank. -/
theorem withBytes_outline {α : Type} {grant : Grant} {work : BankBytes → Checked (α × BankBytes)}
    {Q : α → Prop} (works : ∀ bytes, Yields (work bytes) fun result => Q result.1) :
    Triple contract .sub (grant.withBytes work) (At .sub A (room + 2) Still)
      fun value w => Q value ∧ At .sub A room Still w := by
  refine (enterBank_outline acked grant.bank).bind ?_
  intro bytes
  obtain ⟨⟨value, bytes'⟩, eq, good⟩ := works bytes
  show Triple contract .sub ((ofChecked (work bytes)).bind _) _ _
  rw [eq]
  exact (leaveBank_outline acked grant.bank bytes').bind fun _ => .done fun w h => ⟨good, h⟩

/-! ## Commands with a bank -/

theorem publish_outline {W : GateArray.Workspace → Prop}
    (indifferent : ∀ own results, W own → W { own with results }) (word : Option UInt16) :
    Triple contract .sub (Dispatcher.publish word) (At .sub A (room + 1) W)
      fun _ => At .sub A room fun own => W own ∧ ∀ value ∈ word, own.results.first = value := by
  cases word with
  | none =>
    exact .done fun w h => h.weaken (fun holds => holds) (by omega) fun own known =>
      ⟨known, by rintro value ⟨⟩⟩
  | some word =>
    refine Rules.Outline.strengthen
      (writeResult_outline word (by decide) (acked_standing acked) acked) ?_
    refine fun w h => h.weaken (fun holds => holds) (Nat.le_refl _) fun own known =>
      ⟨indifferent _ _ known, fun value mem => ?_⟩
    cases mem
    exact Vector.getElem_set_self _

theorem returnBank_outline :
    Triple contract .sub Dispatcher.returnBank (At .sub A (room + 7) Calm)
      fun _ => At .sub A room Calm := by
  refine (acquire_outline acked).bind ?_
  rintro (e | grant)
  · exact .done fun w h => h.mono (fun _ holds => holds) (by omega)
  · apply Rules.Outline.assuming
    intro side
    exact (discard_swap_outline acked side).bind fun _ => .done fun w h => h

variable {R : Type} [Painter R]

/-- The damage is painted, unless the bank has not come back. -/
theorem renderFrame_outline {d : Dispatcher R} (sound : d.desktop.Sound)
    (paints : ∀ ops, (∀ op ∈ ops, PaintOp.Sound op) → Succeeds (Painter.paintAll d.painter ops)) :
    Triple contract .sub d.renderFrame (At .sub A (room + 12) Calm)
      fun result w => HasPainted d.responder result.2 ∧ At .sub A room Calm w := by
  have note (index : Nat) (inside : index < 8) (value : UInt16) (room : Nat) :
      Triple contract .sub (SubRegisters.writeResult index value) (At .sub A (room + 1) Calm)
        fun _ => At .sub A room Calm :=
    (writeResult_outline value inside (acked_standing acked) acked).strengthen fun w h =>
      h.weaken (fun holds => holds) (Nat.le_refl _) fun own known => ⟨known.automatic, known.free⟩
  refine (note 0 (by decide) _ (room + 11)).bind fun _ => ?_
  refine (note 1 (by decide) _ (room + 10)).bind fun _ => ?_
  refine (acquire_outline acked).bind ?_
  rintro (e | grant)
  · refine ((note 0 (by decide) _ (room + 7)).bind fun _ => .done fun w h => ?_)
    exact ⟨⟨sound, rfl⟩, h.mono (fun _ holds => holds) (by omega)⟩
  · apply Rules.Outline.assuming
    intro side
    refine (withBytes_outline acked (paintInto_yields sound paints)).bind ?_
    intro d'
    apply Rules.Outline.assuming
    intro painted
    refine (discard_swap_outline acked side).bind fun _ => ?_
    exact (note 0 (by decide) _ room).bind fun _ => .done fun w h =>
      ⟨⟨painted.sound, painted.responder⟩, h⟩

end

end Handshake

end TwinDesk
