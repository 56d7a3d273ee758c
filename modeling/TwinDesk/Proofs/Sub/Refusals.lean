import TwinDesk.Display.Drawing
import TwinDesk.Proofs.Link.Runs
import TwinDesk.Proofs.Sub.Execution

/-!
# Commands that are refused

A command is answered with `ERROR` for one of three reasons: its opcode is not handled, its pointer
event is of no kind, or it needs a bank while the Sub processor has none. None of them leaves a
trace, except that a frame without a bank has noted in the first two result words how far it came.

* `Refused` — the three reasons.
* `Inert` — what a trace would be.
* `Dispatcher.error_iff_refused` — every other command is done, and the refused ones change nothing.
-/

namespace TwinDesk

open Program

variable {completes : Nat → Bool} {touched : Nat → Prop} {limit count index : Nat}

/-! ## The Sub processor alone on the bus -/

/-- A chip on which only the Sub processor makes bus cycles, and their number so far. -/
structure Solo where
  chip : GateArray
  cycles : Nat

namespace Solo

/-- Just before a bus cycle, the chip completes the waiting exchange requests if this is one of the
moments at which it does. -/
def tick (completes : Nat → Bool) (w : Solo) : Solo :=
  ⟨if completes w.cycles then w.chip.stepHardware.2 else w.chip, w.cycles + 1⟩

/-- One bus cycle of the Sub processor. -/
def perform (completes : Nat → Bool) (a : Access) (w : Solo) : Except Halt a.Answer × Solo :=
  let w := w.tick completes
  match w.chip.perform .sub a with
  | .ok (answer, chip) => (.ok answer, { w with chip })
  | .error e => (.error (.fault e), w)

/-- The Sub processor has written result word `index`. -/
def note (completes : Nat → Bool) (w : Solo) (index : Nat) (value : UInt16) : Solo :=
  { w.tick completes with
    chip := (w.tick completes).chip.setWord .sub (0x20 + 2 * index) value }

/-- What the chip does by itself while so many bus cycles pass. -/
def pass (completes : Nat → Bool) (w : Solo) : Nat → Solo
  | 0 => w
  | count + 1 => (w.pass completes count).tick completes

end Solo

/-- After so many bus cycles everything is as the chip alone has left it, except for the bytes that
may have been touched. -/
structure Inert (completes : Nat → Bool) (touched : Nat → Prop) (count : Nat) (w w' : Solo) :
    Prop where
  cycles : w'.cycles = w.cycles + count
  mode : w'.chip.mode = (w.pass completes count).chip.mode
  banks : w'.chip.banks = w.chip.banks
  automatic : w'.chip.automatic = w.chip.automatic
  /-- The low byte of the memory mode register is spoken of above. -/
  bytes (offset : Nat) (plain : offset ≠ 3) (untouched : ¬touched offset) :
    w'.chip.byteAt offset = w.chip.byteAt offset

/-! ## Reasons to refuse a command -/

/-- The commands that are handled. -/
def Dispatcher.handled : List Opcode :=
  [.initOs, .renderFrame, .wramSwap, .openWindow, .closeWindow, .moveWindow, .cdPlay, .cdStop,
    .mouseEvent]

/-- In which of its bus cycles a command looks whether the Sub processor has a bank: after reading
the four parameter words, and a frame also after writing two result words. -/
def Opcode.look : Opcode → Nat
  | .renderFrame => 7
  | _ => 5

/-- Why a command is answered with `ERROR`. -/
inductive Refused (completes : Nat → Bool) (w : Solo) (raw : UInt8) : Prop where
  | unhandled (unhandled : ∀ opcode ∈ Dispatcher.handled, opcode.code ≠ raw)
  | malformed (event : Opcode.mouseEvent.code = raw)
    (kindless : ∀ kind : PointerKind, kind.code ≠ (w.chip.params.word2 >>> 8).toUInt8)
  /-- The Sub processor's own exchange request is still pending when the command looks. -/
  | bankless {opcode : Opcode} (bank : opcode = .renderFrame ∨ opcode = .wramSwap)
    (code : opcode.code = raw)
    (pending : (w.pass completes opcode.look).chip.mode.returning = true)

/-- The bytes that a refused command may touch: a frame its first two result words. -/
def Refused.touches (raw : UInt8) (offset : Nat) : Prop :=
  raw = Opcode.renderFrame.code ∧ 0x20 ≤ offset ∧ offset < 0x24

/-! ## Runs of the Sub processor -/

namespace Solo

variable {w : Solo}

theorem byteAt_tick (w : Solo) {offset : Nat} (plain : offset ≠ 3) :
    (w.tick completes).chip.byteAt offset = w.chip.byteAt offset := by
  unfold tick GateArray.stepHardware
  by_cases completed : completes w.cycles <;> by_cases pending : w.chip.mode.pending <;>
    simp [completed, pending, GateArray.byteAt, plain]

theorem banks_tick (w : Solo) : (w.tick completes).chip.banks = w.chip.banks := by
  unfold tick GateArray.stepHardware
  by_cases completed : completes w.cycles <;> by_cases pending : w.chip.mode.pending <;>
    simp [completed, pending]

theorem automatic_tick (w : Solo) : (w.tick completes).chip.automatic = w.chip.automatic := by
  unfold tick GateArray.stepHardware
  by_cases completed : completes w.cycles <;> by_cases pending : w.chip.mode.pending <;>
    simp [completed, pending]

/-- The chip's own step depends on the memory mode register and the moment only. -/
theorem mode_tick_congr {w w' : Solo} (mode : w'.chip.mode = w.chip.mode)
    (cycles : w'.cycles = w.cycles) :
    (w'.tick completes).chip.mode = (w.tick completes).chip.mode := by
  unfold tick GateArray.stepHardware
  rw [mode, cycles]
  by_cases completed : completes w.cycles <;> by_cases pending : w.chip.mode.pending <;>
    simp [completed, pending, mode]

theorem cycles_pass (w : Solo) (count : Nat) :
    (w.pass completes count).cycles = w.cycles + count := by
  induction count with
  | zero => rfl
  | succ count ih =>
    show (w.pass completes count).cycles + 1 = _
    rw [ih, Nat.add_assoc]

end Solo

namespace Inert

variable {w w' : Solo}

theorem refl (w : Solo) : Inert completes touched 0 w w where
  cycles := rfl
  mode := rfl
  banks := rfl
  automatic := rfl
  bytes _ _ _ := rfl

theorem tick (h : Inert completes touched count w w') :
    Inert completes touched (count + 1) w (w'.tick completes) where
  cycles := by
    show w'.cycles + 1 = _
    rw [h.cycles, Nat.add_assoc]
  mode := Solo.mode_tick_congr h.mode (h.cycles.trans (Solo.cycles_pass w count).symm)
  banks := (Solo.banks_tick w').trans h.banks
  automatic := (Solo.automatic_tick w').trans h.automatic
  bytes offset plain untouched :=
    (Solo.byteAt_tick w' plain).trans (h.bytes offset plain untouched)

theorem pass (w : Solo) (count : Nat) :
    Inert completes touched count w (w.pass completes count) := by
  induction count with
  | zero => exact refl w
  | succ count ih => exact ih.tick

/-- Result words are written into bytes that may be touched. -/
theorem note (h : Inert completes touched count w w')
    (known : ∀ offset, offset = 0x20 + 2 * index ∨ offset = 0x20 + 2 * index + 1 → touched offset)
    (value : UInt16) : Inert completes touched (count + 1) w (w'.note completes index value) := by
  have far : 4 ≤ 0x20 + 2 * index := by omega
  have ticked := h.tick
  obtain ⟨mode, banks, automatic⟩ := (w'.tick completes).chip.setWord_plain .sub far value
  refine ⟨ticked.cycles, mode.trans ticked.mode, banks.trans ticked.banks,
    automatic.trans ticked.automatic, ?_⟩
  intro offset plain untouched
  rw [← ticked.bytes offset plain untouched]
  apply GateArray.byteAt_setWord_of_ne _ _ far
  · intro same
    exact untouched (known offset (.inl same))
  · intro same
    exact untouched (known offset (.inr same))

end Inert

/-! ### Bus cycles -/

section

variable {w w' : Solo}

/-- A cycle that succeeds on the chip, after the chip's own step. -/
theorem run_cycle {a : Access} {answer : a.Answer} {chip : GateArray}
    (performs : (w.tick completes).chip.perform .sub a = .ok (answer, chip)) :
    (cycle a).run (Solo.perform completes) limit w =
      (.ok answer, { w.tick completes with chip }) := by
  simp only [cycle, run, Solo.perform, performs]

theorem run_readParam (h : index < 4) :
    (SubRegisters.readParam index).run (Solo.perform completes) limit w =
      (.ok ((w.tick completes).chip.params.word index), w.tick completes) := by
  have within : ¬4 ≤ index := Nat.not_le.mpr h
  rw [SubRegisters.readParam, if_neg within, Register.commandWord, if_pos (by omega)]
  exact run_cycle (GateArray.perform_readParam _ .sub h)

theorem run_writeResult (h : index < 8) (value : UInt16) :
    (SubRegisters.writeResult index value).run (Solo.perform completes) limit w =
      (.ok (), w.note completes index value) := by
  rw [SubRegisters.writeResult, Register.statusWord, if_pos h]
  exact run_cycle (GateArray.perform_writeResult _ h value)

theorem params_pass (w : Solo) (count : Nat) :
    (w.pass completes count).chip.params = w.chip.params := by
  have inert : Inert completes (fun _ => False) count w (w.pass completes count) := .pass w count
  have word {offset : Nat} (far : 4 ≤ offset) :
      (w.pass completes count).chip.wordAt offset = w.chip.wordAt offset := by
    rw [GateArray.wordAt, GateArray.wordAt, inert.bytes offset (by omega) not_false,
      inert.bytes (offset + 1) (by omega) not_false]
  simp only [GateArray.params, word (show 4 ≤ 0x10 by decide), word (show 4 ≤ 0x12 by decide),
    word (show 4 ≤ 0x14 by decide), word (show 4 ≤ 0x16 by decide)]

theorem run_readParams :
    SubRegisters.readParams.run (Solo.perform completes) limit w =
      (.ok w.chip.params, w.pass completes 4) := by
  have read {index : Nat} (h : index < 4) (count : Nat) :
      (SubRegisters.readParam index).run (Solo.perform completes) limit (w.pass completes count) =
        (.ok (w.chip.params.word index), w.pass completes (count + 1)) := by
    rw [run_readParam h]
    show (Except.ok ((w.pass completes (count + 1)).chip.params.word index), _) = _
    rw [params_pass]
    rfl
  refine (run_bind_of_ok _ (read (show 0 < 4 by decide) 0)).trans ?_
  refine (run_bind_of_ok _ (read (show 1 < 4 by decide) 1)).trans ?_
  refine (run_bind_of_ok _ (read (show 2 < 4 by decide) 2)).trans ?_
  refine (run_bind_of_ok _ (read (show 3 < 4 by decide) 3)).trans ?_
  rfl

theorem run_swapRequested :
    Side.sub.swapRequested.run (Solo.perform completes) limit w =
      (.ok (w.tick completes).chip.mode.returning, w.tick completes) := by
  have bit := MemMode.word_swapBit (w.tick completes).chip.mode .sub
  refine (run_bind_of_ok _ (run_cycle (GateArray.perform_readMode _ .sub))).trans ?_
  rw [bit]
  rfl

/-- While its own request is pending, the Sub processor has no bank. -/
theorem run_acquire_pending (pending : (w.tick completes).chip.mode.returning = true) :
    (Grant.acquire .sub).run (Solo.perform completes) limit w =
      (.ok (.error .swapPending), w.tick completes) := by
  refine (run_bind_of_ok _ run_swapRequested).trans ?_
  rw [pending]
  rfl

/-- Otherwise it has one. -/
theorem acquired_of_settled (settled : (w.tick completes).chip.mode.returning = false)
    {result : Except LinkError Grant}
    (ran : (Grant.acquire .sub).run (Solo.perform completes) limit w = (.ok result, w')) :
    ∃ grant, result = .ok grant := by
  have rest := (run_bind_of_ok _ run_swapRequested).symm.trans ran
  rw [settled] at rest
  refine Returns.of_run (fun result => ∃ grant, result = .ok grant) ?_ rest
  exact .after fun _ => ⟨_, rfl⟩

end

/-! ## Answers -/

namespace Dispatcher

variable {R : Type} [Painter R] {d d' : Dispatcher R} {raw : UInt8} {opcode : Opcode}
  {params : Params} {status : Status} {w w' : Solo}

/-- A known command is carried out with the parameters that lie in their registers. -/
theorem run_execute_code (d : Dispatcher R) (opcode : Opcode) :
    (d.execute opcode.code).run (Solo.perform completes) limit w =
      (d.perform opcode w.chip.params).run (Solo.perform completes) limit (w.pass completes 4) := by
  have known : Opcode.ofCode? opcode.code = some opcode := Opcode.ofCode?_eq_some_iff.mpr rfl
  unfold execute
  rw [known]
  exact run_bind_of_ok _ run_readParams

/-! ### Refused commands -/

theorem perform_unhandled (d : Dispatcher R) (params : Params) (unhandled : opcode ∉ handled) :
    d.perform opcode params = .done (.error, d) := by
  cases opcode with
  | none | boot | drawText | drawIcon | fileRead | fileWrite => rfl
  | _ => exact (unhandled (by decide)).elim

theorem perform_malformed (d : Dispatcher R)
    (kindless : ∀ kind : PointerKind, kind.code ≠ (params.word2 >>> 8).toUInt8) :
    d.perform .mouseEvent params = .done (.error, d) := by
  have none : PointerEvent.ofParams? params = none := by
    rw [PointerEvent.ofParams?, Option.map_eq_none_iff, Option.eq_none_iff_forall_ne_some]
    intro kind known
    exact kindless kind (PointerKind.ofCode?_eq_some_iff.mp known)
  unfold perform
  rw [none]
  rfl

theorem run_returnBank_pending (pending : (w.tick completes).chip.mode.returning = true) :
    (d.perform .wramSwap params).run (Solo.perform completes) limit w =
      (.ok (.error, d), w.tick completes) := by
  have refused : returnBank.run (Solo.perform completes) limit w =
      (.ok (.error .swapPending), w.tick completes) :=
    run_bind_of_ok _ (run_acquire_pending pending)
  exact run_bind_of_ok _ refused

/-- What a frame notes before it looks for a bank: that it is under way, and its share of damage. -/
def announced (completes : Nat → Bool) (w : Solo) (d : Dispatcher R) : Solo :=
  (w.note completes 0 Lifecycle.rendering.word).note completes 1
    (UInt16.ofNat d.desktop.compositor.pendingDamage)

theorem run_renderFrame_pending
    (pending : ((announced completes w d).tick completes).chip.mode.returning = true) :
    (d.perform .renderFrame params).run (Solo.perform completes) limit w =
      (.ok (.error, d),
        ((announced completes w d).tick completes).note completes 0 Lifecycle.ready.word) := by
  have refused : d.renderFrame.run (Solo.perform completes) limit w =
      (.ok (.error .swapPending, d),
        ((announced completes w d).tick completes).note completes 0 Lifecycle.ready.word) := by
    refine (run_bind_of_ok _ (run_writeResult (by decide) _)).trans ?_
    refine (run_bind_of_ok _ (run_writeResult (by decide) _)).trans ?_
    refine (run_bind_of_ok _ (run_acquire_pending pending)).trans ?_
    exact run_bind_of_ok _ (run_writeResult (by decide) _)
  exact run_bind_of_ok _ refused

theorem touches_result (h : index < 2) (offset : Nat)
    (mem : offset = 0x20 + 2 * index ∨ offset = 0x20 + 2 * index + 1) :
    Refused.touches Opcode.renderFrame.code offset := by
  refine ⟨rfl, ?_⟩
  omega

omit [Painter R] in
/-- A frame touches the first two result words only, up to its look for a bank. -/
theorem inert_announced (d : Dispatcher R) (w : Solo) :
    Inert completes (Refused.touches Opcode.renderFrame.code) 6 w
      (announced completes (w.pass completes 4) d) := by
  exact ((Inert.pass w 4).note (touches_result (show 0 < 2 by decide)) _).note
    (touches_result (show 1 < 2 by decide)) _

/-- A refused command is answered with `ERROR`, and nothing has changed. -/
theorem run_refused (d : Dispatcher R) (limit : Nat) (refused : Refused completes w raw) :
    ∃ count w', (d.execute raw).run (Solo.perform completes) limit w = (.ok (.error, d), w') ∧
      Inert completes (Refused.touches raw) count w w' := by
  cases refused with
  | unhandled unhandled =>
    cases known : Opcode.ofCode? raw with
    | none =>
      refine ⟨0, w, ?_, .refl w⟩
      unfold execute
      rw [known]
      rfl
    | some opcode =>
      obtain rfl := Opcode.ofCode?_eq_some_iff.mp known
      refine ⟨4, _, ?_, .pass w 4⟩
      rw [run_execute_code, perform_unhandled d _ fun mem => unhandled opcode mem rfl]
      rfl
  | malformed event kindless =>
    subst event
    refine ⟨4, _, ?_, .pass w 4⟩
    rw [run_execute_code, perform_malformed d kindless]
    rfl
  | bankless bank code pending =>
    subst code
    rcases bank with rfl | rfl
    · have looked : Inert completes _ 7 w _ := (inert_announced d w).tick
      refine ⟨8, _, ?_, looked.note (touches_result (show 0 < 2 by decide)) Lifecycle.ready.word⟩
      rw [run_execute_code]
      exact run_renderFrame_pending ((congrArg MemMode.returning looked.mode).trans pending)
    · refine ⟨5, _, ?_, .pass w 5⟩
      rw [run_execute_code]
      exact run_returnBank_pending pending

/-! ### Commands that are done -/

omit [Painter R] in
/-- A handled command without a bank is done, but for pointer events of no kind. -/
theorem effect_done (d : Dispatcher R) (handled : opcode ∈ handled)
    (plain : usesBank opcode = false)
    (kind : opcode = .mouseEvent → ∃ kind : PointerKind,
      kind.code = (params.word2 >>> 8).toUInt8) :
    Ensures (d.effect params opcode) fun result => result.1 = .done := by
  cases opcode with
  | renderFrame | wramSwap => cases plain
  | none | boot | drawText | drawIcon | fileRead | fileWrite =>
    exact absurd handled (by decide)
  | openWindow | closeWindow | moveWindow | cdPlay | cdStop => exact .pure rfl
  | initOs =>
    obtain ⟨fresh, eq, installed, -⟩ := Desktop.fresh_yields
    unfold effect
    rw [eq]
    refine .pure ?_
    rw [installed]
    rfl
  | mouseEvent =>
    obtain ⟨kind, code⟩ := kind rfl
    unfold effect
    rw [PointerEvent.ofParams?, PointerKind.ofCode?_eq_some_iff.mpr code]
    exact (Ensures.any _).bind fun _ _ => .pure rfl

theorem renderFrame_done
    (settled : ((announced completes w d).tick completes).chip.mode.returning = false)
    (ran : (d.perform .renderFrame params).run (Solo.perform completes) limit w =
      (.ok (status, d'), w')) : status = .done := by
  obtain ⟨⟨result, next⟩, between, framed, ended⟩ := parts_of_run_bind ran
  replace framed := (run_bind_of_ok _ (run_writeResult (by decide) _)).symm.trans framed
  replace framed := (run_bind_of_ok _ (run_writeResult (by decide) _)).symm.trans framed
  obtain ⟨acquired, after, acquiring, framed⟩ := parts_of_run_bind framed
  obtain ⟨grant, rfl⟩ := acquired_of_settled settled acquiring
  have painted : ∃ count, result = .ok count := by
    refine Returns.of_run (fun result => ∃ count, result.1 = .ok count) ?_ framed
    exact .after fun _ => .after fun _ => .after fun _ => ⟨_, rfl⟩
  obtain ⟨count, rfl⟩ := painted
  cases ended
  rfl

theorem returnBank_done (settled : (w.tick completes).chip.mode.returning = false)
    (ran : (d.perform .wramSwap params).run (Solo.perform completes) limit w =
      (.ok (status, d'), w')) : status = .done := by
  obtain ⟨result, between, returned, ended⟩ := parts_of_run_bind ran
  obtain ⟨acquired, after, acquiring, returned⟩ := parts_of_run_bind returned
  obtain ⟨grant, rfl⟩ := acquired_of_settled settled acquiring
  have swapped : result = .ok () := by
    refine Returns.of_run (fun result => result = .ok ()) ?_ returned
    exact .after fun _ => rfl
  subst swapped
  cases ended
  rfl

/-- A command that is not refused is done, if it comes to an end at all. -/
theorem done_of_not_refused (accepted : ¬Refused completes w raw)
    (ran : (d.execute raw).run (Solo.perform completes) limit w = (.ok (status, d'), w')) :
    status = .done := by
  cases known : Opcode.ofCode? raw with
  | none =>
    refine (accepted (.unhandled fun opcode _ same => ?_)).elim
    rw [Opcode.ofCode?_eq_some_iff.mpr same] at known
    cases known
  | some opcode =>
    obtain rfl := Opcode.ofCode?_eq_some_iff.mp known
    rw [run_execute_code] at ran
    have handled : opcode ∈ handled := by
      by_contra absent
      refine accepted (.unhandled fun other mem same => absent ?_)
      rwa [← Opcode.code_injective same]
    cases bank : usesBank opcode with
    | true =>
      have settled : (w.pass completes opcode.look).chip.mode.returning = false := by
        by_contra pending
        exact accepted (.bankless (eq_of_usesBank bank) rfl (Bool.eq_true_of_not_eq_false pending))
      rcases eq_of_usesBank bank with rfl | rfl
      · have looked : Inert completes _ 7 w _ := (inert_announced d w).tick
        exact renderFrame_done ((congrArg MemMode.returning looked.mode).trans settled) ran
      · exact returnBank_done settled ran
    | false =>
      rw [perform_eq _ _ bank] at ran
      refine Returns.of_run (fun result => result.1 = .done) ?_ ran
      refine (Returns.ofChecked (d.effect_done handled bank ?_)).bind fun _ same =>
        .after fun _ => same
      rintro rfl
      by_contra kindless
      exact accepted (.malformed rfl fun kind code => kindless ⟨kind, code⟩)

/-- A fresh desktop can always be made. -/
theorem run_initOs (d : Dispatcher R) (limit : Nat) (w : Solo) :
    ∃ d' w', (d.execute Opcode.initOs.code).run (Solo.perform completes) limit w =
      (.ok (.done, d'), w') := by
  obtain ⟨⟨result, desktop⟩, eq, installed, -⟩ := Desktop.fresh_yields
  obtain rfl : result = .ok () := installed
  refine ⟨{ d with desktop }, w.pass completes 4, ?_⟩
  rw [run_execute_code, perform_eq _ _ rfl, effect, eq]
  rfl

/-! ## No side effects -/

/-- Whatever the state of the dispatcher, whatever byte is posted with whatever parameters, and
whenever the chip completes exchanges: a command that comes to an end is answered with `ERROR`
exactly if it is refused, and then nothing has changed. A refused command does come to its end, and
so does `INIT_OS`, which is never refused. -/
theorem error_iff_refused (d : Dispatcher R) (raw : UInt8) (completes : Nat → Bool) (limit : Nat)
    (w : Solo) :
    (∀ status d' w', (d.execute raw).run (Solo.perform completes) limit w =
        (.ok (status, d'), w') →
      (status = .error ↔ Refused completes w raw) ∧ (status ≠ .error → status = .done) ∧
        (status = .error →
          d' = d ∧ ∃ count, Inert completes (Refused.touches raw) count w w')) ∧
      (Refused completes w raw → ∃ w', (d.execute raw).run (Solo.perform completes) limit w =
        (.ok (.error, d), w')) ∧
      ∃ d' w', (d.execute Opcode.initOs.code).run (Solo.perform completes) limit w =
        (.ok (.done, d'), w') := by
  refine ⟨?_, ?_, run_initOs d limit w⟩
  · intro status d' w' ran
    by_cases refused : Refused completes w raw
    · obtain ⟨count, w'', ended, inert⟩ := run_refused d limit refused
      cases ended.symm.trans ran
      exact ⟨iff_of_true rfl refused, fun ne => absurd rfl ne, fun _ => ⟨rfl, count, inert⟩⟩
    · obtain rfl := done_of_not_refused refused ran
      exact ⟨iff_of_false nofun refused, fun _ => rfl, nofun⟩
  · intro refused
    obtain ⟨count, w', ended, -⟩ := run_refused d limit refused
    exact ⟨w', ended⟩

/-- A chip that never completes the exchange that the Sub processor has asked for. -/
def stalled : Solo :=
  ⟨{ GateArray.initial false with mode := { MemMode.initial with returning := true } }, 0⟩

/-- On such a chip a frame is refused. -/
theorem error_iff_refused_stalled :
    Refused (fun _ => false) stalled Opcode.renderFrame.code ∧
      ∃ w' count, ((Dispatcher.initial Canvas.blank (.standIns [])).execute
          Opcode.renderFrame.code).run (Solo.perform fun _ => false) 0 stalled =
            (.ok (.error, Dispatcher.initial Canvas.blank (.standIns [])), w') ∧
        Inert (fun _ => false) (Refused.touches Opcode.renderFrame.code) count stalled w' := by
  have refused : Refused (fun _ => false) stalled Opcode.renderFrame.code :=
    .bankless (.inl rfl) rfl rfl
  obtain ⟨answered, ends, -⟩ := error_iff_refused (Dispatcher.initial Canvas.blank (.standIns []))
    Opcode.renderFrame.code (fun _ => false) 0 stalled
  obtain ⟨w', ended⟩ := ends refused
  obtain ⟨-, -, unchanged⟩ := answered .error _ w' ended
  obtain ⟨-, count, inert⟩ := unchanged rfl
  exact ⟨refused, w', count, ended, inert⟩

end Dispatcher

end TwinDesk
