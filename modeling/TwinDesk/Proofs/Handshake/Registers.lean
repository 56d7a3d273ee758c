import TwinDesk.Proofs.Handshake.Assertions

/-!
# Outlines of single registers

The register accesses of the link, as steps of a handshake: looks at the peer's flag, flag writes,
and the parameter and result words, each at the stage of the cycle at which it is made.

* `Standing` — what a program knows of the course before a bus cycle.
* `forever_outline`, `upTo_outline` — waits without end and with a bounded number of polls.
* `peerFlag_outline`, `setFlag_outline` — the two flags.
* `writeParam_outline`, `readParam_outline` — the parameters, from the side that writes them and
  from the side that reads them.
* `writeResult_outline`, `readResult_outline` — the results.
-/

namespace TwinDesk

open Program

namespace Handshake

variable {contract : Contract} {side : Side} {A B : Course → Prop} {room : Nat}

/-- A statement about the course that may stand before a bus cycle: it outlasts the other side and
entails `B`, which holds between the cycles of a program. -/
structure Standing (side : Side) (B A : Course → Prop) : Prop where
  outlasts : Outlasts side A
  within : ∀ c, A c → B c

variable (contract) in
/-- The outlines of the link, where `B` holds of the course between the cycles. -/
@[reducible] def Outlined {α : Type} (side : Side) (B : Course → Prop) (p : Program α)
    (P : World contract → Prop) (Q : α → World contract → Prop) : Prop :=
  (handshake contract).Outline side (fun w => B w.course) p P Q

namespace Standing

theorem rests {R : Registers side → Prop} (standing : Standing side B A) :
    (handshake contract).Rests side (fun w => B w.course) (At side A room R) :=
  At.rests standing.outlasts fun w h => standing.within w.course h

/-- At a stage that only `side` can end. -/
theorem of_stage (stage : Stage) (mover : stage.mover = side) (stands : ∀ c, A c → c.stage = stage)
    (within : ∀ c, A c → B c) : Standing side B A := by
  refine ⟨outlasts_of_mover fun c holds => ?_, within⟩
  rw [stands c holds]
  exact mover

/-- What does not speak of the course stands anyway. -/
theorem assuming {φ : Prop} (standing : Standing side B A) :
    Standing side B fun c => φ ∧ A c where
  outlasts _ _ step h := ⟨h.1, standing.outlasts step h.2⟩
  within c h := standing.within c h.2

end Standing

/-- Before a poll of a wait, the state is still the one that the wait began in. -/
def Unmoved {σ : Type} (A : Course → Prop) (state state' : σ) (c : Course) : Prop :=
  state' = state ∧ A c

theorem Standing.unmoved {σ : Type} (standing : Standing side B A) (state state' : σ) :
    Standing side B (Unmoved A state state') :=
  standing.assuming

/-- A wait whose polls keep their state until there is an answer. -/
theorem forever_outline {σ β : Type} {poll : Poll σ β} {state : σ} {R : Registers side → Prop}
    {Q : Except LinkError β × σ → World contract → Prop} (standing : Standing side B A)
    (around : Outlined contract side B (poll state) (At side A room R) fun
      | (.ok (some value), state') => Q (.ok value, state')
      | (.ok none, state') => fun w => state' = state ∧ At side A (room + 1) R w
      | (.error e, state') => Q (.error e, state')) :
    Outlined contract side B (poll.forever state) (At side A (room + 1) R) Q := by
  refine Rules.Outline.strengthen (Rules.Outline.forever
    (fun state' => At side (Unmoved A state state') (room + 1) R)
    (fun state' => At side (Unmoved A state state') room R)
    (fun state' => (standing.unmoved state state').rests) (fun _ => passes) fun state' => ?_)
    fun w h => h.mono (fun c holds => ⟨rfl, holds⟩) (Nat.le_refl _)
  refine Rules.Outline.strengthen (Rules.Outline.assuming fun same : state' = state => ?_)
    fun w h => ⟨h.course.1, h.mono (fun c holds => holds.2) (Nat.le_refl _)⟩
  subst same
  refine around.weaken (fun _ h => h) ?_
  rintro ⟨e | (_ | value), state''⟩ w h
  · exact h
  · exact h.2.mono (fun c holds => ⟨h.1, holds⟩) (Nat.le_refl _)
  · exact h

/-- The same wait with a bounded number of polls, which may run out. -/
theorem upTo_outline {σ β : Type} {poll : Poll σ β} {state : σ} {R : Registers side → Prop}
    {Q : Except LinkError β × σ → World contract → Prop}
    (around : Outlined contract side B (poll state) (At side A room R) fun
      | (.ok (some value), state') => Q (.ok value, state')
      | (.ok none, state') => fun w => state' = state ∧ At side A (room + 1) R w
      | (.error e, state') => Q (.error e, state'))
    (timeout : ∀ w, At side A (room + 1) R w → Q (.error .timeout, state) w) (polls : Nat) :
    Outlined contract side B (poll.upTo polls state) (At side A (room + 1) R) Q := by
  induction polls with
  | zero => exact .done timeout
  | succ polls ih =>
    refine Rules.Outline.bind
      (around.strengthen fun w h => h.mono (fun _ holds => holds) (Nat.le_succ _)) ?_
    rintro ⟨e | (_ | value), state'⟩
    · exact .done fun w h => h
    · apply Rules.Outline.assuming
      intro same
      subst same
      exact ih
    · exact .done fun w h => h

/-- Looking within a budget, by an assertion before every look. -/
theorem awaitWithin_outline {β : Type} {look : Program (Option β)} {R : Registers side → Prop}
    {Q : Except LinkError β → World contract → Prop}
    (around : Outlined contract side B look (At side A room R) fun
      | some value => Q (.ok value)
      | none => At side A (room + 1) R)
    (timeout : ∀ w, At side A (room + 1) R w → Q (.error .timeout) w) (budget : Budget) :
    Outlined contract side B (budget.await look) (At side A (room + 1) R) Q := by
  refine Rules.Outline.bind (upTo_outline (Q := fun result => Q result.1) (around.bind ?_) timeout
    budget.polls) fun result => .done fun w h => h
  rintro (_ | value)
  · exact .done fun w h => ⟨rfl, h⟩
  · exact .done fun w h => h

/-! ## Single registers -/

/-- A look at the flag of the other side. -/
theorem peerFlag_outline {R : Registers side → Prop} {A' : UInt8 → Course → Prop}
    {room' : UInt8 → Nat} (standing : Standing side B A)
    (next : ∀ w : World contract, A w.course → A' (w.course.flag side.peer) w.course ∧
      (room' (w.course.flag side.peer) ≤ room ∨
        (¬ Due contract side w.course ∧ room' (w.course.flag side.peer) ≤ pace))) :
    Outlined contract side B side.peerFlag (At side A (room + 1) R)
      fun flag => At side (A' flag) (room' flag) R := by
  refine .cycle standing.rests (performs_linger fun w holds own => ?_)
  obtain ⟨course, fits⟩ := next w holds
  have flag := w.shows.flag side.peer
  refine ⟨_, w.chip, GateArray.perform_readFlag w.chip side side.peer, .rfl, ?_, own, ?_⟩
  · rw [flag]
    exact course
  · rw [flag]
    exact fits

/-- A flag write that takes the course further. -/
theorem setFlag_outline {R : Registers side → Prop} {A' : Course → Prop} {value : UInt8}
    (standing : Standing side B A)
    (next : ∀ w : World contract, A w.course → R (registers w.chip side) →
      ∃ course', Course.Step side w.course course' ∧
        Shows contract (w.chip.store side side.flag.toNat value) course' ∧ A' course') :
    Outlined contract side B (side.setFlag value) (At side A room R)
      fun _ => At side A' pace R := by
  refine .cycle standing.rests (performs_advance fun w holds own => ?_)
  obtain ⟨course', step, shows, course⟩ := next w holds own
  have same (owner : Side) : registers (w.chip.store side side.flag.toNat value) owner =
      registers w.chip owner := by
    cases owner
    · exact GateArray.params_setFlag _ _ _
    · exact GateArray.workspace_setFlag _ _ _
  exact ⟨(), _, course', GateArray.perform_setFlag w.chip side value, step, shows, same _, course,
    same side ▸ own⟩

/-- While the course is at rest, the Main processor may change a parameter word. -/
theorem writeParam_outline {R : Params → Prop} {index : Nat} (value : UInt16) (h : index < 4)
    (standing : Standing .main B A) (rest : ∀ c, A c → c.stage = .rest) :
    Outlined contract .main B (MainRegisters.writeParam index value)
      (At .main A (room + 1) fun params => R (params.set index value))
      fun _ => At .main A room R := by
  have program : MainRegisters.writeParam index value =
      cycle (.writeWord (Register.command0 + UInt16.ofNat index * 2) value) := by
    unfold MainRegisters.writeParam Register.commandWord
    rw [if_neg (by omega), if_pos (by omega)]
    rfl
  rw [program]
  refine .cycle standing.rests (performs_linger fun w holds own => ?_)
  refine ⟨(), _, GateArray.perform_writeParam w.chip h value, ?_, holds, ?_, .inl (Nat.le_refl _)⟩
  · have workspace := GateArray.workspace_setParam w.chip .main h value
    refine ⟨fun owner => ?_, workspace, fun raised => ?_, fun _ => ?_⟩
    · exact GateArray.flag_setWord w.chip .main owner (by omega) value
    · rw [rest _ holds] at raised
      cases raised
    · exact congrArg GateArray.Workspace.results workspace
  · show R (GateArray.params _)
    rw [GateArray.params_setWord w.chip .main h value]
    exact own

/-- While a request is open, the Sub processor reads its parameter words. -/
theorem readParam_outline {R : GateArray.Workspace → Prop} {A' : UInt16 → Course → Prop}
    {index : Nat} (h : index < 4) (standing : Standing .sub B A)
    (acked : ∀ c, A c → c.stage = .acked)
    (next : ∀ c, A c → ∀ request, c.requests.getLast? = some request →
      A' (request.params.word index) c) :
    Outlined contract .sub B (SubRegisters.readParam index) (At .sub A (room + 1) R)
      fun word => At .sub (A' word) room R := by
  have program : SubRegisters.readParam index =
      cycle (.readWord (Register.command0 + UInt16.ofNat index * 2)) := by
    unfold SubRegisters.readParam Register.commandWord
    rw [if_neg (by omega), if_pos (by omega)]
    rfl
  rw [program]
  refine .cycle standing.rests (performs_linger fun w holds own => ?_)
  refine ⟨_, w.chip, GateArray.perform_readParam w.chip .sub h, .rfl, ?_, own,
    .inl (Nat.le_refl _)⟩
  have stage := acked _ holds
  have begun := w.shows.begun (by rw [stage]; decide)
  have last : w.course.requests.getLast? = some (w.course.requests.getLast begun) :=
    List.getLast?_eq_some_getLast begun
  obtain ⟨-, params⟩ := w.shows.request (by rw [stage]; rfl) _ last
  rw [params]
  exact next _ holds _ last

/-- While a command is carried out, the Sub processor may change a result word. -/
theorem writeResult_outline {R : GateArray.Workspace → Prop} {index : Nat} (value : UInt16)
    (h : index < 8) (standing : Standing .sub B A) (acked : ∀ c, A c → c.stage = .acked) :
    Outlined contract .sub B (SubRegisters.writeResult index value)
      (At .sub A (room + 1) fun own => R { own with results := own.results.set index value })
      fun _ => At .sub A room R := by
  have program : SubRegisters.writeResult index value =
      cycle (.writeWord (Register.status0 + UInt16.ofNat index * 2) value) := by
    unfold SubRegisters.writeResult Register.statusWord
    rw [if_pos h]
    rfl
  rw [program]
  refine .cycle standing.rests (performs_linger fun w holds own => ?_)
  have params := GateArray.params_setResult w.chip .sub index value
  refine ⟨(), _, GateArray.perform_writeResult w.chip h value, ?_, holds, ?_,
    .inl (Nat.le_refl _)⟩
  · refine ⟨fun owner => ?_, params, fun _ => params, fun closed => ?_⟩
    · exact GateArray.flag_setWord w.chip .sub owner (by omega) value
    · rw [acked _ holds] at closed
      cases closed
  · show R (GateArray.workspace _)
    rw [GateArray.workspace_setResult w.chip .sub h value]
    exact own

/-- The Main processor reads a result word. -/
theorem readResult_outline {A' : UInt16 → Course → Prop} {R : Params → Prop} {index : Nat}
    (h : index < 8) (standing : Standing .main B A)
    (next : ∀ w : World contract, A w.course → A' w.chip.results[index] w.course) :
    Outlined contract .main B (MainRegisters.readResult index) (At .main A (room + 1) R)
      fun word => At .main (A' word) room R := by
  have program : MainRegisters.readResult index =
      cycle (.readWord (Register.status0 + UInt16.ofNat index * 2)) := by
    unfold MainRegisters.readResult Register.statusWord
    rw [if_pos h]
    rfl
  rw [program]
  refine .cycle standing.rests (performs_linger fun w holds own => ?_)
  exact ⟨_, w.chip, GateArray.perform_readResult w.chip .main h, .rfl, next w holds, own,
    .inl (Nat.le_refl _)⟩

end Handshake

end TwinDesk
