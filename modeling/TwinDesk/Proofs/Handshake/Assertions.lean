import TwinDesk.Proofs.Handshake.World

/-!
# Assertions about a handshake

What one processor may know between two of its bus cycles: something about the course, something
about its own registers, and how many cycles it may still let pass before it has to take the course
further. Such an assertion outlasts the other processor as soon as its part about the course
outlasts the steps of the cycle that the other processor takes.

* `At.stable` — the other processor cannot spoil an assertion.
* `performs_linger`, `performs_advance` — bus cycles by what they do to the course.
* `Shows.post`, `Shows.ack`, `Shows.signal`, `Shows.release`, `Shows.settle` — the flag writes that
  take the course through the command cycle.
-/

namespace TwinDesk.Handshake

open Program

variable {contract : Contract} {side : Side} {between : World contract → Prop}

/-- What a processor knows: `A` about the course, `R` about its own registers, and that it may let
`room` bus cycles pass. -/
structure At (side : Side) (A : Course → Prop) (room : Nat) (R : Registers side → Prop)
    (w : World contract) : Prop where
  course : A w.course
  room : w.waited side + room ≤ pace
  own : R (registers w.chip side)

/-- A statement about the course that outlasts the steps of the other side. -/
def Outlasts (side : Side) (A : Course → Prop) : Prop :=
  ∀ ⦃c c'⦄, Course.Step side.peer c c' → A c → A c'

/-- A statement that says nothing about the registers. -/
@[reducible] def anything {side : Side} : Registers side → Prop := fun _ => True

namespace At

variable {A A' : Course → Prop} {room room' : Nat} {R R' : Registers side → Prop}
  {w : World contract}

theorem weaken (h : At side A room R w) (hA : A w.course → A' w.course) (hroom : room' ≤ room)
    (hR : ∀ r, R r → R' r) : At side A' room' R' w :=
  ⟨hA h.course, Nat.le_trans (Nat.add_le_add_left hroom _) h.room, hR _ h.own⟩

theorem mono (h : At side A room R w) (hA : ∀ c, A c → A' c) (hroom : room' ≤ room) :
    At side A' room' R w :=
  h.weaken (hA _) hroom fun _ h => h

theorem stable (outlasts : Outlasts side A) :
    (handshake contract).Stable side (At side A room R) := by
  rintro w w' ⟨own, how⟩ h
  have same : registers w'.chip side = registers w.chip side := by
    cases side <;> exact own
  rcases how with lingers | advances
  · have waited : w'.waited side = w.waited side := by
      have peer := lingers.peer
      rwa [Side.peer_peer] at peer
    refine ⟨?_, ?_, ?_⟩
    · rw [lingers.course]
      exact h.course
    · rw [waited]
      exact h.room
    · rw [same]
      exact h.own
  · refine ⟨outlasts advances.step h.course, ?_, ?_⟩
    · have := h.room
      rw [advances.waited side]
      omega
    · rw [same]
      exact h.own

/-- Nobody is in a hurry where the number of commands is open. -/
theorem refreshed (unlimited : contract.limit = none) (h : At side A room R w) :
    At side A pace R w := by
  have rested : ¬ Due contract side w.course := by
    rintro ⟨limit, eq, -⟩
    cases unlimited.symm.trans eq
  refine ⟨h.course, ?_, h.own⟩
  rw [w.unhurried side rested, Nat.zero_add]

theorem rests (outlasts : Outlasts side A)
    (entails : ∀ w : World contract, A w.course → between w) :
    (handshake contract).Rests side between (At side A room R) :=
  ⟨stable outlasts, fun w h => entails w h.course⟩

end At

theorem Outlasts.and {A B : Course → Prop} (hA : Outlasts side A) (hB : Outlasts side B) :
    Outlasts side fun c => A c ∧ B c :=
  fun _ _ step h => ⟨hA step h.1, hB step h.2⟩

/-- Nobody but the mover takes a course further. -/
theorem outlasts_of_mover {A : Course → Prop} (h : ∀ c, A c → c.stage.mover = side) :
    Outlasts side A := by
  intro c c' step holds
  have mine := h c holds
  rw [step.mover] at mine
  cases side <;> cases mine

/-! ## Bus cycles by what they do to the course -/

/-- A bus cycle that leaves the course alone uses up one cycle of the room, except that a processor
that is not due has all the room again afterwards. -/
theorem performs_linger {a : Access} {A : Course → Prop} {room : Nat} {R : Registers side → Prop}
    {A' : a.Answer → Course → Prop} {room' : a.Answer → Nat}
    {R' : a.Answer → Registers side → Prop}
    (h : ∀ w : World contract, A w.course → R (registers w.chip side) →
      ∃ answer chip', w.chip.perform side a = .ok (answer, chip') ∧
        Preserves side w.course w.chip chip' ∧ A' answer w.course ∧
        R' answer (registers chip' side) ∧
        (room' answer ≤ room ∨ (¬ Due contract side w.course ∧ room' answer ≤ pace))) :
    (handshake contract).Performs side a (At side A (room + 1) R)
      fun answer => At side (A' answer) (room' answer) (R' answer) := by
  intro w holds
  obtain ⟨answer, chip', eq, kept, course, regs, left⟩ := h w holds.course holds.own
  have space := holds.room
  obtain ⟨w', rfl, same, move, waited⟩ := w.linger side chip' kept (by omega)
  refine ⟨answer, w', eq, move, same ▸ course, ?_, regs⟩
  rcases left with fits | ⟨rested, fits⟩
  · omega
  · rw [w'.unhurried side (same ▸ rested)]
    omega

/-- A bus cycle that takes the course further. -/
theorem performs_advance {a : Access} {A : Course → Prop} {room : Nat} {R : Registers side → Prop}
    {A' : a.Answer → Course → Prop} {R' : a.Answer → Registers side → Prop}
    (h : ∀ w : World contract, A w.course → R (registers w.chip side) →
      ∃ answer chip' course', w.chip.perform side a = .ok (answer, chip') ∧
        Course.Step side w.course course' ∧ Shows contract chip' course' ∧
        registers chip' side.peer = registers w.chip side.peer ∧ A' answer course' ∧
        R' answer (registers chip' side)) :
    (handshake contract).Performs side a (At side A room R)
      fun answer => At side (A' answer) pace (R' answer) := by
  intro w holds
  obtain ⟨answer, chip', course', eq, step, shows, peer, course, regs⟩ :=
    h w holds.course holds.own
  obtain ⟨w', rfl, same, move, waited⟩ := w.advance step shows peer
  refine ⟨answer, w', eq, move, same ▸ course, ?_, regs⟩
  rw [waited]
  exact Nat.le_of_eq (Nat.zero_add _)

/-- The next round of a loop uses up one cycle of the room. -/
theorem passes {A : Course → Prop} {room : Nat} {R : Registers side → Prop} :
    (handshake contract).Passes side (At side A (room + 1) R) (At side A room R) := by
  intro w holds
  have space := holds.room
  obtain ⟨w', chip, same, move, waited⟩ := w.linger side w.chip .rfl (by omega)
  refine ⟨w', chip, move, same ▸ holds.course, by omega, ?_⟩
  rw [chip]
  exact holds.own

/-! ## The flag writes of the command cycle -/

namespace Shows

variable {chip : GateArray} {c : Course}

theorem post {code : UInt8} (shows : Shows contract chip c) (rest : c.stage = .rest)
    (nonzero : code ≠ 0) (admits : contract.Admits c.requests ⟨code, chip.params⟩) :
    Shows contract (chip.store .main Side.main.flag.toNat code)
      ⟨.posted, c.requests ++ [⟨code, chip.params⟩], c.replies⟩ where
  flag side := by
    cases side with
    | main =>
      rw [GateArray.flag_setFlag_self]
      simp [Course.flag, Stage.raised]
    | sub =>
      have flag := shows.flag .sub
      rw [Course.flag, rest] at flag
      exact (GateArray.flag_setFlag_peer chip .main code).trans flag
  count := by
    have count := shows.count
    rw [rest] at count
    simpa [Stage.isOpen] using count
  begun _ := List.append_ne_nil_of_right_ne_nil _ (List.cons_ne_nil _ _)
  request _ r last := by
    obtain rfl : _ = r := by simpa using last
    exact ⟨nonzero, GateArray.params_setFlag chip .main code⟩
  reply closed := by cases closed
  limit limit mem := by
    have := admits.space limit mem
    simp only [List.length_append, List.length_singleton]
    omega
  permitted r mem := by
    rcases List.mem_append.mp mem with old | new
    · exact shows.permitted r old
    · obtain rfl := List.mem_singleton.mp new
      exact admits.permits

theorem ack (shows : Shows contract chip c) (posted : c.stage = .posted) :
    Shows contract (chip.store .sub Side.sub.flag.toNat Status.busy.code)
      ⟨.acked, c.requests, c.replies⟩ where
  flag side := by
    cases side with
    | main =>
      have flag := shows.flag .main
      rw [Course.flag, posted] at flag
      exact (GateArray.flag_setFlag_peer chip .sub _).trans flag
    | sub => exact GateArray.flag_setFlag_self chip .sub _
  count := by
    have count := shows.count
    rwa [posted] at count
  begun _ := shows.begun (by rw [posted]; decide)
  request _ r last := by
    obtain ⟨code, params⟩ := shows.request (by rw [posted]; rfl) r last
    exact ⟨code, (GateArray.params_setFlag chip .sub _).trans params⟩
  reply closed := by cases closed
  limit := shows.limit
  permitted := shows.permitted

theorem signal {status : Status} (shows : Shows contract chip c) (acked : c.stage = .acked)
    (terminal : status.isTerminal = true)
    (answers : contract.Answers c.requests ⟨status, chip.results⟩) :
    Shows contract (chip.store .sub Side.sub.flag.toNat status.code)
      ⟨.signalled, c.requests, c.replies ++ [⟨status, chip.results⟩]⟩ where
  flag side := by
    cases side with
    | main =>
      have flag := shows.flag .main
      rw [Course.flag, acked] at flag
      exact (GateArray.flag_setFlag_peer chip .sub _).trans flag
    | sub =>
      rw [GateArray.flag_setFlag_self]
      simp [Course.flag]
  count := by
    have count := shows.count
    rw [acked] at count
    simpa [Stage.isOpen] using count
  begun _ := shows.begun (by rw [acked]; decide)
  request _ r last := by
    obtain ⟨code, params⟩ := shows.request (by rw [acked]; rfl) r last
    exact ⟨code, (GateArray.params_setFlag chip .sub _).trans params⟩
  reply _ r last := by
    obtain rfl : _ = r := by simpa using last
    have workspace := GateArray.workspace_setFlag chip .sub status.code
    exact ⟨terminal, congrArg GateArray.Workspace.results workspace, answers⟩
  limit := shows.limit
  permitted := shows.permitted

theorem release (shows : Shows contract chip c) (signalled : c.stage = .signalled) :
    Shows contract (chip.store .main Side.main.flag.toNat Opcode.none.code)
      ⟨.released, c.requests, c.replies⟩ where
  flag side := by
    cases side with
    | main => exact GateArray.flag_setFlag_self chip .main _
    | sub =>
      have flag := shows.flag .sub
      rw [Course.flag, signalled] at flag
      exact (GateArray.flag_setFlag_peer chip .main _).trans flag
  count := by
    have count := shows.count
    rwa [signalled] at count
  begun _ := shows.begun (by rw [signalled]; decide)
  request raised := by cases raised
  reply _ r last := by
    obtain ⟨terminal, words, answers⟩ := shows.reply (by rw [signalled]; rfl) r last
    have workspace := GateArray.workspace_setFlag chip .main Opcode.none.code
    exact ⟨terminal, (congrArg GateArray.Workspace.results workspace).trans words, answers⟩
  limit := shows.limit
  permitted := shows.permitted

theorem settle (shows : Shows contract chip c) (released : c.stage = .released) :
    Shows contract (chip.store .sub Side.sub.flag.toNat Status.idle.code)
      ⟨.rest, c.requests, c.replies⟩ where
  flag side := by
    cases side with
    | main =>
      have flag := shows.flag .main
      rw [Course.flag, released] at flag
      exact (GateArray.flag_setFlag_peer chip .sub _).trans flag
    | sub => exact GateArray.flag_setFlag_self chip .sub _
  count := by
    have count := shows.count
    rwa [released] at count
  begun rest := absurd rfl rest
  request raised := by cases raised
  reply _ r last := by
    obtain ⟨terminal, words, answers⟩ := shows.reply (by rw [released]; rfl) r last
    have workspace := GateArray.workspace_setFlag chip .sub Status.idle.code
    exact ⟨terminal, (congrArg GateArray.Workspace.results workspace).trans words, answers⟩
  limit := shows.limit
  permitted := shows.permitted

end Shows

end TwinDesk.Handshake
