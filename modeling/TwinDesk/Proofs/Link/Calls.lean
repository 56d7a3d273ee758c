import TwinDesk.Proofs.Link.Outline

/-!
# Two processors that make calls

Each processor makes one call after the other, in any order that its role allows. A call is a
program; its bus cycles interleave one by one with those of the other processor. What a call leaves
behind may depend on the chip as it is at its last bus cycle, so that an observer can note it.

* `System.Step` — one processor starts a call or makes one bus cycle.
* `System.Reachable.main_cycles`, `System.Reachable.sub_cycles` — a call that goes on undisturbed.
* `System.Upheld` — each processor is either between two calls, with its assertion in force, or
  inside one, with an outline ahead of it.
* `Rules.Upholds.also`, `Rules.Upholds.framed` — more that a processor upholds.
* `System.upheld_of_reachable` — every interleaving upholds the assertions, and no call faults.
-/

namespace TwinDesk

/-! ## Calls -/

/-- The calls of one processor whose state is `S`. -/
structure Role (S : Type) where
  Call : Type
  /-- When a call may be made. -/
  Allowed : Call → S → Prop
  /-- What a call does, and the state that it leaves. -/
  run : Call → S → Program (GateArray → S)

/-- A processor that makes calls. -/
inductive Processor (S : Type) : Type 1 where
  /-- Between two calls. -/
  | free (state : S)
  /-- Inside a call that began in `state`. -/
  | calling (state : S) (rest : Program (GateArray → S))

namespace Processor

variable {S : Type}

/-- The state of the processor, or the one in which its call began. -/
def state : Processor S → S
  | free state => state
  | calling state _ => state

/-- Goes on with what is left of a call; the call returns as soon as nothing is left. -/
def resume (chip : GateArray) (state : S) (rest : Program (GateArray → S)) : Processor S :=
  match rest.value? with
  | some leave => free (leave chip)
  | none => calling state rest

/-- One step of a processor: it starts a call, or makes one bus cycle of the call that it is in. -/
inductive Step (role : Role S) (side : Side) :
    Processor S → GateArray → Processor S → GateArray → Prop where
  | call {state : S} {chip : GateArray} (call : role.Call) (allowed : role.Allowed call state) :
    Step role side (free state) chip (resume chip state (role.run call state)) chip
  | cycle {state : S} {rest rest' : Program (GateArray → S)} {chip chip' : GateArray}
    (eq : rest.step side chip = .ok (rest', chip')) :
    Step role side (calling state rest) chip (resume chip' state rest') chip'

/-- So many bus cycles of the call that a processor is in, if it gets as far. -/
def cycles (side : Side) : Nat → Processor S → GateArray → Option (Processor S × GateArray)
  | 0, processor, chip => some (processor, chip)
  | n + 1, calling state rest, chip =>
    match rest.step side chip with
    | .ok (rest, chip) => cycles side n (resume chip state rest) chip
    | .error _ => none
  | _ + 1, free _, _ => none

/-- What every step keeps, so many bus cycles keep. -/
theorem cycles_keep {role : Role S} {side : Side} {I : Processor S → GateArray → Prop}
    (step : ∀ {p p' : Processor S} {chip chip' : GateArray}, I p chip →
      p.Step role side chip p' chip' → I p' chip') (n : Nat) {p p' : Processor S}
    {chip chip' : GateArray} (h : I p chip) (eq : p.cycles side n chip = some (p', chip')) :
    I p' chip' := by
  induction n generalizing p chip with
  | zero =>
    cases eq
    exact h
  | succ n ih =>
    cases p with
    | free state => cases eq
    | calling state rest =>
      unfold cycles at eq
      split at eq
      · rename_i stepped
        exact ih (step h (.cycle stepped)) eq
      · cases eq

end Processor

/-- The chip with a processor on either side. -/
structure System (M S : Type) where
  chip : GateArray
  main : Processor M
  sub : Processor S

namespace System

variable {M S : Type}

/-- One step of one of the processors. -/
inductive Step (main : Role M) (sub : Role S) : System M S → System M S → Prop where
  | main {chip chip' : GateArray} {m m' : Processor M} (s : Processor S)
    (step : m.Step main .main chip m' chip') : Step main sub ⟨chip, m, s⟩ ⟨chip', m', s⟩
  | sub {chip chip' : GateArray} {s s' : Processor S} (m : Processor M)
    (step : s.Step sub .sub chip s' chip') : Step main sub ⟨chip, m, s⟩ ⟨chip', m, s'⟩

/-- The systems that some interleaving leads to. -/
inductive Reachable (main : Role M) (sub : Role S) (start : System M S) : System M S → Prop where
  | start : Reachable main sub start start
  | step {system system' : System M S} (reachable : Reachable main sub start system)
    (step : Step main sub system system') : Reachable main sub start system'

namespace Reachable

variable {main : Role M} {sub : Role S} {start : System M S} {chip chip' : GateArray}

/-- The Main processor goes on with its call while the Sub processor waits. -/
theorem main_cycles {m m' : Processor M} {s : Processor S}
    (reachable : Reachable main sub start ⟨chip, m, s⟩) (n : Nat)
    (eq : m.cycles .main n chip = some (m', chip')) : Reachable main sub start ⟨chip', m', s⟩ :=
  Processor.cycles_keep (I := fun m chip => Reachable main sub start ⟨chip, m, s⟩)
    (fun reachable step => reachable.step (.main s step)) n reachable eq

/-- The Sub processor goes on with its call while the Main processor waits. -/
theorem sub_cycles {m : Processor M} {s s' : Processor S}
    (reachable : Reachable main sub start ⟨chip, m, s⟩) (n : Nat)
    (eq : s.cycles .sub n chip = some (s', chip')) : Reachable main sub start ⟨chip', m, s'⟩ :=
  Processor.cycles_keep (I := fun s chip => Reachable main sub start ⟨chip, m, s⟩)
    (fun reachable step => reachable.step (.sub m step)) n reachable eq

end Reachable

end System

/-! ## Assertions about calls -/

namespace Rules

variable {rules : Rules} {S : Type}

/-- What one processor upholds: an assertion between its calls, and a weaker one inside of them. -/
structure Upholds (rules : Rules) (side : Side) (role : Role S)
    (between : S → rules.World → Prop) (ready : S → rules.World → Prop) : Prop where
  stable : ∀ state, rules.Stable side (ready state)
  within : ∀ state w, ready state w → between state w
  call : ∀ call state, role.Allowed call state →
    rules.Outline side (between state) (role.run call state) (ready state)
      fun leave w => ready (leave (rules.chip w)) w

/-- What every call keeps of a processor's own state is upheld besides. -/
theorem Upholds.also {side : Side} {role : Role S} {between ready : S → rules.World → Prop}
    {J : S → Prop} (upholds : rules.Upholds side role between ready)
    (keeps : ∀ call state, J state →
      (role.run call state).Returns fun leave => ∀ chip, J (leave chip)) :
    rules.Upholds side role (fun state w => between state w ∧ J state)
      fun state w => ready state w ∧ J state where
  stable state _ _ move h := ⟨upholds.stable state move h.1, h.2⟩
  within state w h := ⟨upholds.within state w h.1, h.2⟩
  call call state allowed := by
    refine Rules.Outline.strengthen (.assuming fun holds : J state => ?_)
      fun w (h : ready state w ∧ J state) => ⟨h.2, h.1⟩
    refine (((upholds.call call state allowed).returning (keeps call state holds)).relax
      fun w h => ⟨h, holds⟩).weaken (fun _ h => h) fun leave w h => ⟨h.2, h.1 _⟩

/-- What holds before a call and outlasts every move holds inside of the call besides. -/
theorem Upholds.framed {side : Side} {role : Role S} {between ready F : S → rules.World → Prop}
    (upholds : rules.Upholds side role between ready) (kept : ∀ state, rules.Kept (F state))
    (begins : ∀ state w, ready state w → F state w) :
    rules.Upholds side role (fun state w => between state w ∧ F state w) ready where
  stable := upholds.stable
  within state w h := ⟨upholds.within state w h, begins state w h⟩
  call call state allowed :=
    ((upholds.call call state allowed).frame (kept state)).weaken
      (fun w h => ⟨h, begins state w h⟩) fun _ _ h => h.1

/-- The assertion that is in force for a processor. -/
def InForce (rules : Rules) (side : Side) (between ready : S → rules.World → Prop)
    (processor : Processor S) (w : rules.World) : Prop :=
  match processor with
  | .free state => ready state w
  | .calling state rest => rest.value? = none ∧
    Ahead side (between state) rest (fun leave w => ready (leave (rules.chip w)) w) w

namespace InForce

variable {side : Side} {between ready : S → rules.World → Prop} {role : Role S}
  {processor processor' : Processor S} {w w' : rules.World}

theorem moved (upholds : rules.Upholds side role between ready)
    (inForce : rules.InForce side between ready processor w)
    (move : rules.Moves side.peer w w') : rules.InForce side between ready processor w' := by
  cases processor with
  | free state => exact upholds.stable state move inForce
  | calling state rest => exact ⟨inForce.1, inForce.2.moved inForce.1 move⟩

theorem within (upholds : rules.Upholds side role between ready)
    (inForce : rules.InForce side between ready processor w) : between processor.state w := by
  cases processor with
  | free state => exact upholds.within state w inForce
  | calling state rest => exact inForce.2.between_of_running inForce.1

theorem resume {state : S} {rest : Program (GateArray → S)}
    (ahead : Ahead side (between state) rest (fun leave w => ready (leave (rules.chip w)) w) w) :
    rules.InForce side between ready (.resume (rules.chip w) state rest) w := by
  unfold Processor.resume
  split
  case h_1 leave eq =>
    rw [Program.eq_done_of_value? eq] at ahead
    exact ahead.finished
  case h_2 eq => exact ⟨eq, ahead⟩

/-- What a processor does keeps its own assertion in force. -/
theorem step (upholds : rules.Upholds side role between ready) {chip' : GateArray}
    (inForce : rules.InForce side between ready processor w)
    (step : processor.Step role side (rules.chip w) processor' chip') :
    ∃ w', rules.chip w' = chip' ∧ (w' = w ∨ rules.Moves side w w') ∧
      rules.InForce side between ready processor' w' := by
  generalize chip : rules.chip w = before at step
  cases step with
  | call call allowed =>
    subst chip
    exact ⟨w, rfl, .inl rfl, resume (.of_outline (upholds.call call _ allowed) inForce)⟩
  | cycle eq =>
    subst chip
    obtain ⟨p', w', eq', move, ahead⟩ := inForce.2.step inForce.1
    rw [eq] at eq'
    cases eq'
    exact ⟨w', rfl, .inr move, resume ahead⟩

/-- Nothing stops a processor that is inside a call. -/
theorem runs {state : S} {rest : Program (GateArray → S)}
    (inForce : rules.InForce side between ready (.calling state rest) w) :
    ∃ next, rest.step side (rules.chip w) = .ok next := by
  obtain ⟨p', w', eq, -⟩ := inForce.2.step inForce.1
  exact ⟨_, eq⟩

end InForce

end Rules

namespace System

variable {rules : Rules} {M S : Type} {main : Role M} {sub : Role S}
  {betweenM readyM : M → rules.World → Prop} {betweenS readyS : S → rules.World → Prop}

/-- There is a world in which the assertions of both processors are in force. -/
def Upheld (rules : Rules) (betweenM readyM : M → rules.World → Prop)
    (betweenS readyS : S → rules.World → Prop) (system : System M S) : Prop :=
  ∃ w, rules.chip w = system.chip ∧ rules.InForce .main betweenM readyM system.main w ∧
    rules.InForce .sub betweenS readyS system.sub w

/-- A step keeps the assertions of both processors in force, and is a move unless a call begins. -/
theorem moved_of_step (upholdsM : rules.Upholds .main main betweenM readyM)
    (upholdsS : rules.Upholds .sub sub betweenS readyS) {system system' : System M S}
    {w : rules.World} (chip : rules.chip w = system.chip)
    (inForceM : rules.InForce .main betweenM readyM system.main w)
    (inForceS : rules.InForce .sub betweenS readyS system.sub w)
    (step : Step main sub system system') :
    ∃ w', (w' = w ∨ ∃ side, rules.Moves side w w') ∧ rules.chip w' = system'.chip ∧
      rules.InForce .main betweenM readyM system'.main w' ∧
      rules.InForce .sub betweenS readyS system'.sub w' := by
  cases step with
  | main s step =>
    cases chip
    obtain ⟨w', rfl, same | move, inForce⟩ := inForceM.step upholdsM step
    · exact ⟨w', .inl same, rfl, inForce, same ▸ inForceS⟩
    · exact ⟨w', .inr ⟨_, move⟩, rfl, inForce, inForceS.moved upholdsS move⟩
  | sub m step =>
    cases chip
    obtain ⟨w', rfl, same | move, inForce⟩ := inForceS.step upholdsS step
    · exact ⟨w', .inl same, rfl, same ▸ inForceM, inForce⟩
    · exact ⟨w', .inr ⟨_, move⟩, rfl, inForceM.moved upholdsM move, inForce⟩

theorem upheld_of_step (upholdsM : rules.Upholds .main main betweenM readyM)
    (upholdsS : rules.Upholds .sub sub betweenS readyS) {system system' : System M S}
    (upheld : Upheld rules betweenM readyM betweenS readyS system)
    (step : Step main sub system system') :
    Upheld rules betweenM readyM betweenS readyS system' := by
  obtain ⟨w, chip, inForceM, inForceS⟩ := upheld
  obtain ⟨w', -, inForce⟩ := moved_of_step upholdsM upholdsS chip inForceM inForceS step
  exact ⟨w', inForce⟩

/-- Every interleaving of the calls upholds the assertions. -/
theorem upheld_of_reachable (upholdsM : rules.Upholds .main main betweenM readyM)
    (upholdsS : rules.Upholds .sub sub betweenS readyS) {start system : System M S}
    (initially : Upheld rules betweenM readyM betweenS readyS start)
    (reachable : Reachable main sub start system) :
    Upheld rules betweenM readyM betweenS readyS system := by
  induction reachable with
  | start => exact initially
  | step _ step ih => exact upheld_of_step upholdsM upholdsS ih step

end System

end TwinDesk
