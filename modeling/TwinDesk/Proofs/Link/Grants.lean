import Mathlib.Logic.Relation
import TwinDesk.Link.BankExchange
import TwinDesk.Proofs.Hardware.Banks
import TwinDesk.Proofs.Link.Chip

/-!
# When a grant is the right to a bank

Each processor takes hold of its bank, works on it, lets go of it and asks for exchanges, in any
order, while the other one does the same and the chip completes exchanges.

An exchange moves the banks of *both* processors. One that completes while a processor holds a grant
moves the bank away from under it: the grant still names the old bank, which the other processor
may now take hold of as well. A grant is the right to a bank in those runs in which no exchange
completes while a processor holds one.

* `System.grants_overlap` — without that discipline, both processors come to hold a grant for the
  same bank, and one of them is stopped when it works on it.
* `System.grants_exclusive` — under it, two grants never name the same bank, each names the bank
  that its processor sees, and nobody is ever stopped.
-/

namespace TwinDesk

open Program

/-! ## The exchange calls of a processor -/

/-- What a processor holds of its exchange. -/
inductive Hold where
  | nothing
  | grant (grant : Grant)
  | swap (pending : PendingSwap)

namespace Hold

/-- What a processor may do with its exchange. -/
inductive Call where
  | acquire
  | withBytes (work : BankBytes → BankBytes)
  | beginSwap
  | poll
  | drop

/-- When a call may be made: a grant and a pending exchange both borrow the exchange. -/
def Allowed : Call → Hold → Prop
  | .acquire, .nothing => True
  | .withBytes _, .grant _ => True
  | .beginSwap, .grant _ => True
  | .poll, .swap _ => True
  | .drop, .grant _ => True
  | .drop, .swap _ => True
  | _, _ => False

/-- What a call does, and what the processor holds after it. -/
def perform (side : Side) : Call → Hold → Program (GateArray → Hold)
  | .acquire, hold => do
    match ← Grant.acquire side with
    | .ok got => return fun _ => .grant got
    | .error _ => return fun _ => hold
  | .withBytes work, .grant held => do
    held.withBytes fun bytes => .ok ((), work bytes)
    return fun _ => .grant held
  | .beginSwap, .grant held => do
    let pending ← held.beginSwap
    return fun _ => .swap pending
  | .poll, .swap pending => do
    let _ ← pending.poll
    return fun _ => .swap pending
  | .drop, _ => return fun _ => .nothing
  | _, hold => return fun _ => hold

/-- The exchange calls of a side. -/
def role (side : Side) : Role Hold where
  Call := Call
  Allowed := Allowed
  run := perform side

/-- The grant among what a processor holds. -/
def grant? : Hold → Option Grant
  | .grant held => some held
  | _ => none

end Hold

/-- The grant that a processor holds; while it begins an exchange, the one that it gives away. -/
def Processor.grant? (processor : Processor Hold) : Option Grant :=
  processor.state.grant?

namespace System

/-- The processor of a side. -/
def processor {S : Type} (system : System S S) : Side → Processor S
  | .main => system.main
  | .sub => system.sub

/-- Nobody holds anything, and nobody is inside a bank. -/
structure Idle (system : System Hold Hold) : Prop where
  main : system.main = .free .nothing
  sub : system.sub = .free .nothing
  vacant : ∀ bank, (system.chip.bank bank).occupied = false

/-- A step of an exchange call, or of the chip. -/
def ExchangeStep : System Hold Hold → System Hold Hold → Prop :=
  Turn (Hold.role .main) (Hold.role .sub)

/-- If a step completes an exchange, nobody holds a grant after it. -/
def Orderly (system system' : System Hold Hold) : Prop :=
  system'.chip.select ≠ system.chip.select → ∀ side, (system'.processor side).grant? = none

/-- A step that completes no exchange while somebody holds a grant. -/
def OrderlyStep (system system' : System Hold Hold) : Prop :=
  ExchangeStep system system' ∧ Orderly system system'

end System

/-! ## The programs of the calls -/

theorem Grant.acquire_eq (side : Side) :
    acquire side = .access (.readWord Register.memMode) fun word =>
      if word &&& side.swapBit != 0 then .done (.error .swapPending)
      else .access (.readWord Register.memMode) fun word =>
        .done (.ok ⟨side, side.bank (word &&& Register.modeSelect != 0)⟩) := by
  rfl

theorem Grant.beginSwap_eq (side : Side) (bank : Bank) :
    beginSwap ⟨side, bank⟩ = .access (.readWord Register.memMode) fun word =>
      .access (.writeWord Register.memMode (word ||| (side.swapBit &&& side.modeWritable)))
        fun _ => .done ⟨side, bank⟩ := by
  have own : ¬ side.swapBit &&& ~~~side.modeWritable ≠ 0 := by
    cases side <;> decide
  unfold beginSwap Side.setModeBits
  dsimp only
  rw [if_neg own]
  rfl

theorem PendingSwap.poll_eq (side : Side) (released : Bank) :
    poll ⟨side, released⟩ = .access (.readWord Register.memMode) fun word =>
      if word &&& side.swapBit != 0 then .done none
      else .access (.readWord Register.memMode) fun word =>
        .done (some (side.bank (word &&& Register.modeSelect != 0))) := by
  rfl

namespace Hold

variable (side : Side)

/-- The second half of an acquisition: the processor has no request waiting, and looks which bank it
sees. -/
def look : Program (GateArray → Hold) :=
  .access (.readWord Register.memMode) fun word =>
    .done fun _ => .grant ⟨side, side.bank (word &&& Register.modeSelect != 0)⟩

/-- The way out of a bank. -/
def leave (held : Grant) (bytes : BankBytes) : Program (GateArray → Hold) :=
  .access (.leaveBank held.bank bytes) fun _ => .done fun _ => .grant held

/-- The request for an exchange. -/
def request (bank : Bank) (value : UInt16) : Program (GateArray → Hold) :=
  .access (.writeWord Register.memMode value) fun _ => .done fun _ => .swap ⟨side, bank⟩

theorem perform_acquire :
    perform side .acquire .nothing = .access (.readWord Register.memMode) fun word =>
      if word &&& side.swapBit != 0 then .done fun _ => .nothing else look side := by
  unfold perform
  dsimp only
  rw [Grant.acquire_eq]
  show Program.access _ _ = Program.access _ _
  congr 1
  funext word
  dsimp only
  cases word &&& side.swapBit != 0 <;> rfl

theorem perform_withBytes (work : BankBytes → BankBytes) (held : Grant) :
    perform side (.withBytes work) (.grant held) =
      .access (.enterBank held.bank) fun bytes => leave held (work bytes) := by
  rfl

theorem perform_beginSwap (bank : Bank) :
    perform side .beginSwap (.grant ⟨side, bank⟩) =
      .access (.readWord Register.memMode) fun word =>
        request side bank (word ||| (side.swapBit &&& side.modeWritable)) := by
  unfold perform
  dsimp only
  rw [Grant.beginSwap_eq]
  rfl

theorem perform_poll (bank : Bank) :
    perform side .poll (.swap ⟨side, bank⟩) = .access (.readWord Register.memMode) fun word =>
      if word &&& side.swapBit != 0 then .done fun _ => .swap ⟨side, bank⟩
      else .access (.readWord Register.memMode) fun _ => .done fun _ => .swap ⟨side, bank⟩ := by
  unfold perform
  dsimp only
  rw [PendingSwap.poll_eq]
  show Program.access _ _ = Program.access _ _
  congr 1
  funext word
  dsimp only
  cases word &&& side.swapBit != 0 <;> rfl

end Hold

/-! ## Program points -/

namespace Hold

variable {side : Side} {chip chip' : GateArray}

/-- A grant names the bank that its processor sees, and no request of the processor is waiting. -/
def Valid (side : Side) (chip : GateArray) : Hold → Prop
  | .grant held => held = ⟨side, side.bank chip.select⟩ ∧ chip.mode.requested side = false
  | .swap pending => pending.side = side
  | .nothing => True

/-- What is left of a call, for every place between two of its bus cycles. -/
inductive Point (side : Side) (chip : GateArray) : Hold → Program (GateArray → Hold) → Prop where
  | acquiring : Point side chip .nothing (perform side .acquire .nothing)
  | looking (settled : chip.mode.requested side = false) : Point side chip .nothing (look side)
  | entering (held : Grant) (work : BankBytes → BankBytes) :
    Point side chip (.grant held) (perform side (.withBytes work) (.grant held))
  | leaving (held : Grant) (bytes : BankBytes) : Point side chip (.grant held) (leave held bytes)
  | asking (bank : Bank) :
    Point side chip (.grant ⟨side, bank⟩) (perform side .beginSwap (.grant ⟨side, bank⟩))
  | requesting (bank : Bank) (value : UInt16) :
    Point side chip (.grant ⟨side, bank⟩) (request side bank value)
  | polling (bank : Bank) :
    Point side chip (.swap ⟨side, bank⟩) (perform side .poll (.swap ⟨side, bank⟩))
  | polled (bank : Bank) :
    Point side chip (.swap ⟨side, bank⟩)
      (.access (.readWord Register.memMode) fun _ => .done fun _ => .swap ⟨side, bank⟩)

/-- A processor holds what it says, and is at a place of one of its calls. -/
structure Own (side : Side) (chip : GateArray) (processor : Processor Hold) : Prop where
  valid : processor.state.Valid side chip
  point : ∀ held rest, processor = .calling held rest → Point side chip held rest

namespace Own

variable {processor processor' : Processor Hold}

theorem free {held : Hold} (valid : held.Valid side chip) : Own side chip (.free held) :=
  ⟨valid, fun _ _ eq => nomatch eq⟩

theorem calling {held : Hold} {rest : Program (GateArray → Hold)} (valid : held.Valid side chip)
    (point : Point side chip held rest) : Own side chip (.calling held rest) := by
  refine ⟨valid, ?_⟩
  rintro _ _ ⟨⟩
  exact point

/-- What others do leaves a processor its hold, as long as no exchange completes while it holds a
grant. -/
theorem moved (own : Own side chip processor)
    (keeps : chip.mode.requested side = false → chip'.mode.requested side = false)
    (orderly : chip'.select ≠ chip.select → processor.grant? = none) :
    Own side chip' processor := by
  refine ⟨?_, fun held rest eq => ?_⟩
  · have valid := own.valid
    unfold Processor.grant? at orderly
    generalize processor.state = held at valid orderly
    cases held with
    | nothing => trivial
    | swap pending => exact valid
    | grant got =>
      have same : chip'.select = chip.select := by
        by_contra moved
        cases orderly moved
      exact ⟨same ▸ valid.1, keeps valid.2⟩
  · cases own.point held rest eq with
    | acquiring => exact .acquiring
    | looking settled => exact .looking (keeps settled)
    | entering held work => exact .entering held work
    | leaving held bytes => exact .leaving held bytes
    | asking bank => exact .asking bank
    | requesting bank value => exact .requesting bank value
    | polling bank => exact .polling bank
    | polled bank => exact .polled bank

end Own

/-- What a step of one side may do to the chip: it leaves the request of the other side alone, and a
bank that is occupied after it is the one that the processor is inside of now, or was occupied
before and is not the one that the processor was inside of. -/
structure Step (side : Side) (chip : GateArray) (processor : Processor Hold) (chip' : GateArray)
    (processor' : Processor Hold) : Prop where
  peer : chip'.mode.requested side.peer = chip.mode.requested side.peer
  occupied : ∀ bank, (chip'.bank bank).occupied = true → processor'.inside? = some bank ∨
    (chip.bank bank).occupied = true ∧ processor.inside? ≠ some bank

/-- A call begins at one of its places, or is over at once. -/
theorem own_call {held : Hold} (valid : held.Valid side chip) {call : Call}
    (allowed : Allowed call held) :
    Own side chip (.resume chip held (perform side call held)) ∧
      Processor.inside? (.resume chip held (perform side call held)) = none := by
  cases held with
  | nothing =>
    cases call with
    | acquire =>
      have point : Point side chip .nothing (perform side .acquire .nothing) := .acquiring
      rw [perform_acquire] at point ⊢
      exact ⟨.calling valid point, rfl⟩
    | _ => cases allowed
  | grant got =>
    cases call with
    | withBytes work => exact ⟨.calling valid (.entering got work), rfl⟩
    | beginSwap =>
      obtain ⟨rfl, settled⟩ := valid
      have point : Point side chip _ _ := .asking (side.bank chip.select)
      rw [perform_beginSwap] at point ⊢
      exact ⟨.calling ⟨rfl, settled⟩ point, rfl⟩
    | drop => exact ⟨.free trivial, rfl⟩
    | _ => cases allowed
  | swap pending =>
    obtain ⟨holder, bank⟩ := pending
    obtain rfl : side = holder := valid.symm
    cases call with
    | poll =>
      have point : Point side chip _ _ := .polling bank
      rw [perform_poll] at point ⊢
      exact ⟨.calling rfl point, rfl⟩
    | drop => exact ⟨.free trivial, rfl⟩
    | _ => cases allowed

/-- A step outside of the banks that leaves the chip as it was. -/
theorem Step.same {processor processor' : Processor Hold} (outside : processor.inside? = none) :
    Step side chip processor chip processor' :=
  ⟨rfl, fun _ occupied => .inr ⟨occupied, by simp [outside]⟩⟩

theorem step_readMode (next : UInt16 → Program (GateArray → Hold)) :
    (Program.access (.readWord Register.memMode) next).step side chip =
      .ok (next chip.mode.word, chip) := by
  rfl

/-- A bank that nobody is inside of lets a processor in. -/
theorem step_withBytes_vacant (side : Side) (held : Grant) (work : BankBytes → BankBytes)
    (vacant : (chip.bank held.bank).occupied = false) :
    (perform side (.withBytes work) (.grant held)).step side chip =
      .ok (leave held (work (chip.bank held.bank).bytes), chip.entered held.bank) := by
  rw [perform_withBytes, Program.step, GateArray.perform_enterBank side vacant]
  rfl

/-- A bank that somebody is inside of stops a processor. -/
theorem step_withBytes_occupied (side : Side) (held : Grant) (work : BankBytes → BankBytes)
    (occupied : (chip.bank held.bank).occupied = true) :
    (perform side (.withBytes work) (.grant held)).step side chip =
      .error (.bankContention held.bank) := by
  rw [perform_withBytes, Program.step, GateArray.perform_enterBank_occupied side occupied]
  rfl

/-- A bus cycle of a call leads to the next place, or to what the call leaves. -/
theorem own_cycle {held : Hold} {rest rest' : Program (GateArray → Hold)}
    (own : Own side chip (.calling held rest))
    (eq : rest.step side chip = .ok (rest', chip')) :
    Own side chip' (.resume chip' held rest') ∧
      Step side chip (.calling held rest) chip' (.resume chip' held rest') := by
  have valid : held.Valid side chip := own.valid
  -- the chip answers one cycle, and the call stands at its next point or has ended
  cases own.point held rest rfl with
  | acquiring =>
    rw [perform_acquire, step_readMode] at eq
    rw [perform_acquire]
    cases eq
    refine ⟨?_, .same rfl⟩
    rw [MemMode.word_swapBit]
    cases settled : chip.mode.requested side with
    | true => exact .free trivial
    | false => exact .calling trivial (.looking settled)
  | looking settled =>
    rw [look, step_readMode, MemMode.word_select] at eq
    cases eq
    exact ⟨.free ⟨rfl, settled⟩, .same rfl⟩
  | entering got work =>
    cases occupied : (chip.bank got.bank).occupied with
    | true =>
      rw [step_withBytes_occupied side got work occupied] at eq
      cases eq
    | false =>
      rw [step_withBytes_vacant side got work occupied] at eq
      cases eq
      rw [perform_withBytes]
      refine ⟨.calling valid (.leaving got _), rfl, fun bank occupied => ?_⟩
      rw [GateArray.bank_entered] at occupied
      split at occupied
      · rename_i same
        exact .inl (congrArg some same.symm)
      · exact .inr ⟨occupied, nofun⟩
  | leaving got bytes =>
    cases eq
    refine ⟨.free valid, rfl, fun bank occupied => .inr ?_⟩
    rw [GateArray.bank_leaveBank] at occupied
    split at occupied
    · cases occupied
    · rename_i other
      exact ⟨occupied, fun same => other (Option.some.inj same).symm⟩
  | asking bank =>
    rw [perform_beginSwap, step_readMode] at eq
    rw [perform_beginSwap]
    cases eq
    exact ⟨.calling valid (.requesting bank _), .same rfl⟩
  | requesting bank value =>
    cases eq
    -- the write may exchange the banks at once, but a request of the peer stays as it is
    have ne : side.peer ≠ side := by
      cases side <;> decide
    exact ⟨.free rfl, MemMode.requested_write_of_ne _ _ ne _, fun _ occupied =>
      .inr ⟨occupied, nofun⟩⟩
  | polling bank =>
    rw [perform_poll, step_readMode] at eq
    rw [perform_poll]
    cases eq
    refine ⟨?_, .same rfl⟩
    split
    · exact .free rfl
    · exact .calling rfl (.polled bank)
  | polled bank =>
    cases eq
    exact ⟨.free rfl, .same rfl⟩

/-- One step of a processor. -/
theorem own_step {processor processor' : Processor Hold} (own : Own side chip processor)
    (step : processor.Step (role side) side chip processor' chip') :
    Own side chip' processor' ∧ Step side chip processor chip' processor' := by
  cases step with
  | call call allowed =>
    obtain ⟨own', outside⟩ := own_call own.valid allowed
    exact ⟨own', .same rfl⟩
  | cycle eq => exact own_cycle own eq

/-- A processor is only ever stopped where it enters a bank that is occupied. -/
theorem runs_unless_occupied {held : Hold} {rest : Program (GateArray → Hold)}
    (own : Own side chip (.calling held rest))
    (vacant : ∀ got, held.grant? = some got → Processor.inside? (.calling held rest) = none →
      (chip.bank got.bank).occupied = false) :
    ∃ next, rest.step side chip = .ok next := by
  cases own.point held rest rfl with
  | acquiring =>
    rw [perform_acquire]
    exact ⟨_, rfl⟩
  | entering got work =>
    exact ⟨_, step_withBytes_vacant side got work (vacant got rfl rfl)⟩
  | asking bank =>
    rw [perform_beginSwap]
    exact ⟨_, rfl⟩
  | polling bank =>
    rw [perform_poll]
    exact ⟨_, rfl⟩
  | looking _ | leaving _ _ | requesting _ _ | polled _ => exact ⟨_, rfl⟩

end Hold

/-! ## Both processors -/

namespace System

open Relation (ReflTransGen)

variable {system system' : System Hold Hold}

/-- What the runs without interference keep: each processor holds what it says, and a bank is only
occupied while a processor is inside of it. -/
structure Apart (system : System Hold Hold) : Prop where
  own : ∀ side, Hold.Own side system.chip (system.processor side)
  occupied : ∀ bank, (system.chip.bank bank).occupied = true →
    ∃ side, (system.processor side).inside? = some bank

/-- A step of a processor, seen from its side. -/
theorem processor_of_step {S : Type} {system system' : System S S} (role : Side → Role S)
    (step : Step (role .main) (role .sub) system system') :
    ∃ side : Side, (system.processor side).Step (role side) side system.chip
      (system'.processor side) system'.chip ∧
        system'.processor side.peer = system.processor side.peer := by
  cases step with
  | main s step => exact ⟨.main, step, rfl⟩
  | sub m step => exact ⟨.sub, step, rfl⟩

theorem Apart.step (apart : system.Apart) (step : ExchangeStep system system')
    (orderly : Orderly system system') : system'.Apart := by
  cases step with
  | processor step =>
    obtain ⟨side, step, rest⟩ := processor_of_step Hold.role step
    obtain ⟨own, peer, occupied⟩ := Hold.own_step (apart.own side) step
    have other : Hold.Own side.peer system'.chip (system'.processor side.peer) := by
      rw [rest]
      exact (apart.own side.peer).moved (fun settled => peer.trans settled)
        fun moved => rest ▸ orderly moved side.peer
    refine ⟨fun any => ?_, fun bank busy => ?_⟩
    · obtain rfl | rfl := Side.eq_or_eq_peer any side
      · exact own
      · exact other
    · obtain inside | ⟨before, outside⟩ := occupied bank busy
      · exact ⟨side, inside⟩
      · -- whoever was inside before is the other processor, which has not moved
        obtain ⟨any, inside⟩ := apart.occupied bank before
        obtain rfl | rfl := Side.eq_or_eq_peer any side
        · exact absurd inside outside
        · exact ⟨side.peer, rest ▸ inside⟩
  | chip pending =>
    have complete := GateArray.stepHardware_of_pending pending
    have stays (side : Side) : System.processor { system with
        chip := system.chip.stepHardware.2 } side = system.processor side := by
      cases side <;> rfl
    refine ⟨fun side => ?_, fun bank busy => ?_⟩
    · rw [stays]
      refine (apart.own side).moved (fun _ => ?_) fun moved => stays side ▸ orderly moved side
      rw [complete]
      cases side <;> rfl
    · rw [complete] at busy
      obtain ⟨side, inside⟩ := apart.occupied bank busy
      exact ⟨side, stays side ▸ inside⟩

/-- Grants are the right to a bank: each names the bank that its processor sees, two never name the
same bank, and no processor is stopped in a call. -/
structure Exclusive (system : System Hold Hold) : Prop where
  seen : ∀ side held, (system.processor side).grant? = some held →
    held = ⟨side, side.bank system.chip.select⟩
  apart : ∀ held other, system.main.grant? = some held → system.sub.grant? = some other →
    held.bank ≠ other.bank
  runs : ∀ side held rest, system.processor side = .calling held rest →
    ∃ next, rest.step side system.chip = .ok next

theorem Apart.seen (apart : system.Apart) (side : Side) (held : Grant)
    (holds : (system.processor side).grant? = some held) :
    held = ⟨side, side.bank system.chip.select⟩ := by
  have valid := (apart.own side).valid
  unfold Processor.grant? at holds
  generalize (system.processor side).state = state at valid holds
  cases state with
  | grant got =>
    cases holds
    exact valid.1
  | _ => cases holds

/-- A processor that is inside of a bank holds the grant for it. -/
theorem Apart.grant_of_inside (apart : system.Apart) {side : Side} {bank : Bank}
    (inside : (system.processor side).inside? = some bank) :
    bank = side.bank system.chip.select := by
  have own := apart.own side
  have seen := apart.seen side
  generalize system.processor side = processor at own seen inside
  cases processor with
  | free held => cases inside
  | calling held rest =>
    cases own.point held rest rfl with
    | leaving got bytes =>
      cases inside
      rw [seen _ rfl]
    | acquiring =>
      rw [Hold.perform_acquire] at inside
      cases inside
    | asking bank =>
      rw [Hold.perform_beginSwap] at inside
      cases inside
    | polling bank =>
      rw [Hold.perform_poll] at inside
      cases inside
    | _ => cases inside

theorem Apart.exclusive (apart : system.Apart) : system.Exclusive := by
  have differ (side : Side) (select : Bool) : side.bank select ≠ side.peer.bank select := by
    rw [Side.bank_peer]
    exact (Bank.other_ne _).symm
  refine ⟨apart.seen, fun held other main sub => ?_, fun side held rest eq => ?_⟩
  · rw [apart.seen .main held main, apart.seen .sub other sub]
    exact differ .main _
  · have own := apart.own side
    rw [eq] at own
    refine Hold.runs_unless_occupied own fun got grant outside => ?_
    by_contra busy
    obtain ⟨any, inside⟩ := apart.occupied got.bank (Bool.not_eq_false _ ▸ busy)
    have mine : got.bank = side.bank system.chip.select := by
      rw [apart.seen side got (by rw [eq]; exact grant)]
    have theirs := apart.grant_of_inside inside
    obtain rfl | rfl := Side.eq_or_eq_peer any side
    · rw [eq, outside] at inside
      cases inside
    · exact differ side _ (mine.symm.trans theirs)

/-! ### Runs of single calls -/

/-- The system of a processor on `side` and one on the other. -/
def pair {S : Type} (side : Side) (chip : GateArray) (own other : Processor S) : System S S :=
  match side with
  | .main => ⟨chip, own, other⟩
  | .sub => ⟨chip, other, own⟩

theorem step_pair {S : Type} {role : Side → Role S} {side : Side} {chip chip' : GateArray}
    {own own' : Processor S} (other : Processor S)
    (step : own.Step (role side) side chip own' chip') :
    Turn (role .main) (role .sub) (pair side chip own other) (pair side chip' own' other) := by
  cases side with
  | main => exact .processor (.main other step)
  | sub => exact .processor (.sub other step)

theorem step_call (side : Side) (chip : GateArray) (held : Hold) (call : Hold.Call)
    (allowed : Hold.Allowed call held) (other : Processor Hold) :
    ExchangeStep (pair side chip (.free held) other)
      (pair side chip (.resume chip held (Hold.perform side call held)) other) :=
  step_pair other (@Processor.Step.call _ (Hold.role side) side held chip call allowed)

theorem step_cycle {side : Side} {chip chip' : GateArray} (held : Hold)
    {rest rest' : Program (GateArray → Hold)} (eq : rest.step side chip = .ok (rest', chip'))
    (other : Processor Hold) :
    ExchangeStep (pair side chip (.calling held rest) other)
      (pair side chip' (.resume chip' held rest') other) :=
  step_pair other (.cycle eq)

/-- A processor without a request takes hold of the bank that it sees. -/
theorem acquire_alone {side : Side} {chip : GateArray} (settled : chip.mode.requested side = false)
    (other : Processor Hold) :
    ReflTransGen OrderlyStep (pair side chip (.free .nothing) other)
      (pair side chip (.free (.grant ⟨side, side.bank chip.select⟩)) other) := by
  have orderly (own own' : Processor Hold) :
      Orderly (pair side chip own other) (pair side chip own' other) := by
    cases side <;> exact fun moved => absurd rfl moved
  refine .head ⟨step_call side chip .nothing .acquire trivial other, orderly _ _⟩ ?_
  rw [Hold.perform_acquire]
  refine .head ⟨step_cycle _ (Hold.step_readMode _) other, orderly _ _⟩ ?_
  rw [MemMode.word_swapBit, settled]
  refine .head ⟨step_cycle _ (Hold.step_readMode _) other, orderly _ _⟩ ?_
  rw [MemMode.word_select]
  exact .refl

/-- On a chip that exchanges banks at once, a processor gives its bank away in one go. -/
theorem beginSwap_alone {side : Side} {chip : GateArray} (bank : Bank)
    (automatic : chip.automatic = true) (settled : chip.mode.requested side = false)
    (other : Processor Hold) :
    ReflTransGen ExchangeStep (pair side chip (.free (.grant ⟨side, bank⟩)) other)
      (pair side { chip with mode := chip.mode.flip } (.free (.swap ⟨side, bank⟩)) other) := by
  have writes : (Hold.request side bank
      (chip.mode.word ||| (side.swapBit &&& side.modeWritable))).step side chip =
        .ok (.done fun _ => .swap ⟨side, bank⟩, { chip with mode := chip.mode.flip }) := by
    rw [← MemMode.write_swapBit settled, ← automatic]
    rfl
  refine .head (step_call side chip (.grant ⟨side, bank⟩) .beginSwap trivial other) ?_
  rw [Hold.perform_beginSwap]
  refine .head (step_cycle _ (Hold.step_readMode _) other) ?_
  exact .single (step_cycle _ writes other)

/-! ### Two runs -/

/-- Where no exchange completes while a processor holds a grant, grants are the right to a bank. -/
theorem grants_exclusive {start : System Hold Hold} (idle : start.Idle)
    (run : ReflTransGen OrderlyStep start system) : system.Exclusive := by
  have initially : start.Apart := by
    refine ⟨fun side => ?_, fun bank busy => ?_⟩
    · have rest : start.processor side = .free .nothing := by
        cases side
        · exact idle.main
        · exact idle.sub
      exact rest ▸ .free trivial
    · rw [idle.vacant bank] at busy
      cases busy
  refine Apart.exclusive ?_
  induction run with
  | refl => exact initially
  | tail _ step ih => exact ih.step step.1 step.2

/-- Both processors hold a grant at once, each for a bank of its own. -/
theorem grants_exclusive_both :
    ∃ system, System.Idle ⟨.initial true, .free .nothing, .free .nothing⟩ ∧
      ReflTransGen OrderlyStep ⟨.initial true, .free .nothing, .free .nothing⟩ system ∧
      system.main.grant? = some ⟨.main, .zero⟩ ∧ system.sub.grant? = some ⟨.sub, .one⟩ ∧
      system.Exclusive := by
  have idle : System.Idle ⟨.initial true, .free .nothing, .free .nothing⟩ :=
    ⟨rfl, rfl, GateArray.vacant_initial true⟩
  have mainHolds : ReflTransGen OrderlyStep
      (pair .main (.initial true) (.free .nothing) (.free .nothing))
      (pair .sub (.initial true) (.free .nothing) (.free (.grant ⟨.main, .zero⟩))) :=
    acquire_alone rfl _
  have run := mainHolds.trans (acquire_alone rfl _)
  exact ⟨_, idle, run, rfl, rfl, grants_exclusive idle run⟩

/-- An exchange that completes while the Main processor holds a grant lets the Sub processor take
hold of the same bank, and stops it when both work on their banks. -/
theorem grants_overlap :
    ∃ system : System Hold Hold, ReflTransGen ExchangeStep
        ⟨.initial true, .free .nothing, .free .nothing⟩ system ∧
      system.main.grant? = some ⟨.main, .zero⟩ ∧ system.sub.grant? = some ⟨.sub, .zero⟩ ∧
      ∃ held rest, system.sub = .calling held rest ∧
        rest.step .sub system.chip = .error (.bankContention .zero) := by
  let chip : GateArray := .initial true
  let flipped : GateArray := { chip with mode := chip.mode.flip }
  let main : Processor Hold := .free (.grant ⟨.main, .zero⟩)
  let sub : Processor Hold := .free (.grant ⟨.sub, .zero⟩)
  have any {before after : System Hold Hold} (run : ReflTransGen OrderlyStep before after) :
      ReflTransGen ExchangeStep before after :=
    ReflTransGen.mono (fun _ _ => And.left) _ _ run
  have mainHolds : ReflTransGen ExchangeStep (pair .main chip (.free .nothing) (.free .nothing))
      (pair .sub chip (.free .nothing) main) :=
    any (acquire_alone rfl _)
  have subSwaps : ReflTransGen ExchangeStep (pair .sub chip (.free .nothing) main)
      (pair .sub flipped (.free .nothing) main) :=
    ((any (acquire_alone rfl main)).trans (beginSwap_alone .one rfl rfl main)).tail
      (step_call .sub flipped (.swap ⟨.sub, .one⟩) .drop trivial main)
  have subHolds : ReflTransGen ExchangeStep (pair .sub flipped (.free .nothing) main)
      (pair .main flipped main sub) :=
    any (acquire_alone rfl main)
  have vacant : (flipped.bank .zero).occupied = false := GateArray.vacant_initial true .zero
  -- the Main processor goes into its bank, and the Sub processor is about to go into the same one
  have mainEnters := step_cycle (.grant ⟨.main, .zero⟩)
    (Hold.step_withBytes_vacant .main ⟨.main, .zero⟩ id vacant) sub
  have subCalls := step_call .sub (flipped.entered .zero) (.grant ⟨.sub, .zero⟩) (.withBytes id)
    trivial (.calling (.grant ⟨.main, .zero⟩)
      (Hold.leave ⟨.main, .zero⟩ (flipped.bank .zero).bytes))
  have run := ((mainHolds.trans subSwaps).trans subHolds).tail
    (step_call .main flipped (.grant ⟨.main, .zero⟩) (.withBytes id) trivial sub)
  refine ⟨_, (run.tail mainEnters).tail subCalls, rfl, rfl, _, _, rfl, ?_⟩
  exact Hold.step_withBytes_occupied .sub ⟨.sub, .zero⟩ id rfl

end System

end TwinDesk
