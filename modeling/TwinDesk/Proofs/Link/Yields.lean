import Mathlib.Logic.Relation
import TwinDesk.Proofs.Link.Grants

/-!
# What an exchange yields

Each processor takes hold of its bank, gives it away, and looks until it has a bank again, while the
other one does the same and the chip completes exchanges at any moment. An observer counts the
exchanges, and notes how many there were when a processor took hold of its bank, and how many when
it wrote its request.

A processor that finds its request gone looks for its bank in another bus cycle. The bank that it
finds is the one that it sees at that moment; but every exchange turns the banks round, those that
the other processor has asked for as well, and there may have been two.

* `Observed`, `Observed.Reached` — what the observer knows after every interleaving.
* `Observed.landed_step`, `Observed.Good.of_reached` — what a step of a processor leaves, and what a
  run does.
* `Observed.swap_yields` — what a look that is not in vain yields, and what a wait yields.
* `Observed.swap_yields_released` — two exchanges bring back the bank that was given away.
-/

namespace TwinDesk

open Program

/-! ## The exchange calls of a processor -/

/-- What an exchange has yielded. -/
structure Yield where
  /-- The bank that was given away. -/
  released : Bank
  /-- The bank that came back. -/
  bank : Bank
  deriving DecidableEq, Repr

/-- A processor that exchanges its bank. -/
structure Party where
  hold : Hold
  /-- What its last call has yielded. -/
  got : Option Yield

namespace Party

/-- A processor that holds nothing. -/
def atRest : Party := ⟨.nothing, none⟩

/-- What a processor may do with its exchange. -/
inductive Call where
  | acquire
  | drop
  | beginSwap
  | poll
  /-- Looks until the exchange is complete. -/
  | wait
  /-- Gives the bank away, and looks until the exchange is complete. -/
  | swap

/-- When a call may be made. -/
def Allowed : Call → Hold → Prop
  | .acquire, .nothing => True
  | .drop, .grant _ => True
  | .drop, .swap _ => True
  | .beginSwap, .grant _ => True
  | .poll, .swap _ => True
  | .wait, .swap _ => True
  | .swap, .grant _ => True
  | _, _ => False

/-- What a call does, and what it leaves. -/
def perform (side : Side) : Call → Hold → Program (GateArray → Party)
  | .acquire, hold => do
    match ← Grant.acquire side with
    | .ok held => return fun _ => ⟨.grant held, none⟩
    | .error _ => return fun _ => ⟨hold, none⟩
  | .beginSwap, .grant held => do
    let pending ← held.beginSwap
    return fun _ => ⟨.swap pending, none⟩
  | .poll, .swap pending => do
    let found ← pending.poll
    return fun _ => ⟨.swap pending, found.map (Yield.mk pending.released)⟩
  | .wait, .swap pending => do
    let bank ← pending.wait
    return fun _ => ⟨.nothing, some ⟨pending.released, bank⟩⟩
  | .swap, .grant held => do
    let bank ← held.swap
    return fun _ => ⟨.nothing, some ⟨held.bank, bank⟩⟩
  | _, _ => return fun _ => atRest

/-- The exchange calls of a side. -/
def role (side : Side) : Role Party where
  Call := Call
  Allowed call party := Allowed call party.hold
  run call party := perform side call party.hold

end Party

/-! ## The observer -/

/-- The processor writes the memory mode register next, which is its request. -/
def Processor.asks {S : Type} : Processor S → Bool
  | .calling _ (.access (.writeWord offset _) _) => offset == Register.memMode
  | _ => false

/-- A call returns with a grant. -/
def Processor.takes : Processor Party → Processor Party → Bool
  | .calling _ _, .free ⟨.grant _, _⟩ => true
  | _, _ => false

/-- What a call yields that returns. -/
def Processor.returned : Processor Party → Processor Party → Option Yield
  | .calling _ _, .free party => party.got
  | _, _ => none

/-- Where the banks are when a processor takes hold of its own. -/
structure Mark where
  /-- How many exchanges are complete by then. -/
  exchanges : Nat
  select : Bool

/-- A system with what its observer knows. -/
structure Observed where
  system : System Party Party
  /-- How many exchanges are complete. -/
  exchanges : Nat
  /-- How many were complete when each side wrote its last request. -/
  asked : Side → Nat
  /-- Where each side last took hold of its bank. -/
  taken : Side → Mark

namespace Observed

/-- What the observer knows at the start. -/
def start (system : System Party Party) : Observed :=
  ⟨system, 0, fun _ => 0, fun _ => ⟨0, system.chip.select⟩⟩

/-- The observer sees the system turn into another. -/
def after (o : Observed) (system : System Party Party) : Observed where
  system
  exchanges := o.exchanges + (o.system.chip.select != system.chip.select).toNat
  asked side :=
    if (o.system.processor side).asks && !(system.processor side).asks then o.exchanges
    else o.asked side
  taken side :=
    if (o.system.processor side).takes (system.processor side) then
      ⟨o.exchanges + (o.system.chip.select != system.chip.select).toNat, system.chip.select⟩
    else o.taken side

/-- A step of an exchange call, or of the chip. -/
def Turn : System Party Party → System Party Party → Prop :=
  System.Turn (Party.role .main) (Party.role .sub)

/-- What the observer can come to see. -/
inductive Reached (begin : System Party Party) : Observed → Prop where
  | start : Reached begin (start begin)
  | turn {o : Observed} {system : System Party Party} (reached : Reached begin o)
    (turn : Turn o.system system) : Reached begin (o.after system)

/-- At least one exchange was completed since the last request of a side. -/
def Exchanged (o : Observed) (side : Side) : Prop :=
  o.asked side < o.exchanges

/-- The last request of a side waits, or an exchange was completed since. -/
def Requested (o : Observed) (side : Side) : Prop :=
  o.system.chip.mode.requested side = true ∨ o.Exchanged side

/-- The bank is the one that a side took hold of. -/
def Took (o : Observed) (side : Side) (bank : Bank) : Prop :=
  bank = side.bank (o.taken side).select

end Observed

/-! ## The programs of the calls -/

namespace Party

variable (side : Side)

/-- Looks which bank the processor sees. -/
def look (next : Bank → Program (GateArray → Party)) : Program (GateArray → Party) :=
  .access (.readWord Register.memMode) fun word =>
    next (side.bank (word &&& Register.modeSelect != 0))

/-- Looks whether the request of the processor waits. -/
def ifRequested (waits settled : Program (GateArray → Party)) : Program (GateArray → Party) :=
  .access (.readWord Register.memMode) fun word =>
    if word &&& side.swapBit != 0 then waits else settled

/-- Asks for an exchange. -/
def request (next : Program (GateArray → Party)) : Program (GateArray → Party) :=
  .access (.readWord Register.memMode) fun word =>
    .access (.writeWord Register.memMode (word ||| (side.swapBit &&& side.modeWritable))) fun _ =>
      next

/-- Finds the bank that came back for the one that was given away. -/
def find (left : Hold) (released : Bank) : Program (GateArray → Party) :=
  look side fun bank => .done fun _ => ⟨left, some ⟨released, bank⟩⟩

/-- The wait for the bank that comes back. -/
def waiting (released : Bank) : Program (GateArray → Party) :=
  (PendingSwap.wait ⟨side, released⟩).bind fun bank => .done fun _ =>
    ⟨.nothing, some ⟨released, bank⟩⟩

theorem perform_acquire :
    perform side .acquire .nothing = ifRequested side (.done fun _ => atRest)
      (look side fun bank => .done fun _ => ⟨.grant ⟨side, bank⟩, none⟩) := by
  unfold perform
  dsimp only
  rw [Grant.acquire_eq]
  show Program.access _ _ = Program.access _ _
  congr 1
  funext word
  dsimp only
  cases word &&& side.swapBit != 0 <;> rfl

theorem perform_beginSwap (bank : Bank) :
    perform side .beginSwap (.grant ⟨side, bank⟩) =
      request side (.done fun _ => ⟨.swap ⟨side, bank⟩, none⟩) := by
  unfold perform
  dsimp only
  rw [Grant.beginSwap_eq]
  rfl

theorem perform_swap (bank : Bank) :
    perform side .swap (.grant ⟨side, bank⟩) = request side (waiting side bank) := by
  unfold perform Grant.swap
  dsimp only
  rw [Grant.beginSwap_eq]
  rfl

theorem perform_poll (bank : Bank) :
    perform side .poll (.swap ⟨side, bank⟩) =
      ifRequested side (.done fun _ => ⟨.swap ⟨side, bank⟩, none⟩)
        (find side (.swap ⟨side, bank⟩) bank) := by
  unfold perform
  dsimp only
  rw [PendingSwap.poll_eq]
  show Program.access _ _ = Program.access _ _
  congr 1
  funext word
  dsimp only
  cases word &&& side.swapBit != 0 <;> rfl

/-- A round of the wait is a look. -/
theorem step_waiting (chip : GateArray) (released : Bank) :
    (waiting side released).step side chip =
      .ok (ifRequested side (waiting side released) (find side .nothing released), chip) := by
  unfold waiting PendingSwap.wait
  rw [PendingSwap.poll_eq]
  show Except.ok (Program.access _ _, chip) = Except.ok (Program.access _ _, chip)
  congr 3
  funext word
  dsimp only
  cases word &&& side.swapBit != 0 <;> rfl

variable {side} {chip : GateArray}

theorem step_look (next : Bank → Program (GateArray → Party)) :
    (look side next).step side chip = .ok (next (side.bank chip.select), chip) := by
  show Except.ok (next (side.bank (chip.mode.word &&& Register.modeSelect != 0)), chip) = _
  rw [MemMode.word_select]
  rfl

theorem step_ifRequested (waits settled : Program (GateArray → Party)) :
    (ifRequested side waits settled).step side chip =
      .ok (if chip.mode.requested side then waits else settled, chip) := by
  show Except.ok (if chip.mode.word &&& side.swapBit != 0 then waits else settled, chip) = _
  rw [MemMode.word_swapBit]

theorem step_write (word : UInt16) (next : Program (GateArray → Party)) :
    (Program.access (.writeWord Register.memMode word) fun _ => next).step side chip =
      .ok (next, { chip with
        mode := chip.mode.write chip.automatic side word.toUInt8.toUInt16 }) := by
  rfl

end Party

/-! ## Program points -/

namespace Observed

variable {o o' : Observed} {side : Side} {released : Bank}

/-- What follows a request, and a look in vain: the call returns, or goes on waiting. -/
inductive Pause (side : Side) (released : Bank) : Program (GateArray → Party) → Prop where
  | returns : Pause side released (.done fun _ => ⟨.swap ⟨side, released⟩, none⟩)
  | waits : Pause side released (Party.waiting side released)

/-- What a processor holds is its own, and the exchange that it waits for was asked for. -/
def Valid (o : Observed) (side : Side) : Hold → Prop
  | .nothing => True
  | .grant held => held.side = side ∧ o.Took side held.bank
  | .swap pending => pending.side = side ∧ o.Took side pending.released ∧ o.Requested side

/-- What is left of a call, for every place between two of its bus cycles. -/
inductive Point (o : Observed) (side : Side) : Program (GateArray → Party) → Prop where
  | acquiring : Point o side (Party.perform side .acquire .nothing)
  | looking : Point o side (Party.look side fun bank => .done fun _ => ⟨.grant ⟨side, bank⟩, none⟩)
  | asking {released : Bank} {next : Program (GateArray → Party)} (took : o.Took side released)
    (pause : Pause side released next) : Point o side (Party.request side next)
  | requesting {released : Bank} {next : Program (GateArray → Party)} {word : UInt16}
    (took : o.Took side released)
    (asks : (word.toUInt8.toUInt16 &&& side.swapBit != 0) = true)
    (pause : Pause side released next) :
    Point o side (.access (.writeWord Register.memMode word) fun _ => next)
  | waiting {released : Bank} (took : o.Took side released) (requested : o.Requested side) :
    Point o side (Party.waiting side released)
  | polling {released : Bank} {next : Program (GateArray → Party)} {left : Hold}
    (took : o.Took side released) (pause : Pause side released next)
    (requested : o.Requested side) (keeps : left = .nothing ∨ left = .swap ⟨side, released⟩) :
    Point o side (Party.ifRequested side next (Party.find side left released))
  | polled {released : Bank} {left : Hold} (took : o.Took side released)
    (exchanged : o.Exchanged side) (keeps : left = .nothing ∨ left = .swap ⟨side, released⟩) :
    Point o side (Party.find side left released)

/-- A processor holds what is its own, or is at a place of one of its calls. -/
def Own (o : Observed) (side : Side) : Processor Party → Prop
  | .free party => o.Valid side party.hold
  | .calling _ rest => o.Point side rest

/-- What an exchange yields was exchanged, and is the bank that the processor sees. -/
structure Fresh (o : Observed) (side : Side) (yield : Yield) : Prop where
  took : o.Took side yield.released
  exchanged : o.Exchanged side
  seen : yield.bank = side.bank o.system.chip.select

theorem Own.mono {processor : Processor Party} (own : o.Own side processor)
    (taken : o'.taken side = o.taken side) (requested : o.Requested side → o'.Requested side)
    (exchanged : o.Exchanged side → o'.Exchanged side) : o'.Own side processor := by
  have tookStill {bank : Bank} (took : o.Took side bank) : o'.Took side bank := by
    rw [Took, taken]
    exact took
  cases processor with
  | free party =>
    obtain ⟨hold, got⟩ := party
    cases hold with
    | nothing => trivial
    | grant held => exact ⟨own.1, tookStill own.2⟩
    | swap pending => exact ⟨own.1, tookStill own.2.1, requested own.2.2⟩
  | calling begun rest =>
    cases own with
    | acquiring => exact .acquiring
    | looking => exact .looking
    | asking took pause => exact .asking (tookStill took) pause
    | requesting took asks pause => exact .requesting (tookStill took) asks pause
    | waiting took asked => exact .waiting (tookStill took) (requested asked)
    | polling took pause asked keeps =>
      exact .polling (tookStill took) pause (requested asked) keeps
    | polled took completed keeps => exact .polled (tookStill took) (exchanged completed) keeps

/-- A call begins at one of its places, or is over at once. -/
theorem own_call {hold : Hold} (valid : o.Valid side hold) {call : Party.Call}
    (allowed : Party.Allowed call hold) (party : Party) :
    o.Own side (.resume o.system.chip party (Party.perform side call hold)) := by
  cases hold with
  | nothing =>
    cases call with
    | acquire =>
      have point : o.Point side (Party.perform side .acquire .nothing) := .acquiring
      rw [Party.perform_acquire] at point ⊢
      exact point
    | _ => cases allowed
  | grant held =>
    obtain ⟨_, bank⟩ := held
    obtain ⟨rfl, took⟩ := valid
    cases call with
    | drop => exact trivial
    | beginSwap =>
      rw [Party.perform_beginSwap]
      exact Point.asking took .returns
    | swap =>
      rw [Party.perform_swap]
      exact Point.asking took .waits
    | _ => cases allowed
  | swap pending =>
    obtain ⟨_, released⟩ := pending
    obtain ⟨rfl, took, requested⟩ := valid
    cases call with
    | drop => exact trivial
    | poll =>
      rw [Party.perform_poll]
      exact Point.polling took .returns requested (.inr rfl)
    | wait => exact Point.waiting took requested
    | _ => cases allowed

/-! ## The count -/

/-- The count agrees with the banks: they are where a side took hold of its own just if an even
number of exchanges was completed since. -/
structure Counted (o : Observed) : Prop where
  asked : ∀ side, o.asked side ≤ o.exchanges
  taken : ∀ side, (o.taken side).exchanges ≤ o.exchanges
  agrees : ∀ side, o.system.chip.select = (o.taken side).select ↔
    (o.exchanges - (o.taken side).exchanges) % 2 = 0

theorem Counted.after (counted : o.Counted) (system : System Party Party) :
    (o.after system).Counted := by
  have counts (before now select : Bool) {exchanges marked : Nat} (le : marked ≤ exchanges)
      (agrees : before = select ↔ (exchanges - marked) % 2 = 0) :
      now = select ↔ (exchanges + (before != now).toNat - marked) % 2 = 0 := by
    cases before <;> cases now <;> cases select <;> simp at agrees ⊢ <;> omega
  refine ⟨fun side => ?_, fun side => ?_, fun side => ?_⟩
  · unfold Observed.after
    dsimp only
    split
    · exact Nat.le_add_right _ _
    · exact Nat.le_add_right_of_le (counted.asked side)
  · unfold Observed.after
    dsimp only
    split
    · exact Nat.le_refl _
    · exact Nat.le_add_right_of_le (counted.taken side)
  · unfold Observed.after
    dsimp only
    split
    · simp
    · exact counts _ _ _ (counted.taken side) (counted.agrees side)

variable {system : System Party Party}

theorem exchanged_after (asked : (o.after system).asked side = o.asked side)
    (exchanged : o.Exchanged side) : (o.after system).Exchanged side := by
  unfold Exchanged at exchanged ⊢
  rw [asked]
  exact Nat.lt_of_lt_of_le exchanged (Nat.le_add_right _ _)

/-- The banks have turned round, so there was an exchange. -/
theorem exchanged_of_flipped (le : (o.after system).asked side ≤ o.exchanges)
    (flipped : system.chip.select = !o.system.chip.select) : (o.after system).Exchanged side := by
  have counts : (o.after system).exchanges = o.exchanges + 1 := by
    unfold after
    rw [flipped]
    cases o.system.chip.select <;> rfl
  unfold Exchanged
  omega

theorem requested_after (counted : o.Counted)
    (asked : (o.after system).asked side = o.asked side)
    (waits : o.system.chip.mode.requested side = true →
      system.chip.mode.requested side = true ∨ system.chip.select = !o.system.chip.select)
    (requested : o.Requested side) : (o.after system).Requested side := by
  rcases requested with still | exchanged
  · exact (waits still).imp_right (exchanged_of_flipped (asked ▸ counted.asked side))
  · exact .inr (exchanged_after asked exchanged)

/-- Only who writes a request is noted to have asked. -/
theorem asked_after (quiet : (o.system.processor side).asks = false) :
    (o.after system).asked side = o.asked side := by
  simp [after, quiet]

/-- Only who returns with a grant is noted to have taken hold of a bank. -/
theorem taken_after (quiet : (o.system.processor side).takes (system.processor side) = false) :
    (o.after system).taken side = o.taken side := by
  simp [after, quiet]

/-- A processor stays where it was while others move. -/
theorem Own.rests (own : o.Own side (o.system.processor side)) (counted : o.Counted)
    (same : system.processor side = o.system.processor side)
    (waits : o.system.chip.mode.requested side = true →
      system.chip.mode.requested side = true ∨ system.chip.select = !o.system.chip.select) :
    (o.after system).Own side (system.processor side) := by
  have asked : (o.after system).asked side = o.asked side := by
    simp [after, same]
  have taken : (o.after system).taken side = o.taken side := by
    apply taken_after
    rw [same]
    cases o.system.processor side <;> rfl
  rw [same]
  exact own.mono taken (requested_after counted asked waits) (exchanged_after asked)

/-! ## Turns -/

/-- Where a step has taken a processor. -/
def Landed (o : Observed) (side : Side) : Processor Party → Prop
  | .free party => o.Valid side party.hold ∧ ∀ yield, party.got = some yield → o.Fresh side yield
  | .calling _ rest => o.Point side rest

theorem Landed.own {processor : Processor Party} (landed : o.Landed side processor) :
    o.Own side processor := by
  cases processor with
  | free party => exact landed.1
  | calling begun rest => exact landed

theorem Pause.landed {next : Program (GateArray → Party)} (pause : Pause side released next)
    (took : o.Took side released) (requested : o.Requested side) (chip : GateArray)
    (party : Party) : o.Landed side (.resume chip party next) := by
  cases pause with
  | returns => exact ⟨⟨rfl, took, requested⟩, nofun⟩
  | waits => exact Point.waiting took requested

theorem Pause.asks {next : Program (GateArray → Party)} (pause : Pause side released next)
    (chip : GateArray) (party : Party) : (Processor.resume chip party next).asks = false := by
  cases pause <;> rfl

theorem Pause.takes {next : Program (GateArray → Party)} (pause : Pause side released next)
    (chip : GateArray) (party : Party) (before : Processor Party) :
    before.takes (.resume chip party next) = false := by
  cases pause <;> cases before <;> rfl

/-- Whoever writes a request has asked, and the request waits or an exchange follows. -/
theorem requested_of_write {party : Party} {next : Program (GateArray → Party)} {word : UInt16}
    (asks : (word.toUInt8.toUInt16 &&& side.swapBit != 0) = true)
    (calling : o.system.processor side =
      .calling party (.access (.writeWord Register.memMode word) fun _ => next))
    (written : system.chip = { o.system.chip with
      mode := o.system.chip.mode.write o.system.chip.automatic side word.toUInt8.toUInt16 })
    (done : (system.processor side).asks = false) : (o.after system).Requested side := by
  have begins : (o.system.processor side).asks = true := by
    rw [calling]
    rfl
  have noted : (o.after system).asked side = o.exchanges := by
    simp [after, begins, done]
  have writes := o.system.chip.mode.requested_or_flipped o.system.chip.automatic asks
  refine writes.imp (fun waits => ?_) fun flipped => ?_
  · show system.chip.mode.requested side = true
    rw [written]
    exact waits
  · refine exchanged_of_flipped (Nat.le_of_eq noted) ?_
    rw [written]
    exact flipped

section

variable {party : Party} {rest rest' : Program (GateArray → Party)}
  (calling : o.system.processor side = .calling party rest)
  (resumes : system.processor side = .resume system.chip party rest')
include calling resumes

theorem took_after
    (quiet : Processor.takes (.calling party rest) (.resume system.chip party rest') = false)
    {bank : Bank} (took : o.Took side bank) : (o.after system).Took side bank := by
  rw [Took, taken_after (by rw [calling, resumes]; exact quiet)]
  exact took

/-- A bus cycle of a call leads to the next place, or to what the call leaves. -/
theorem landed_cycle (counted : o.Counted) (point : o.Point side rest)
    (eq : rest.step side o.system.chip = .ok (rest', system.chip)) :
    (o.after system).Landed side (.resume system.chip party rest') ∧
      system.chip.mode.requested side.peer = o.system.chip.mode.requested side.peer := by
  have tookStill := took_after calling resumes
  -- a look leaves the chip as it is, and is no request
  have looks (same : o.system.chip = system.chip)
      (quiet : Processor.asks (.calling party rest) = false) :
      (o.Requested side → (o.after system).Requested side) ∧
        (o.Exchanged side → (o.after system).Exchanged side) := by
    have asked : (o.after system).asked side = o.asked side := asked_after (calling ▸ quiet)
    exact ⟨requested_after counted asked fun waits => .inl (same ▸ waits), exchanged_after asked⟩
  cases point with
  | acquiring =>
    rw [Party.perform_acquire, Party.step_ifRequested] at eq
    obtain ⟨rfl, same⟩ := Prod.mk.inj (Except.ok.inj eq)
    refine ⟨?_, same ▸ rfl⟩
    split
    · exact ⟨trivial, nofun⟩
    · exact Point.looking
  | looking =>
    rw [Party.step_look] at eq
    obtain ⟨rfl, same⟩ := Prod.mk.inj (Except.ok.inj eq)
    have takes : (o.system.processor side).takes (system.processor side) = true := by
      rw [calling, resumes]
      rfl
    have taken : ((o.after system).taken side).select = system.chip.select := by
      simp [after, takes]
    refine ⟨⟨⟨rfl, ?_⟩, nofun⟩, same ▸ rfl⟩
    rw [Took, taken, same]
  | asking took pause =>
    obtain ⟨rfl, same⟩ := Prod.mk.inj (Except.ok.inj eq)
    exact ⟨Point.requesting (tookStill rfl took) (MemMode.word_asks _ side) pause, same ▸ rfl⟩
  | requesting took asks pause =>
    rw [Party.step_write] at eq
    obtain ⟨rfl, written⟩ := Prod.mk.inj (Except.ok.inj eq)
    have ne : side.peer ≠ side := by
      cases side <;> decide
    have requested := requested_of_write asks calling written.symm
      (resumes ▸ pause.asks system.chip party)
    refine ⟨pause.landed (tookStill (pause.takes _ _ _) took) requested _ _, ?_⟩
    rw [← written]
    exact MemMode.requested_write_of_ne _ _ ne _
  | waiting took requested =>
    rw [Party.step_waiting] at eq
    obtain ⟨rfl, same⟩ := Prod.mk.inj (Except.ok.inj eq)
    exact ⟨Point.polling (tookStill rfl took) .waits ((looks same rfl).1 requested) (.inl rfl),
      same ▸ rfl⟩
  | polling took pause requested keeps =>
    rw [Party.step_ifRequested] at eq
    obtain ⟨rfl, same⟩ := Prod.mk.inj (Except.ok.inj eq)
    obtain ⟨stillRequested, stillExchanged⟩ := looks same rfl
    refine ⟨?_, same ▸ rfl⟩
    cases waits : o.system.chip.mode.requested side with
    | true =>
      rw [waits, if_pos rfl] at tookStill
      rw [if_pos rfl]
      exact pause.landed (tookStill (pause.takes _ _ _) took) (stillRequested requested) _ _
    | false =>
      -- the request is gone, so an exchange has completed it
      rw [waits, if_neg Bool.false_ne_true] at tookStill
      rw [if_neg Bool.false_ne_true]
      have exchanged := requested.resolve_left (by rw [waits]; exact Bool.false_ne_true)
      exact Point.polled (tookStill rfl took) (stillExchanged exchanged) keeps
  | polled took exchanged keeps =>
    rw [Party.find, Party.step_look] at eq
    obtain ⟨rfl, same⟩ := Prod.mk.inj (Except.ok.inj eq)
    have completed := (looks same rfl).2 exchanged
    have took := tookStill (by rcases keeps with rfl | rfl <;> rfl) took
    refine ⟨⟨?_, ?_⟩, same ▸ rfl⟩
    · rcases keeps with rfl | rfl
      · trivial
      · exact ⟨rfl, took, .inr completed⟩
    · rintro _ ⟨⟩
      exact ⟨took, completed, same ▸ rfl⟩

end

/-- What holds of everything that the observer sees. -/
structure Good (o : Observed) : Prop where
  counted : o.Counted
  own : ∀ side, o.Own side (o.system.processor side)

/-- A step lands its processor, and leaves the request of the other one as it is. -/
theorem landed_step (good : o.Good)
    (step : (o.system.processor side).Step (Party.role side) side o.system.chip
      (system.processor side) system.chip) :
    (o.after system).Own side (system.processor side) ∧
      (∀ yield, (o.system.processor side).returned (system.processor side) = some yield →
        (o.after system).Fresh side yield) ∧
      system.chip.mode.requested side.peer = o.system.chip.mode.requested side.peer := by
  have own := good.own side
  generalize before : o.system.processor side = processor at step own
  generalize now : system.processor side = processor' at step
  generalize chip : o.system.chip = chipBefore at step
  generalize chip' : system.chip = chipNow at step
  cases step with
  | call call allowed =>
    subst chip
    rename_i party
    have asked : (o.after system).asked side = o.asked side :=
      asked_after (by rw [before]; rfl)
    have taken : (o.after system).taken side = o.taken side :=
      taken_after (by rw [before]; rfl)
    refine ⟨?_, nofun, rfl⟩
    refine (own_call own allowed party).mono taken ?_ (exchanged_after asked)
    exact requested_after good.counted asked fun waits => .inl (chip' ▸ waits)
  | cycle eq =>
    subst chip chip'
    obtain ⟨landed, peer⟩ := landed_cycle before now good.counted own eq
    refine ⟨landed.own, fun yield returned => ?_, peer⟩
    generalize Processor.resume system.chip _ _ = result at landed returned
    cases result with
    | free party => exact landed.2 yield returned
    | calling begun rest => cases returned

theorem Good.after (good : o.Good) (turn : Turn o.system system) : (o.after system).Good := by
  refine ⟨good.counted.after system, ?_⟩
  cases turn with
  | processor step =>
    obtain ⟨side, step, rest⟩ := System.processor_of_step Party.role step
    obtain ⟨own, -, peer⟩ := landed_step good step
    intro any
    obtain rfl | rfl := Side.eq_or_eq_peer any side
    · exact own
    · exact (good.own side.peer).rests good.counted rest fun waits => .inl (peer.trans waits)
  | chip pending =>
    intro side
    have rest : System.processor { o.system with chip := o.system.chip.stepHardware.2 } side =
        o.system.processor side := by
      cases side <;> rfl
    refine (good.own side).rests good.counted rest fun _ => .inr ?_
    show (o.system.chip.stepHardware.2).select = _
    rw [GateArray.stepHardware_of_pending pending]
    rfl

theorem Good.of_reached {begin : System Party Party} (main : begin.main = .free .atRest)
    (sub : begin.sub = .free .atRest) (reached : Reached begin o) : o.Good := by
  induction reached with
  | start =>
    refine ⟨⟨fun _ => Nat.le_refl _, fun _ => Nat.le_refl _, fun _ => by simp [start]⟩,
      fun side => ?_⟩
    have rest : begin.processor side = .free .atRest := by
      cases side
      · exact main
      · exact sub
    show (start begin).Own side (begin.processor side)
    rw [rest]
    trivial
  | turn _ turn good => exact good.after turn

/-! ## Runs of single calls -/

/-- The observer can come to see a system. -/
def Sees (begin system : System Party Party) : Prop :=
  ∃ o, Reached begin o ∧ o.system = system

namespace Sees

variable {begin system' : System Party Party} {chip chip' : GateArray} {party : Party}
  {other : Processor Party}

theorem turn (sees : Sees begin system) (turn : Turn system system') : Sees begin system' := by
  obtain ⟨o, reached, rfl⟩ := sees
  exact ⟨_, reached.turn turn, rfl⟩

theorem call (sees : Sees begin (System.pair side chip (.free party) other)) (call : Party.Call)
    (allowed : Party.Allowed call party.hold) :
    Sees begin (System.pair side chip
      (.resume chip party (Party.perform side call party.hold)) other) :=
  sees.turn (System.step_pair other
    (@Processor.Step.call _ (Party.role side) side party chip call allowed))

theorem cycle {rest rest' : Program (GateArray → Party)}
    (sees : Sees begin (System.pair side chip (.calling party rest) other))
    (eq : rest.step side chip = .ok (rest', chip')) :
    Sees begin (System.pair side chip' (.resume chip' party rest') other) :=
  sees.turn (System.step_pair other (.cycle eq))

theorem exchange (sees : Sees begin (System.pair side chip (.free party) other))
    (pending : chip.swapPending = true) :
    Sees begin (System.pair side { chip with mode := chip.mode.complete } (.free party) other) := by
  rw [← GateArray.stepHardware_of_pending pending]
  cases side with
  | main => exact sees.turn (.chip pending)
  | sub => exact sees.turn (.chip pending)

/-- A processor without a request takes hold of its bank. -/
theorem acquires (sees : Sees begin (System.pair side chip (.free .atRest) other))
    (settled : chip.mode.requested side = false) :
    Sees begin (System.pair side chip
      (.free ⟨.grant ⟨side, side.bank chip.select⟩, none⟩) other) := by
  have acquiring := sees.call .acquire trivial
  dsimp only [Party.atRest] at acquiring
  rw [Party.perform_acquire] at acquiring
  have looking := acquiring.cycle (Party.step_ifRequested _ _)
  rw [settled, if_neg Bool.false_ne_true] at looking
  exact looking.cycle (Party.step_look _)

/-- On a chip that exchanges banks later, a processor gives its bank away, and waits. -/
theorem begins {released : Bank} {got : Option Yield} (manual : chip.automatic = false)
    (sees : Sees begin (System.pair side chip (.free ⟨.grant ⟨side, released⟩, got⟩) other)) :
    ∃ mode : MemMode, mode.requested side = true ∧ mode.select = chip.select ∧
      Sees begin (System.pair side { chip with mode }
        (.free ⟨.swap ⟨side, released⟩, none⟩) other) := by
  have asking := sees.call .beginSwap trivial
  dsimp only at asking
  rw [Party.perform_beginSwap] at asking
  have requested := (asking.cycle rfl).cycle (Party.step_write _ _)
  refine ⟨_, ?_, ?_, requested⟩
  · rw [manual]
    exact MemMode.requested_assign _ (MemMode.word_asks _ side)
  · rw [manual]
    exact MemMode.select_assign _ side _

/-- On such a chip, a processor exchanges its bank, if nobody else is about to. -/
theorem exchanges (manual : chip.automatic = false) (settled : chip.mode.requested side = false)
    (sees : Sees begin (System.pair side chip (.free .atRest) other)) :
    ∃ chip' : GateArray, chip'.automatic = false ∧ (∀ any, chip'.mode.requested any = false) ∧
      chip'.select = !chip.select ∧ Sees begin (System.pair side chip'
        (.free ⟨.swap ⟨side, side.bank chip.select⟩, none⟩) other) := by
  obtain ⟨mode, requested, same, asked⟩ := (sees.acquires settled).begins manual
  have pending : ({ chip with mode } : GateArray).swapPending = true := by
    cases side <;> simp_all [GateArray.swapPending, MemMode.pending, MemMode.requested]
  refine ⟨{ chip with mode := mode.complete }, manual, fun any => ?_, ?_, asked.exchange pending⟩
  · cases any <;> rfl
  · exact congrArg (!·) same

/-- A look for the bank that is not in vain. -/
theorem polls {released : Bank} {got : Option Yield} (settled : chip.mode.requested side = false)
    (sees : Sees begin (System.pair side chip (.free ⟨.swap ⟨side, released⟩, got⟩) other)) :
    ∃ (o : Observed) (system : System Party Party), Reached begin o ∧ Turn o.system system ∧
      (o.system.processor side).returned (system.processor side) =
        some ⟨released, side.bank chip.select⟩ := by
  have asking := sees.call .poll trivial
  dsimp only at asking
  rw [Party.perform_poll] at asking
  have looking := asking.cycle (Party.step_ifRequested _ _)
  rw [settled, if_neg Bool.false_ne_true] at looking
  obtain ⟨o, reached, eq⟩ := looking
  have last : Turn o.system (System.pair side chip (.free ⟨.swap ⟨side, released⟩,
      some ⟨released, side.bank chip.select⟩⟩) other) := by
    rw [eq]
    exact System.step_pair other (.cycle (Party.step_look _))
  refine ⟨o, _, reached, last, ?_⟩
  rw [eq]
  cases side <;> rfl

end Sees

/-- Two processors at rest, and a chip at power-up that exchanges the banks at some later moment. -/
def powerUp : System Party Party :=
  ⟨.initial false, .free .atRest, .free .atRest⟩

theorem sees_powerUp : Sees powerUp powerUp :=
  ⟨_, .start, rfl⟩

/-! ## What a call yields -/

/-- What a call of a side has yielded. -/
structure Completed (o : Observed) (side : Side) (yield : Yield) : Prop where
  /-- An exchange was completed since the request. -/
  exchanged : o.asked side < o.exchanges
  /-- The bank is the one that the side sees. -/
  seen : yield.bank = side.bank o.system.chip.select
  /-- The peer sees the other one. -/
  opposite : side.peer.bank o.system.chip.select = yield.bank.other
  /-- The bank is not the one that was given away, just if an odd number of exchanges was completed
  since the side took hold of that one. -/
  turned : yield.bank = yield.released.other ↔
    (o.exchanges - (o.taken side).exchanges) % 2 = 1

theorem Fresh.completed {yield : Yield} (fresh : o.Fresh side yield) (counted : o.Counted) :
    o.Completed side yield := by
  obtain ⟨released, bank⟩ := yield
  obtain ⟨took, exchanged, rfl⟩ := fresh
  obtain rfl : released = _ := took
  refine ⟨exchanged, rfl, Side.bank_peer side _, ?_⟩
  have turned (now select : Bool) : side.bank now = (side.bank select).other ↔ ¬ now = select := by
    cases side <;> cases now <;> cases select <;> decide
  refine (turned _ _).trans ?_
  rw [counted.agrees side]
  omega

/-- Whenever a look for the bank is not in vain, or a wait is over, an exchange was completed since
the request, and what is found is the bank that the processor sees. It is not the one that was given
away, unless further exchanges have brought that one back. -/
theorem swap_yields {begin : System Party Party} (main : begin.main = .free .atRest)
    (sub : begin.sub = .free .atRest) (reached : Reached begin o) (turn : Turn o.system system)
    {yield : Yield}
    (returned : (o.system.processor side).returned (system.processor side) = some yield) :
    (o.after system).Completed side yield := by
  have good := Good.of_reached main sub reached
  have resting (same : system.processor side = o.system.processor side) : False := by
    rw [same] at returned
    cases before : o.system.processor side <;> rw [before] at returned <;> cases returned
  cases turn with
  | processor step =>
    obtain ⟨mover, step, rest⟩ := System.processor_of_step Party.role step
    obtain rfl | rfl := Side.eq_or_eq_peer side mover
    · obtain ⟨-, fresh, -⟩ := landed_step good step
      exact (fresh yield returned).completed (good.counted.after system)
    · exact (resting rest).elim
  | chip pending => exact (resting (by cases side <;> rfl)).elim

/-- The Main processor asks for an exchange, and finds the other bank when it is complete. -/
theorem swap_yields_other : ∃ (o : Observed) (system : System Party Party), Reached powerUp o ∧
    Turn o.system system ∧
    (o.system.processor .main).returned (system.processor .main) = some ⟨.zero, .one⟩ ∧
    (o.after system).Completed .main ⟨.zero, .one⟩ := by
  have sees : Sees powerUp (System.pair .main (.initial false) (.free .atRest) (.free .atRest)) :=
    sees_powerUp
  obtain ⟨chip, -, settled, select, sees⟩ := sees.exchanges rfl rfl
  obtain ⟨o, system, reached, turn, returned⟩ := sees.polls (settled .main)
  rw [select] at returned
  exact ⟨o, system, reached, turn, returned, swap_yields rfl rfl reached turn returned⟩

/-- The Main processor asks for an exchange, and then the Sub processor does. When both are
complete, the Main processor finds the bank that it has given away. -/
theorem swap_yields_released : ∃ (o : Observed) (system : System Party Party) (yield : Yield),
    Reached powerUp o ∧ Turn o.system system ∧
    (o.system.processor .main).returned (system.processor .main) = some yield ∧
    yield = ⟨.zero, .zero⟩ ∧ yield.bank ≠ yield.released.other := by
  have sees : Sees powerUp (System.pair .main (.initial false) (.free .atRest) (.free .atRest)) :=
    sees_powerUp
  obtain ⟨chip, manual, settled, select, sees⟩ := sees.exchanges rfl rfl
  have sees : Sees powerUp (System.pair .sub chip (.free .atRest) _) := sees
  obtain ⟨chip', -, settled', select', sees⟩ := sees.exchanges manual (settled .sub)
  have sees : Sees powerUp (System.pair .main chip' _ _) := sees
  obtain ⟨o, system, reached, turn, returned⟩ := sees.polls (settled' .main)
  rw [select', select] at returned
  exact ⟨o, system, ⟨.zero, .zero⟩, reached, turn, returned, rfl, by decide⟩

end Observed

end TwinDesk
