import TwinDesk.Link.Handshake
import TwinDesk.Proofs.Hardware.Words
import TwinDesk.Proofs.Link.Outline

/-!
# The handshake as an observer of both processors sees it

The *course* of a handshake is the stage of the command cycle with the requests that were posted
and the replies that were signalled so far. It moves round the stages of the cycle, and at every
stage exactly one processor may take it further. A *world* is a course with a chip that shows it:
both flags, the parameters of the request in flight and the result words of the last reply are
functions of the course.

A world also counts how many bus cycles a processor that is *due* has let pass at the present stage.
The count stays below `pace`, which is what bounds the length of a command cycle.

* `Course.Step` — the five steps of the cycle and who takes them.
* `World.linger`, `World.advance` — bus cycles that leave the course as it is, and that move it.
* `handshake` — the rules of the link: the flags, parameters and results that each side leaves to
  the other.
-/

namespace TwinDesk.Handshake

/-- A list that continues another one by its last entry. -/
theorem concat_of_extends {α : Type} {xs ys : List α} {y : α} (h : xs <+: ys)
    (length : ys.length = xs.length + 1) (last : ys.getLast? = some y) : ys = xs ++ [y] := by
  obtain ⟨rest, rfl⟩ := h
  obtain ⟨z, rfl⟩ : ∃ z, rest = [z] := by
    rw [← List.length_eq_one_iff]
    simpa using length
  obtain rfl : z = y := by simpa using last
  rfl

/-! ## The course of a handshake -/

/-- Where the two processors are in the command cycle. -/
inductive Stage where
  | rest
  | posted
  | acked
  | signalled
  | released
  deriving DecidableEq, Repr

namespace Stage

/-- Who takes the cycle further. -/
def mover : Stage → Side
  | rest | signalled => .main
  | posted | acked | released => .sub

/-- Whether the Main processor shows an opcode. -/
def raised : Stage → Bool
  | posted | acked | signalled => true
  | rest | released => false

/-- Whether a request waits for its reply. -/
def isOpen : Stage → Bool
  | posted | acked => true
  | rest | signalled | released => false

end Stage

/-- A command as it crosses the link; its opcode byte need not be the code of an opcode. -/
structure Request where
  opcode : UInt8
  params : Params
  deriving DecidableEq, Repr

/-- The stage of the cycle, and what has crossed the link so far, oldest first. -/
structure Course where
  stage : Stage
  requests : List Request
  replies : List Reply

namespace Course

/-- The flag byte that a processor shows. -/
def flag (course : Course) : Side → UInt8
  | .main => if course.stage.raised then (course.requests.getLast?.map (·.opcode)).getD 0 else 0
  | .sub =>
    match course.stage with
    | .rest | .posted => Status.idle.code
    | .acked => Status.busy.code
    | .signalled | .released => (course.replies.getLast?.map (·.status.code)).getD 0

/-- The requests that were answered. -/
def answered (c : Course) : List Request :=
  c.requests.take c.replies.length

/-- A step of the command cycle, by the processor that takes it. -/
inductive Step : Side → Course → Course → Prop where
  | post (request : Request) {c : Course} (rest : c.stage = .rest) :
    Step .main c ⟨.posted, c.requests ++ [request], c.replies⟩
  | ack {c : Course} (posted : c.stage = .posted) : Step .sub c ⟨.acked, c.requests, c.replies⟩
  | signal (reply : Reply) {c : Course} (acked : c.stage = .acked) :
    Step .sub c ⟨.signalled, c.requests, c.replies ++ [reply]⟩
  | release {c : Course} (signalled : c.stage = .signalled) :
    Step .main c ⟨.released, c.requests, c.replies⟩
  | settle {c : Course} (released : c.stage = .released) :
    Step .sub c ⟨.rest, c.requests, c.replies⟩

theorem Step.mover {side : Side} {c c' : Course} (step : Step side c c') :
    c.stage.mover = side := by
  cases step with
  | post _ stage => rw [stage]; rfl
  | ack stage => rw [stage]; rfl
  | signal _ stage => rw [stage]; rfl
  | release stage => rw [stage]; rfl
  | settle stage => rw [stage]; rfl

/-- Nothing that has crossed the link is forgotten. -/
theorem Step.requests_grow {side : Side} {c c' : Course} (step : Step side c c') :
    c.requests <+: c'.requests := by
  cases step with
  | post => exact List.prefix_append _ _
  | _ => exact List.prefix_rfl

theorem Step.replies_grow {side : Side} {c c' : Course} (step : Step side c c') :
    c.replies <+: c'.replies := by
  cases step with
  | signal => exact List.prefix_append _ _
  | _ => exact List.prefix_rfl

end Course

/-! ## Worlds -/

/-- What is agreed upon besides the handshake itself. -/
structure Contract where
  /-- How many commands there will be, where that is settled. -/
  limit : Option Nat
  /-- Which commands may be posted. -/
  Permits : Request → Prop
  /-- What may answer the last of these requests. -/
  Answers : List Request → Reply → Prop

/-- Whether one more request may follow the ones so far. -/
structure Contract.Admits (contract : Contract) (requests : List Request) (request : Request) :
    Prop where
  space : ∀ limit ∈ contract.limit, requests.length < limit
  permits : contract.Permits request

variable {contract : Contract}

/-- Whether a processor has to make progress: it is its turn, or all commands are through. -/
def Due (contract : Contract) (side : Side) (course : Course) : Prop :=
  ∃ limit, contract.limit = some limit ∧
    (course.stage.mover = side ∨ (course.stage = .rest ∧ course.requests.length = limit))

/-- In the middle of a command nobody is due but the mover. -/
theorem not_due_of_mover {side : Side} {c : Course} (mover : c.stage.mover ≠ side)
    (ne : c.stage ≠ .rest) : ¬ Due contract side c := by
  rintro ⟨limit, -, mine | ⟨rest, -⟩⟩
  · exact mover mine
  · exact ne rest

/-- How many bus cycles in a row a processor that is due may let pass. -/
def pace : Nat := 64

/-- The chip shows the course. -/
structure Shows (contract : Contract) (chip : GateArray) (course : Course) : Prop where
  flag : ∀ side, chip.flag side = course.flag side
  count : course.requests.length = course.replies.length + if course.stage.isOpen then 1 else 0
  begun : course.stage ≠ .rest → course.requests ≠ []
  /-- The opcode that is shown belongs to the last request, and so do the parameters. -/
  request : course.stage.raised = true → ∀ r ∈ course.requests.getLast?,
    r.opcode ≠ 0 ∧ chip.params = r.params
  /-- The result words belong to the last reply. -/
  reply : course.stage.isOpen = false → ∀ r ∈ course.replies.getLast?,
    r.status.isTerminal = true ∧ chip.results = r.words ∧ contract.Answers course.requests r
  limit : ∀ limit ∈ contract.limit, course.requests.length ≤ limit
  permitted : ∀ r ∈ course.requests, contract.Permits r

/-- A chip that shows a course, and how long the processors have let it stand. -/
structure World (contract : Contract) where
  chip : GateArray
  course : Course
  waited : Side → Nat
  shows : Shows contract chip course
  paced : ∀ side, waited side ≤ pace
  unhurried : ∀ side, ¬ Due contract side course → waited side = 0

/-- A chip whose flags are both clear. -/
def Quiet (chip : GateArray) : Prop :=
  ∀ side, chip.flag side = 0

/-- The world of a chip before the first command. -/
def World.ofQuiet {chip : GateArray} (quiet : Quiet chip) : World contract where
  chip := chip
  course := ⟨.rest, [], []⟩
  waited _ := 0
  shows :=
    { flag
        | .main => quiet .main
        | .sub => quiet .sub
      count := rfl
      begun rest := absurd rfl rest
      request raised := by cases raised
      reply := by rintro - r ⟨⟩
      limit _ _ := Nat.zero_le _
      permitted := by rintro r ⟨⟩ }
  paced _ := Nat.zero_le _
  unhurried _ _ := rfl

/-- Between two commands both flags are clear again. -/
theorem World.quiet_of_rest (w : World contract) (rest : w.course.stage = .rest) :
    Quiet w.chip := by
  intro side
  rw [w.shows.flag]
  cases side with
  | main =>
    rw [Course.flag, rest]
    rfl
  | sub =>
    rw [Course.flag, rest]
    rfl

/-! ## Moves -/

/-- The registers that a processor has to itself, apart from its flag. -/
@[reducible] def Registers : Side → Type
  | .main => Params
  | .sub => GateArray.Workspace

/-- What a processor's registers hold. -/
def registers (chip : GateArray) : (side : Side) → Registers side
  | .main => chip.params
  | .sub => chip.workspace

/-- The course stands still; a processor that is due must not let it stand for long. -/
structure Lingers (side : Side) (w w' : World contract) : Prop where
  course : w'.course = w.course
  peer : w'.waited side.peer = w.waited side.peer
  own : Due contract side w.course → w'.waited side = w.waited side + 1

/-- The course goes one step further, and the counts start again. -/
structure Advances (side : Side) (w w' : World contract) : Prop where
  step : Course.Step side w.course w'.course
  waited : ∀ side, w'.waited side = 0

/-- The rules of the link. -/
@[reducible] def handshake (contract : Contract) : Rules where
  World := World contract
  chip := World.chip
  Moves side w w' := registers w'.chip side.peer = registers w.chip side.peer ∧
    (Lingers side w w' ∨ Advances side w w')

/-- What a bus cycle must leave alone where the course stands still. -/
structure Preserves (side : Side) (course : Course) (chip chip' : GateArray) : Prop where
  flag : ∀ side, chip'.flag side = chip.flag side
  peer : registers chip' side.peer = registers chip side.peer
  params : course.stage.raised = true → chip'.params = chip.params
  results : course.stage.isOpen = false → chip'.results = chip.results

theorem Preserves.rfl {side : Side} {course : Course} {chip : GateArray} :
    Preserves side course chip chip :=
  ⟨fun _ => Eq.refl _, Eq.refl _, fun _ => Eq.refl _, fun _ => Eq.refl _⟩

theorem Shows.preserved {side : Side} {course : Course} {chip chip' : GateArray}
    (shows : Shows contract chip course) (kept : Preserves side course chip chip') :
    Shows contract chip' course where
  flag owner := (kept.flag owner).trans (shows.flag owner)
  count := shows.count
  begun := shows.begun
  request raised r last := by
    obtain ⟨code, params⟩ := shows.request raised r last
    exact ⟨code, (kept.params raised).trans params⟩
  reply closed r last := by
    obtain ⟨terminal, words, answers⟩ := shows.reply closed r last
    exact ⟨terminal, (kept.results closed).trans words, answers⟩
  limit := shows.limit
  permitted := shows.permitted

open Classical in
/-- A bus cycle at a standing course. A processor that is due needs room for it in its count. -/
theorem World.linger (w : World contract) (side : Side) (chip' : GateArray)
    (kept : Preserves side w.course w.chip chip')
    (room : Due contract side w.course → w.waited side + 1 ≤ pace) :
    ∃ w' : World contract, w'.chip = chip' ∧ w'.course = w.course ∧
      (handshake contract).Moves side w w' ∧ w'.waited side ≤ w.waited side + 1 := by
  -- a cycle that leads nowhere counts for the side that is due, and for nobody else
  let waited (s : Side) : Nat :=
    if s = side ∧ Due contract side w.course then w.waited s + 1 else w.waited s
  let w' : World contract :=
    { chip := chip'
      course := w.course
      waited
      shows := w.shows.preserved kept
      paced := by
        intro s
        show (if _ then _ else _) ≤ _
        split
        case isTrue h =>
          obtain ⟨rfl, due⟩ := h
          exact room due
        case isFalse => exact w.paced s
      unhurried := by
        intro s rested
        show (if _ then _ else _) = _
        rw [if_neg, w.unhurried s rested]
        rintro ⟨rfl, due⟩
        exact rested due }
  refine ⟨w', rfl, rfl, ⟨kept.peer, .inl ⟨rfl, ?_, ?_⟩⟩, ?_⟩
  · show (if _ then _ else _) = _
    rw [if_neg]
    rintro ⟨same, -⟩
    cases side <;> cases same
  · intro due
    exact if_pos ⟨rfl, due⟩
  · show (if _ then _ else _) ≤ _
    split
    · exact Nat.le_refl _
    · exact Nat.le_succ _

/-- A bus cycle that takes the course one step further. -/
theorem World.advance {side : Side} (w : World contract) {chip' : GateArray} {course' : Course}
    (step : Course.Step side w.course course') (shows : Shows contract chip' course')
    (peer : registers chip' side.peer = registers w.chip side.peer) :
    ∃ w' : World contract, w'.chip = chip' ∧ w'.course = course' ∧
      (handshake contract).Moves side w w' ∧ ∀ side, w'.waited side = 0 := by
  refine ⟨⟨chip', course', fun _ => 0, shows, fun _ => Nat.zero_le _, fun _ _ => rfl⟩, rfl, rfl,
    ⟨peer, .inr ⟨step, fun _ => rfl⟩⟩, fun _ => rfl⟩

end TwinDesk.Handshake
