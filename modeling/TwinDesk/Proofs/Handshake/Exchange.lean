import TwinDesk.Proofs.Handshake.Initiator

/-!
# Whole commands

A command from the initiator's point of view: it is posted once the responder is at rest, then
completed, and then its result words are read. Each wait ends, since the responder is due as long as
the initiator waits.

* `send_outline`, `waitDone_outline`, `readResults_outline` — the three parts.
* `call_last_outline`, `call_outline` — a call returns the last reply on the link, which answers its
  request.
-/

namespace TwinDesk

open Handshake Program

namespace Handshake

variable {contract : Contract} {B : Course → Prop} {room : Nat} {requests : List Request}

/-- Outlines without an assertion between the cycles. -/
@[reducible] def Triple {α : Type} (contract : Contract) (side : Side) (p : Program α)
    (P : World contract → Prop) (Q : α → World contract → Prop) : Prop :=
  Outlined contract side (fun _ => True) p P Q

/-- An initiator that is idle sends a command at its first try. -/
theorem send_outline {cmd : Command} {initiator : Initiator} (idle : initiator.isIdle = true)
    (nonzero : cmd.opcode ≠ .none) (admits : contract.Admits requests cmd.request)
    (within : ∀ c, c.requests = requests → B c) :
    Outlined contract .main B (initiator.send cmd)
      (At .main (Initiating initiator requests) 6 anything)
      fun result => At .main (fun c => result.1 = .ok () ∧ result.2.isIdle = false ∧
        Initiating result.2 (requests ++ [cmd.request]) c) pace anything := by
  have standing : Standing .main B (Initiating initiator requests) := initiating initiator within
  refine forever_outline standing ((post_outline cmd initiator within admits).bind ?_)
  -- the first try succeeds, since the initiator is idle
  rintro ⟨e | ⟨⟨⟩⟩, initiator⟩
  · cases e <;> exact .done fun w h => absurd h.course.2.1 (by simp [idle, nonzero])
  · exact .done fun w h => h.mono (fun c posted => ⟨rfl, posted.2⟩) (Nat.le_refl _)

/-- The initiator has sent the last request, and has not seen it completed. -/
def Underway (requests : List Request) (initiator : Initiator) (c : Course) : Prop :=
  initiator.isIdle = false ∧ Initiating initiator requests c

/-- The initiator has seen the last request completed, with a status. -/
def Over (requests : List Request) (initiator : Initiator) (status : Status) (c : Course) : Prop :=
  initiator.isIdle = true ∧ Initiating initiator requests c ∧
    c.replies.getLast?.map (·.status) = some status

/-- Waiting for the completion ends at rest, with the status of the last reply. -/
theorem waitDone_outline {initiator : Initiator} (busy : initiator.isIdle = false)
    (slack : room + 2 ≤ pace) (within : ∀ c, c.requests = requests → B c) :
    Outlined contract .main B initiator.waitDone
      (At .main (Initiating initiator requests) (room + 2) anything)
      fun result => At .main (fun c => ∃ status, result.1 = .ok status ∧
        Over requests result.2 status c) room anything := by
  -- the state moves from one phase to the next while the initiator waits, but is never idle
  have standing (state : Initiator) : Standing .main B (Underway requests state) :=
    (initiating state within).assuming
  refine Rules.Outline.strengthen (Rules.Outline.forever
    (fun state => At .main (Underway requests state) (room + 2) anything)
    (fun state => At .main (Underway requests state) (room + 1) anything)
    (fun state => (standing state).rests) (fun state => passes) fun state => ?_)
    fun w h => h.mono (fun c fits => ⟨busy, fits⟩) (Nat.le_refl _)
  have poll : Outlined contract .main B (Initiator.pollCompletion state)
      (At .main (Initiating state requests) (room + 1) anything)
      fun result => At .main (Polled state requests result) (polledRoom room result) anything :=
    pollCompletion_outline state within (by omega)
  refine Rules.Outline.strengthen (Rules.Outline.assuming fun busy : state.isIdle = false =>
    poll.weaken (fun w h => h) ?_)
    fun w h => ⟨h.course.1, h.mono (fun c fits => fits.2) (Nat.le_refl _)⟩
  rintro ⟨e | (_ | status), initiator⟩ w h
  · exact absurd h.course.2.1 (by simp [busy])
  · exact h.mono (fun c polled => ⟨polled.2.1, polled.2.2⟩) slack
  · exact h.mono (fun c polled => ⟨status, rfl, polled.2⟩) (Nat.le_refl _)

/-- Besides `A`, a result word of the last reply. -/
def Collecting (A : Course → Prop) (index : Fin 8) (word : UInt16) (c : Course) : Prop :=
  A c ∧ ∀ reply ∈ c.replies.getLast?, reply.words.get index = word

/-- A result word that is read at rest is the one of the last reply. -/
theorem collect_outline {A : Course → Prop} (rest : ∀ c, A c → c.stage = .rest ∧ B c)
    (index : Fin 8) :
    Outlined contract .main B (MainRegisters.readResult index) (At .main A (room + 1) anything)
      fun word => At .main (Collecting A index word) room anything := by
  have standing : Standing .main B A :=
    .of_stage .rest rfl (fun c h => (rest c h).1) fun c h => (rest c h).2
  refine readResult_outline index.isLt standing fun w holds => ⟨holds, fun reply last => ?_⟩
  obtain ⟨-, words, -⟩ := w.shows.reply (by rw [(rest _ holds).1]; rfl) reply last
  rw [words]
  rfl

theorem readResults_outline {A : Course → Prop} (rest : ∀ c, A c → c.stage = .rest ∧ B c) :
    Outlined contract .main B MainRegisters.readResults (At .main A (room + 8) anything)
      fun words => At .main
        (fun c => A c ∧ ∀ reply ∈ c.replies.getLast?, reply.words = words) room anything := by
  -- at rest nobody writes a result, so a word that was read stays the word of the last reply
  have next {A : Course → Prop} (rest : ∀ c, A c → c.stage = .rest ∧ B c) (index : Fin 8)
      (word : UInt16) (c : Course) (h : Collecting A index word c) : c.stage = .rest ∧ B c :=
    rest c h.1
  refine (collect_outline rest 0).bind ?_
  intro word0
  have rest := next rest 0 word0
  refine (collect_outline rest 1).bind ?_
  intro word1
  have rest := next rest 1 word1
  refine (collect_outline rest 2).bind ?_
  intro word2
  have rest := next rest 2 word2
  refine (collect_outline rest 3).bind ?_
  intro word3
  have rest := next rest 3 word3
  refine (collect_outline rest 4).bind ?_
  intro word4
  have rest := next rest 4 word4
  refine (collect_outline rest 5).bind ?_
  intro word5
  have rest := next rest 5 word5
  refine (collect_outline rest 6).bind ?_
  intro word6
  have rest := next rest 6 word6
  refine (collect_outline rest 7).bind fun word7 => .done ?_
  intro w h
  refine h.mono (fun c known => ?_) (Nat.le_refl _)
  obtain ⟨⟨⟨⟨⟨⟨⟨⟨known, h0⟩, h1⟩, h2⟩, h3⟩, h4⟩, h5⟩, h6⟩, h7⟩ := known
  refine ⟨known, fun reply last => Vector.ext fun i hi => ?_⟩
  interval_cases i
  · exact h0 reply last
  · exact h1 reply last
  · exact h2 reply last
  · exact h3 reply last
  · exact h4 reply last
  · exact h5 reply last
  · exact h6 reply last
  · exact h7 reply last

/-- What a call has done: it returns the last reply, which answers its request. -/
def Called (contract : Contract) (requests : List Request) (cmd : Command) (reply : Reply)
    (c : Course) : Prop :=
  c.stage = .rest ∧ c.requests = requests ++ [cmd.request] ∧
    contract.Answers (requests ++ [cmd.request]) reply

theorem eq_atRest_of_idle {initiator : Initiator} (idle : initiator.isIdle = true) :
    initiator = .atRest := by
  obtain ⟨phase⟩ := initiator
  obtain rfl : phase = .idle := by simpa [Initiator.isIdle] using idle
  rfl

section

variable {cmd : Command} {initiator : Initiator} (idle : initiator.isIdle = true)
  (nonzero : cmd.opcode ≠ .none) (admits : contract.Admits requests cmd.request)
  (slack : room + 10 ≤ pace)
include idle nonzero admits slack

/-- A call of an initiator that is idle ends with the last reply, and leaves it idle. Until then its
request is the only one that is added. -/
theorem call_last_outline (before : ∀ c, c.requests = requests → B c)
    (after : ∀ c, c.requests = requests ++ [cmd.request] → B c) :
    Outlined contract .main B (initiator.call cmd)
      (At .main (Initiating initiator requests) 6 anything)
      fun result => At .main (fun c => ∃ reply, result.1 = .ok reply ∧ result.2.isIdle = true ∧
        c.replies.getLast? = some reply ∧ Called contract requests cmd reply c) room anything := by
  have send : Outlined contract .main B (initiator.send cmd) _ _ :=
    send_outline idle nonzero admits before
  refine send.bind ?_
  rintro ⟨e | ⟨⟨⟩⟩, initiator⟩
  · exact .done fun w h => absurd h.course.1 (by simp)
  refine Rules.Outline.strengthen (Rules.Outline.assuming fun busy : initiator.isIdle = false => ?_)
    fun w h => ⟨h.course.2.1, h⟩
  have wait : Outlined contract .main B initiator.waitDone
      (At .main (Initiating initiator (requests ++ [cmd.request])) (room + 10) anything) _ :=
    waitDone_outline busy slack after
  refine (wait.strengthen fun w h => h.mono (fun c sent => sent.2.2) slack).bind ?_
  rintro ⟨e | status, initiator⟩
  · exact .done fun w h => absurd h.course (by simp)
  have collect : Outlined contract .main B MainRegisters.readResults
      (At .main (Over (requests ++ [cmd.request]) initiator status) (room + 8) anything) _ :=
    readResults_outline fun c ended => ⟨rest_of_idle ended.2.1 ended.1, after c ended.2.1.2⟩
  refine (collect.strengthen fun w h => h.mono ?_ (Nat.le_refl _)).bind fun words =>
    .done fun w h => ?_
  · obtain ⟨⟨idle, fits, last⟩, all⟩ := h.course
    obtain ⟨reply, eq, rfl⟩ := Option.map_eq_some_iff.mp last
    obtain rfl := all reply eq
    have rest := rest_of_idle fits idle
    obtain ⟨-, -, answers⟩ := w.shows.reply (by rw [rest]; rfl) reply eq
    rw [fits.2] at answers
    exact ⟨⟨reply, rfl, idle, eq, rest, fits.2, answers⟩, h.room, trivial⟩
  · rintro c ⟨status', eq, ended⟩
    cases eq
    exact ended

/-- A call of an initiator that is idle ends, and leaves it idle. -/
theorem call_outline :
    Triple contract .main (initiator.call cmd)
      (At .main (Initiating initiator requests) 6 anything)
      fun result => At .main (fun c => ∃ reply, result.1 = .ok reply ∧ result.2.isIdle = true ∧
        Called contract requests cmd reply c) room anything :=
  (call_last_outline idle nonzero admits slack (fun _ _ => trivial) fun _ _ => trivial).weaken
    (fun _ h => h) fun _ _ h =>
    h.mono (fun _ ⟨reply, ok, idle, _, called⟩ => ⟨reply, ok, idle, called⟩) (Nat.le_refl _)

end

end Handshake

end TwinDesk
