import TwinDesk.Proofs.Sub.RemoteCalls
import TwinDesk.Proofs.Window.Frames

/-!
# Windows opened from afar

The Main processor asks for a window by its frame, and the frame travels as origin and size. A size
is a coordinate, so that it is cut at 32767; all other pixels on the screen arrive in the frame of
the new window, however the edges lie.

* `Rect.contains_ofOriginSize_iff` — what is left of a rectangle after the trip.
* `Dispatcher.Idle`, `Dispatcher.Booted.idle` — the dispatcher between two commands.
* `Dispatcher.openWindow_ends` — the whole call, from the client to the new desktop.
* `Dispatcher.opens_frame` — the pixels that the new window covers.
-/

namespace TwinDesk

open Handshake Program

/-! ## Origin and size -/

namespace Rect

variable {r : Rect} {p : Point}

/-- The pixel is within the largest size from the origin, or before the origin. -/
def InReach (r : Rect) (p : Point) : Prop :=
  p.x.toInt < r.left.toInt + 32767 ∧ p.y.toInt < r.top.toInt + 32767

/-- A rectangle that is rebuilt from its origin and its size. -/
theorem contains_ofOriginSize_iff :
    (ofOriginSize r.left r.top r.width r.height).contains p = true ↔
      r.contains p = true ∧ r.InReach p := by
  have left := r.left.toInt_bounds
  have top := r.top.toInt_bounds
  have right := r.right.toInt_bounds
  have bottom := r.bottom.toInt_bounds
  rw [contains_iff_toInt, contains_iff_toInt]
  simp only [ofOriginSize, InReach, Coord.toInt_addSat, toInt_width, toInt_height]
  omega

/-- All of a rectangle whose size is a coordinate is in reach. -/
theorem inReach_of_contains (narrow : r.right.toInt - r.left.toInt ≤ 32767)
    (low : r.bottom.toInt - r.top.toInt ≤ 32767) (inside : r.contains p = true) :
    r.InReach p := by
  rw [contains_iff_toInt] at inside
  constructor
  · omega
  · omega

end Rect

/-! ## A new window -/

namespace Desktop

variable {desktop : Desktop}

/-- Where there is room, an open call makes a window under an id that was not in use. -/
theorem openWindow_of_room (room : ¬desktop.compositor.windows.Full) (frame : Rect) :
    ∃ id window, (desktop.openWindow frame).1 = some id ∧
      desktop.compositor.windows.get? id = none ∧
      (desktop.openWindow frame).2.compositor.windows.get? id = some window ∧
      window.frame = frame.clipTo Layout.screen := by
  rw [← Pool.freeSlot?_eq_none_iff, ← ne_eq, Option.ne_none_iff_exists'] at room
  obtain ⟨slot, found⟩ := room
  obtain ⟨window, opened, framed⟩ := Pool.get?_allocate found frame "Untitled" .document .visible
  refine ⟨slot.id, window, ?_, ?_, opened, framed⟩
  · rw [openWindow_fst, found]
    rfl
  · rw [Pool.get?_id]
    exact (Pool.freeSlot?_eq_some found).1

/-- A fresh desktop has room. -/
theorem not_full_of_fresh {result : Except DesktopError Unit}
    (fresh : Desktop.fresh = .ok (result, desktop)) : ¬desktop.compositor.windows.Full := by
  obtain ⟨⟨installed, menus⟩, -, same⟩ := Checked.bind_eq_ok_iff.mp fresh
  cases same
  intro full
  let slot : Slot := ⟨0, Nat.zero_lt_succ _⟩
  have vacant : ((Pool.empty.invalidate Layout.screen).slots.get slot).isSome = false := by
    rw [Pool.slots_invalidate, Pool.empty, SlotTable.get_replicate]
    rfl
  exact Bool.false_ne_true (vacant.symm.trans (full slot))

end Desktop

/-! ## The call -/

namespace Dispatcher

variable {R : Type}

/-- The dispatcher waits for the next command. -/
structure Idle (chip : GateArray) (d : Dispatcher R) : Prop where
  quiet : Quiet chip
  responder : d.responder = .atRest
  sound : d.desktop.Sound

theorem Booted.idle {start chip : GateArray} {painter : R} {launcher : Launcher}
    {d : Dispatcher R} (booted : Booted start painter launcher chip d) : Idle chip d := by
  obtain ⟨rfl, desktop, -, sound, rfl⟩ := booted.known
  exact ⟨quiet_bootedChip booted.quiet, rfl, sound⟩

theorem Booted.not_full {start chip : GateArray} {painter : R} {launcher : Launcher}
    {d : Dispatcher R} (booted : Booted start painter launcher chip d) :
    ¬d.desktop.compositor.windows.Full := by
  obtain ⟨-, desktop, fresh, -, rfl⟩ := booted.known
  exact Desktop.not_full_of_fresh fresh

variable [Painter R] {chip : GateArray} {d : Dispatcher R} {schedule : Nat → Side}

/-- The client has `answer` from its call to open a window, and has sent nothing else. -/
def HasAnswer (frame : Rect) (answer : Option WindowId)
    (result : Except MainError (Option WindowId) × Client) (c : Course) : Prop :=
  result = (.ok answer, .atRest) ∧
    Initiating .atRest [(RemoteCall.openWindow frame).command.request] c

/-- The client gets the answer of the local call, for the frame that origin and size give back, and
the dispatcher is left with the desktop of that call. -/
theorem openWindow_ends (idle : Idle chip d) (frame : Rect) (fair : Duo.Fair schedule) :
    let opened := d.desktop.openWindow
      (.ofOriginSize frame.left frame.top frame.width frame.height)
    ∃ served d' chip',
      Duo.EndsWith schedule ⟨chip, Client.openWindow frame .atRest, d.serveTimes 1⟩ chip'
        (.ok opened.1, .atRest) (served, d') ∧
      d'.desktop = opened.2 := by
  intro opened
  let call : RemoteCall := .openWindow frame
  have none : RemoteCall.runAll [] d.place = .ok ([], d.place) := rfl
  have ran : call.run d.place = .ok (.opened opened.1, { d.place with desktop := opened.2 }) := rfl
  have begins : Follows d.place [] d := by
    refine ⟨idle.sound, fun calls none => ⟨[], ?_⟩⟩
    obtain rfl : calls = [] := List.map_eq_nil_iff.mp none.symm
    rfl
  have returned : Triple (callsFrom d.place 1) .main (Client.openWindow frame .atRest)
      (At .main (Initiating .atRest []) 6 anything)
      fun result => At .main (HasAnswer frame opened.1 result) 0 anything := by
    refine (request_outline (fun words => WindowId.ofResult? words[0]) [] call
      Nat.zero_lt_one).weaken (fun _ h => h) ?_
    rintro result w ⟨⟨answers, place, words, place', run, ran', same⟩, h⟩
    obtain ⟨-, rfl⟩ := Prod.mk.inj (Except.ok.inj (none.symm.trans run))
    obtain ⟨answer, -⟩ := Prod.mk.inj (Except.ok.inj (ran.symm.trans ran'))
    have answer : opened.1 = WindowId.ofResult? words.first := RemoteCall.Answer.opened.inj answer
    refine h.mono (fun _ fits => ⟨?_, fits⟩) (by decide)
    rw [same, answer]
    rfl
  obtain ⟨result, served, d', chip', c, ends, ⟨rfl, fits⟩, follows, -⟩ :=
    ends_of_service rfl returned (fun _ c h => ⟨h.2.1, congrArg List.length h.2.2⟩)
      (carries_calls d.place 1).executes idle.responder begins idle.quiet trivial fair
  obtain ⟨answers, run⟩ := follows.2 [call] fits.2
  have run' : RemoteCall.runAll [call] d.place = .ok ([] ++ [.opened opened.1], _) :=
    RemoteCall.runAll_concat none ran
  have place := congrArg Prod.snd (Except.ok.inj (run.symm.trans run'))
  exact ⟨served, d', chip', ends, congrArg Workplace.desktop place⟩

/-- Asked by the Main processor to open a window, the dispatcher opens a new one, and of the screen
that window covers the wanted pixels. -/
def Opens (schedule : Nat → Side) (chip : GateArray) (d : Dispatcher R) (frame : Rect)
    (wanted : Point → Prop) : Prop :=
  ∃ id window served d' chip',
    Duo.EndsWith schedule ⟨chip, Client.openWindow frame .atRest, d.serveTimes 1⟩ chip'
      (.ok (some id), .atRest) (served, d') ∧
    d.desktop.compositor.windows.get? id = none ∧
    d'.desktop.compositor.windows.get? id = some window ∧
    ∀ p, Layout.screen.contains p = true → (window.frame.contains p = true ↔ wanted p)

namespace Opens

variable {frame : Rect} {wanted wanted' : Point → Prop}

theorem congr (opens : Opens schedule chip d frame wanted)
    (same : ∀ p, wanted p ↔ wanted' p) : Opens schedule chip d frame wanted' := by
  obtain ⟨id, window, served, d', chip', ends, unused, opened, covers⟩ := opens
  refine ⟨id, window, served, d', chip', ends, unused, opened, fun p visible => ?_⟩
  rw [covers p visible, same]

/-- A call has one outcome, and so there is one set of covered pixels. -/
theorem unique (opens : Opens schedule chip d frame wanted)
    (opens' : Opens schedule chip d frame wanted') {p : Point}
    (visible : Layout.screen.contains p = true) : wanted p ↔ wanted' p := by
  obtain ⟨id, window, served, d₁, chip₁, ends, -, opened, covers⟩ := opens
  obtain ⟨id', window', served', d₁', chip₁', ends', -, opened', covers'⟩ := opens'
  obtain ⟨-, answer, left⟩ := ends.unique ends'
  cases answer
  cases left
  obtain rfl := Option.some.inj (opened.symm.trans opened')
  rw [← covers p visible, ← covers' p visible]

end Opens

/-- The new window covers what origin and size give back. -/
theorem opens_rebuilt (idle : Idle chip d) (room : ¬d.desktop.compositor.windows.Full)
    (frame : Rect) (fair : Duo.Fair schedule) :
    Opens schedule chip d frame fun p =>
      (Rect.ofOriginSize frame.left frame.top frame.width frame.height).contains p = true := by
  obtain ⟨served, d', chip', ends, desktop⟩ := openWindow_ends idle frame fair
  obtain ⟨id, window, answer, unused, opened, framed⟩ := Desktop.openWindow_of_room room
    (.ofOriginSize frame.left frame.top frame.width frame.height)
  rw [answer] at ends
  rw [← desktop] at opened
  refine ⟨id, window, served, d', chip', ends, unused, opened, fun p visible => ?_⟩
  rw [framed, Rect.contains_clipTo_iff visible]

/-- Under every fair schedule, a dispatcher with a free slot opens the window that the Main
processor asks for. The window covers the screen pixels of the wanted frame, up to the reach of a
size; in particular, all of a frame of at most 32767 columns and rows. -/
theorem opens_frame (idle : Idle chip d) (room : ¬d.desktop.compositor.windows.Full)
    (frame : Rect) (fair : Duo.Fair schedule) :
    Opens schedule chip d frame (fun p => frame.contains p = true ∧ frame.InReach p) ∧
      (frame.right.toInt - frame.left.toInt ≤ 32767 →
        frame.bottom.toInt - frame.top.toInt ≤ 32767 →
        Opens schedule chip d frame fun p => frame.contains p = true) := by
  have opens := opens_rebuilt idle room frame fair
  refine ⟨opens.congr fun p => Rect.contains_ofOriginSize_iff, fun narrow low => ?_⟩
  apply opens.congr
  intro p
  rw [Rect.contains_ofOriginSize_iff]
  exact ⟨And.left, fun inside => ⟨inside, Rect.inReach_of_contains narrow low inside⟩⟩

/-- A frame that hangs over all edges of the screen. -/
theorem opens_frame_overhanging :
    ∃ chip d, Booted (.initial false) Canvas.blank (.standIns []) chip d ∧
      Opens Duo.inTurn chip d ⟨-100, -32, 32667, 32735⟩ fun p =>
        (⟨-100, -32, 32667, 32735⟩ : Rect).contains p = true := by
  have quiet : Quiet (.initial false) := by
    intro side
    cases side <;> rfl
  obtain ⟨chip, d, booted⟩ := exists_booted quiet Canvas.blank (.standIns [])
  exact ⟨chip, d, booted, (opens_frame booted.idle booted.not_full _ Duo.fair_inTurn).2
    (by decide) (by decide)⟩

/-- A frame from the left end of the range to the middle of the screen is wider than a size can
tell, and its right part gets lost. -/
theorem wide_frame_is_cut :
    ∃ chip d, Booted (.initial false) Canvas.blank (.standIns []) chip d ∧
      ¬Opens Duo.inTurn chip d ⟨-32768, 40, 100, 100⟩ fun p =>
        (⟨-32768, 40, 100, 100⟩ : Rect).contains p = true := by
  have quiet : Quiet (.initial false) := by
    intro side
    cases side <;> rfl
  obtain ⟨chip, d, booted⟩ := exists_booted quiet Canvas.blank (.standIns [])
  refine ⟨chip, d, booted, fun opens => ?_⟩
  have rebuilt := opens_rebuilt booted.idle booted.not_full ⟨-32768, 40, 100, 100⟩ Duo.fair_inTurn
  have visible : Layout.screen.contains ⟨50, 50⟩ = true := by decide
  have arrived := (opens.unique rebuilt visible).mp (by decide)
  revert arrived
  decide

end Dispatcher

end TwinDesk
