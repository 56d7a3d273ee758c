import Mathlib.Data.List.Chain
import TwinDesk.Proofs.Display.Pixels
import TwinDesk.Simulation.Script

/-!
# A scripted pointer and its tracker

A script knows the place of its pointer, and the tracker that reads it adds the same motions up by
itself. The script steps by its speed, of which the tracker takes in 255 at most on each axis, so
that the two agree for as long as no leg of the way asks for a longer step.

* `PointerScript.readings` — so many readings of a script by a tracker.
* `PointerScript.read_yields` — one reading: nearer to the waypoint, on a short leg in agreement.
* `PointerScript.reaches` — a short leg takes script and tracker to its end.
* `PointerScript.tracked` — they agree after every reading just when all legs are short, and then
  every waypoint is reached.
-/

namespace TwinDesk

namespace PointerScript

/-- Reads the script once. The tracker takes the sample in, if there is one. -/
def read (script : PointerScript) (tracker : Tracker) : Checked (PointerScript × Tracker) := do
  match ← script.advance with
  | (none, script) => return (script, tracker)
  | (some sample, script) => return (script, (tracker.update sample).2)

/-- Reads the script so many times. -/
def readings : Nat → PointerScript × Tracker → Checked (PointerScript × Tracker)
  | 0, pair => return pair
  | n + 1, (script, tracker) => script.read tracker >>= readings n

/-- A leg on which no step across is longer than a sample can report. Steps up and down never are:
the screen is not that high. -/
def Short (speed : Coord) (here there : Point) : Prop :=
  speed.toInt ≤ 255 ∨ (there.x.toInt - here.x.toInt).natAbs ≤ 255

instance (speed : Coord) (here there : Point) : Decidable (Short speed here there) :=
  inferInstanceAs (Decidable (_ ∨ _))

/-- All legs that are left are short. -/
def AllShort (script : PointerScript) : Prop :=
  (script.position :: script.remaining.map (·.target)).IsChain (Short script.speed)

instance (script : PointerScript) : Decidable script.AllShort :=
  inferInstanceAs (Decidable (List.IsChain _ _))

/-- A script that stays on the screen and moves. -/
structure Sane (script : PointerScript) : Prop where
  position : Layout.screen.contains script.position = true
  targets : ∀ waypoint ∈ script.remaining, Layout.screen.contains waypoint.target = true
  speed : 1 ≤ script.speed.toInt

/-! ## One step -/

/-- How far it is to a place, on both axes together. -/
def distance (here there : Point) : Nat :=
  (there.x.toInt - here.x.toInt).natAbs + (there.y.toInt - here.y.toInt).natAbs

/-- A step on one axis, in integers: as far as the speed allows. -/
structure Toward (speed here there motion next : Int) : Prop where
  motion_eq : motion = min (max (there - here) (-speed)) speed
  next_eq : next = here + motion

namespace Toward

variable {speed here there motion next size : Int} (toward : Toward speed here there motion next)
include toward

theorem inside (moves : 1 ≤ speed) (start : 0 ≤ here ∧ here < size)
    (goal : 0 ≤ there ∧ there < size) : 0 ≤ next ∧ next < size := by
  obtain ⟨rfl, rfl⟩ := toward
  omega

theorem natAbs_motion (moves : 1 ≤ speed) :
    motion.natAbs = min (there - here).natAbs speed.toNat := by
  obtain ⟨rfl, rfl⟩ := toward
  omega

theorem natAbs_left (moves : 1 ≤ speed) :
    (there - next).natAbs = (there - here).natAbs - speed.toNat := by
  obtain ⟨rfl, rfl⟩ := toward
  omega

end Toward

/-- The step on one axis of a screen of the given size. -/
theorem step_yields {speed here there : Coord} (size : Int) (size_le : size ≤ 320)
    (moves : 1 ≤ speed.toInt) (start : 0 ≤ here.toInt ∧ here.toInt < size)
    (goal : 0 ≤ there.toInt ∧ there.toInt < size) :
    Yields (step speed here there) fun motion =>
      Yields (Coord.add here motion) fun next =>
        Toward speed.toInt here.toInt there.toInt motion.toInt next.toInt := by
  have range := speed.toInt_bounds
  have negated : (-speed).toInt = -speed.toInt := by
    rw [Int16.toInt_neg]
    exact Int.bmod_eq_of_le (by omega) (by omega)
  refine (Coord.sub_yields (by omega) (by omega)).bind fun way eq => .pure ?_
  have clamped : (way.clamp (-speed) speed).toInt =
      min (max (there.toInt - here.toInt) (-speed.toInt)) speed.toInt := by
    rw [Coord.toInt_clamp, eq, negated]
  exact (Coord.add_yields (by omega) (by omega)).mono fun next sum => ⟨clamped, sum⟩

/-- A tracker gets to where the script goes just when the motion is not cut off. -/
theorem moved_eq_iff {here next motion : Coord} (bound : Coord) (bound_le : bound.toInt ≤ 319)
    (start : 0 ≤ here.toInt ∧ here.toInt ≤ bound.toInt)
    (goal : 0 ≤ next.toInt ∧ next.toInt ≤ bound.toInt)
    (sum : next.toInt = here.toInt + motion.toInt) :
    (here.addSat (Tracker.limit motion)).clamp 0 bound = next ↔ motion.toInt.natAbs ≤ 255 := by
  have cut : (Tracker.limit motion).toInt = min (max motion.toInt (-255)) 255 :=
    motion.toInt_clamp _ _
  have zero : (0 : Coord).toInt = 0 := rfl
  rw [← Int16.toInt_inj, Coord.toInt_clamp, Coord.toInt_addSat, cut, zero]
  omega

/-- What one reading does on the way to a waypoint: the script is at `next`, the tracker at
`tracked`. -/
structure Approach (speed : Coord) (here there next tracked : Point) : Prop where
  inside : Layout.screen.contains next = true
  nearer : next = there ∨ distance next there < distance here there
  short : Short speed here there → Short speed next there
  agree : tracked = next ↔ Short speed here there

section

variable {speed : Coord} {here there next : Point}
  (leftX : (there.x.toInt - next.x.toInt).natAbs =
    (there.x.toInt - here.x.toInt).natAbs - speed.toInt.toNat)
include leftX

theorem Short.of_left (short : Short speed here there) : Short speed next there := by
  unfold Short at short ⊢
  omega

/-- On a way that gets shorter by the speed on both axes, the pointer comes to the end. -/
theorem nearer_of_left (moves : 1 ≤ speed.toInt)
    (leftY : (there.y.toInt - next.y.toInt).natAbs =
      (there.y.toInt - here.y.toInt).natAbs - speed.toInt.toNat) :
    next = there ∨ distance next there < distance here there := by
  have further : 0 < speed.toInt.toNat := Int.lt_toNat.mpr moves
  unfold distance
  by_cases arrived :
      (there.x.toInt - next.x.toInt).natAbs + (there.y.toInt - next.y.toInt).natAbs = 0
  · exact .inl (Point.ext_toInt (by omega) (by omega))
  · right
    omega

end

theorem approach_of_toward {speed : Coord} {here there next : Point} {dx dy : Coord}
    (moves : 1 ≤ speed.toInt) (start : Layout.screen.contains here = true)
    (goal : Layout.screen.contains there = true)
    (x : Toward speed.toInt here.x.toInt there.x.toInt dx.toInt next.x.toInt)
    (y : Toward speed.toInt here.y.toInt there.y.toInt dy.toInt next.y.toInt) :
    Approach speed here there next
      (Tracker.moved here (Tracker.limit dx) (Tracker.limit dy)) := by
  obtain ⟨left, right, top, bottom⟩ := Rect.contains_screen_iff.mp start
  obtain ⟨left', right', top', bottom'⟩ := Rect.contains_screen_iff.mp goal
  have insideX := x.inside moves ⟨left, right⟩ ⟨left', right'⟩
  have insideY := y.inside moves ⟨top, bottom⟩ ⟨top', bottom'⟩
  have leftX := x.natAbs_left moves
  have leftY := y.natAbs_left moves
  refine ⟨Rect.contains_screen_iff.mpr ⟨insideX.1, insideX.2, insideY⟩,
    nearer_of_left leftX moves leftY, .of_left leftX, ?_⟩
  have width : (Layout.screenWidth - 1).toInt = 319 := by decide
  have height : (Layout.screenHeight - 1).toInt = 223 := by decide
  have trackedX := moved_eq_iff (Layout.screenWidth - 1) (by omega) (by omega) (by omega)
    x.next_eq
  have trackedY := moved_eq_iff (Layout.screenHeight - 1) (by omega) (by omega) (by omega)
    y.next_eq
  have motionX := x.natAbs_motion moves
  have motionY := y.natAbs_motion moves
  unfold Short
  constructor
  · intro same
    have whole := trackedX.mp (congrArg Point.x same)
    omega
  · intro short
    rw [Tracker.moved, trackedX.mpr (by omega), trackedY.mpr (by omega)]

/-! ## Readings -/

variable {speed : Coord} {here : Point} {waypoint : Waypoint} {rest : List Waypoint}
  {script : PointerScript}

/-- The script after a waypoint. -/
theorem Sane.onward (sane : Sane ⟨waypoint :: rest, here, speed⟩) :
    Sane ⟨rest, waypoint.target, speed⟩ :=
  ⟨sane.targets waypoint List.mem_cons_self,
    fun other mem => sane.targets other (List.mem_cons_of_mem _ mem), sane.speed⟩

/-- One step on the way to a waypoint, which gets from `here` to `next`. -/
structure Stride (speed : Coord) (here next : Point) (waypoint : Waypoint)
    (sample : PointerSample) : Prop where
  x : Toward speed.toInt here.x.toInt waypoint.target.x.toInt sample.dx.toInt next.x.toInt
  y : Toward speed.toInt here.y.toInt waypoint.target.y.toInt sample.dy.toInt next.y.toInt
  buttons : sample.buttons = waypoint.buttons

/-- The script steps toward its next waypoint, and drops the waypoint when it gets there. -/
theorem advance_yields (sane : Sane ⟨waypoint :: rest, here, speed⟩) :
    Yields (advance ⟨waypoint :: rest, here, speed⟩) fun result =>
      ∃ sample next, Stride speed here next waypoint sample ∧ result = (some sample,
        ⟨if next = waypoint.target then rest else waypoint :: rest, next, speed⟩) := by
  have moves : 1 ≤ speed.toInt := sane.speed
  obtain ⟨left, right, top, bottom⟩ := Rect.contains_screen_iff.mp sane.position
  obtain ⟨left', right', top', bottom'⟩ :=
    Rect.contains_screen_iff.mp (sane.targets _ List.mem_cons_self)
  obtain ⟨dx, stepX, x, addX, towardX⟩ := step_yields 320 (by decide) moves
    ⟨left, right⟩ ⟨left', right'⟩
  obtain ⟨dy, stepY, y, addY, towardY⟩ := step_yields 224 (by decide) moves
    ⟨top, bottom⟩ ⟨top', bottom'⟩
  refine ⟨_, ?_, ⟨dx, dy, waypoint.buttons⟩, ⟨x, y⟩, ⟨towardX, towardY, rfl⟩, rfl⟩
  simp only [advance, stepX, stepY, addX, addY, bind, Except.bind, pure, Except.pure]

/-- A reading on the way to a waypoint, by a tracker that is where the script is. -/
theorem read_yields (sane : Sane ⟨waypoint :: rest, here, speed⟩) (buttons : Buttons) :
    Yields (read ⟨waypoint :: rest, here, speed⟩ ⟨here, buttons⟩) fun pair =>
      ∃ next tracked, Approach speed here waypoint.target next tracked ∧
        pair = (⟨if next = waypoint.target then rest else waypoint :: rest, next, speed⟩,
          ⟨tracked, waypoint.buttons⟩) := by
  refine (advance_yields sane).bind ?_
  rintro _ ⟨⟨dx, dy, _⟩, next, ⟨x, y, rfl⟩, rfl⟩
  have goal := sane.targets _ List.mem_cons_self
  exact .pure ⟨next, _, approach_of_toward sane.speed sane.position goal x y, rfl⟩

theorem readings_one (script : PointerScript) (tracker : Tracker) :
    readings 1 (script, tracker) = script.read tracker :=
  bind_pure _

theorem readings_add (m n : Nat) (pair : PointerScript × Tracker) :
    readings (m + n) pair = readings m pair >>= readings n := by
  induction m generalizing pair with
  | zero => rw [Nat.zero_add]; rfl
  | succ m ih =>
    rw [Nat.succ_add]
    simp only [readings, bind_assoc]
    exact congrArg _ (funext ih)

/-- Readings one after the other. -/
theorem readings_trans {m n : Nat} {pair pair' pair'' : PointerScript × Tracker}
    (first : readings m pair = .ok pair') (second : readings n pair' = .ok pair'') :
    readings (m + n) pair = .ok pair'' := by
  rw [readings_add, first]
  exact second

/-- A short leg takes the script and the tracker to its end, with its buttons held. The pointer
gets nearer with every reading. -/
theorem reaches (sane : Sane ⟨waypoint :: rest, here, speed⟩)
    (short : Short speed here waypoint.target) (buttons : Buttons) :
    ∃ n, readings n (⟨waypoint :: rest, here, speed⟩, ⟨here, buttons⟩) =
      .ok (⟨rest, waypoint.target, speed⟩, ⟨waypoint.target, waypoint.buttons⟩) := by
  induction far : distance here waypoint.target using Nat.strong_induction_on
    generalizing here buttons with
  | _ far ih =>
  subst far
  obtain ⟨_, reads, next, tracked, approach, rfl⟩ := read_yields sane buttons
  obtain rfl : tracked = next := approach.agree.mpr short
  have once := (readings_one _ _).trans reads
  by_cases arrived : tracked = waypoint.target
  · subst arrived
    rw [if_pos rfl] at once
    exact ⟨1, once⟩
  · rw [if_neg arrived] at once
    have nearer := approach.nearer.resolve_left arrived
    obtain ⟨n, later⟩ := ih _ nearer ⟨approach.inside, sane.targets, sane.speed⟩
      (approach.short short) waypoint.buttons rfl
    exact ⟨1 + n, readings_trans once later⟩

/-! ## Whole scripts -/

/-- The tracker is where the script is, and will be. -/
structure InStep (pair : PointerScript × Tracker) : Prop where
  sane : pair.1.Sane
  short : pair.1.AllShort
  agree : pair.2.pos = pair.1.position

theorem inStep_read {tracker : Tracker} (inStep : InStep (script, tracker)) :
    Yields (script.read tracker) InStep := by
  obtain ⟨sane, short, agree⟩ := inStep
  obtain ⟨remaining, here, speed⟩ := script
  obtain ⟨pos, buttons⟩ := tracker
  change pos = here at agree
  subst agree
  cases remaining with
  | nil => exact .pure ⟨sane, short, rfl⟩
  | cons waypoint rest =>
    obtain ⟨first, later⟩ := List.isChain_cons_cons.mp short
    refine (read_yields sane buttons).mono ?_
    rintro _ ⟨next, tracked, approach, rfl⟩
    refine ⟨⟨approach.inside, ?_, sane.speed⟩, ?_, approach.agree.mpr first⟩
    · intro other mem
      refine sane.targets other ?_
      dsimp only at mem
      split at mem
      · exact List.mem_cons_of_mem _ mem
      · exact mem
    · unfold AllShort
      split
      case isTrue arrived =>
        subst arrived
        exact later
      case isFalse away => exact List.isChain_cons_cons.mpr ⟨approach.short first, later⟩

theorem inStep_readings {pair : PointerScript × Tracker} (inStep : InStep pair) (n : Nat) :
    Yields (readings n pair) InStep := by
  induction n generalizing pair with
  | zero => exact .pure inStep
  | succ n ih => exact (inStep_read inStep).bind fun _ next => ih next

/-- A tracker follows a script with short legs to every waypoint, one after the other. -/
theorem reaches_each {remaining : List Waypoint} {k : Nat}
    (sane : Sane ⟨remaining, here, speed⟩) (short : AllShort ⟨remaining, here, speed⟩)
    (nth : remaining[k]? = some waypoint) (buttons : Buttons) :
    ∃ n, readings n (⟨remaining, here, speed⟩, ⟨here, buttons⟩) =
      .ok (⟨remaining.drop (k + 1), waypoint.target, speed⟩,
        ⟨waypoint.target, waypoint.buttons⟩) := by
  induction remaining generalizing here buttons k with
  | nil => simp at nth
  | cons head rest ih =>
    obtain ⟨first, later⟩ := List.isChain_cons_cons.mp short
    obtain ⟨m, arrives⟩ := reaches sane first buttons
    cases k with
    | zero =>
      cases nth
      exact ⟨m, arrives⟩
    | succ k =>
      obtain ⟨n, onward⟩ := ih sane.onward later nth head.buttons
      exact ⟨m + n, readings_trans arrives onward⟩

/-- The first long leg parts the tracker from the script. -/
theorem parts_on_long_leg {remaining : List Waypoint}
    (sane : Sane ⟨remaining, here, speed⟩) (long : ¬ AllShort ⟨remaining, here, speed⟩)
    (buttons : Buttons) :
    ∃ n, Yields (readings n (⟨remaining, here, speed⟩, ⟨here, buttons⟩)) fun pair =>
      pair.2.pos ≠ pair.1.position := by
  induction remaining generalizing here buttons with
  | nil => exact absurd (List.isChain_singleton _) long
  | cons head rest ih =>
    by_cases first : Short speed here head.target
    case neg =>
      obtain ⟨pair, reads, next, tracked, approach, rfl⟩ :=
        read_yields sane buttons
      exact ⟨1, _, (readings_one _ _).trans reads, approach.agree.not.mpr first⟩
    case pos =>
      obtain ⟨m, arrives⟩ := reaches sane first buttons
      have long' : ¬ AllShort ⟨rest, head.target, speed⟩ :=
        fun later => long (List.isChain_cons_cons.mpr ⟨first, later⟩)
      obtain ⟨n, pair, reads, apart⟩ := ih sane.onward long' head.buttons
      exact ⟨m + n, pair, readings_trans arrives reads, apart⟩

/-- A script through places on the screen and a tracker, both from the middle of the screen. The
legs are short at speeds up to 255. If they are, the two agree after every reading, and get to each
waypoint with its buttons held. If not, some reading parts them. -/
theorem tracked {waypoints : List Waypoint} (speed : Coord)
    (inside : ∀ waypoint ∈ waypoints, Layout.screen.contains waypoint.target = true) :
    let script := (ofWaypoints waypoints).withSpeed speed
    (speed.toInt ≤ 255 → script.AllShort) ∧
    (script.AllShort →
      (∀ n, Yields (readings n (script, .initial)) fun pair => pair.2.pos = pair.1.position) ∧
      ∀ k waypoint, waypoints[k]? = some waypoint →
        ∃ n, readings n (script, .initial) =
          .ok (⟨waypoints.drop (k + 1), waypoint.target, script.speed⟩,
            ⟨waypoint.target, waypoint.buttons⟩)) ∧
    (¬ script.AllShort →
      ∃ n, Yields (readings n (script, .initial)) fun pair => pair.2.pos ≠ pair.1.position) := by
  intro script
  have fast : script.speed.toInt = max speed.toInt 1 := Coord.toInt_max speed 1
  have center : Layout.screen.contains Layout.center = true := by decide
  have sane : script.Sane := ⟨center, inside, by omega⟩
  refine ⟨fun slow => ?_, fun short => ⟨fun n => ?_, fun k waypoint nth => ?_⟩, fun long => ?_⟩
  · exact (List.pairwise_of_forall fun _ _ => .inl (by omega)).isChain
  · have start : InStep (script, .initial) := ⟨sane, short, rfl⟩
    exact (inStep_readings start n).mono fun _ inStep => inStep.agree
  · exact reaches_each sane short nth .none
  · exact parts_on_long_leg sane long .none

/-- A script may be faster than a sample can report, as long as its legs are 255 columns wide at
most. -/
theorem tracked_corners :
    let waypoints := [Waypoint.hover 319 0, .drag 64 223]
    let script := (ofWaypoints waypoints).withSpeed 1000
    (∀ n, Yields (readings n (script, .initial)) fun pair => pair.2.pos = pair.1.position) ∧
    ∃ n, readings n (script, .initial) = .ok (⟨[], ⟨64, 223⟩, 1000⟩, ⟨⟨64, 223⟩, .left⟩) := by
  intro waypoints script
  have inside : ∀ waypoint ∈ waypoints, Layout.screen.contains waypoint.target = true := by decide
  have short : script.AllShort := by decide
  obtain ⟨agree, reaches⟩ := (tracked 1000 inside).2.1 short
  exact ⟨agree, reaches 1 _ rfl⟩

/-- Faster than a sample can report: from the left edge of the screen to the right one, the tracker
is 45 columns behind after the first step of 300, and never makes them up. -/
theorem fast_script_leaves_tracker :
    let script := (ofWaypoints [.hover 0 112, .hover 319 112]).withSpeed 300
    readings 2 (script, .initial) =
      .ok (⟨[.hover 319 112], ⟨300, 112⟩, 300⟩, ⟨⟨255, 112⟩, .none⟩) ∧
    ∀ n, readings (n + 3) (script, .initial) =
      .ok (⟨[], ⟨319, 112⟩, 300⟩, ⟨⟨274, 112⟩, .none⟩) := by
  have stays : readings 1 (⟨[], ⟨319, 112⟩, 300⟩, ⟨⟨274, 112⟩, .none⟩) =
      .ok (⟨[], ⟨319, 112⟩, 300⟩, ⟨⟨274, 112⟩, .none⟩) := by
    decide
  refine ⟨by decide, fun n => ?_⟩
  induction n with
  | zero => decide
  | succ n ih =>
    rw [Nat.add_right_comm]
    exact readings_trans ih stays

end PointerScript

end TwinDesk
