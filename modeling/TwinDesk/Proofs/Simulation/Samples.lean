import Mathlib.Algebra.Order.Floor.Div
import TwinDesk.Proofs.Simulation.Waypoints

/-!
# The samples of a script

To a waypoint a script takes as many samples as the longer axis of the way asks for at its speed,
and a single one where there is no way to go. Behind the last waypoint there are none.

* `PointerScript.polls` — so many polls of a script.
* `PointerScript.legCount`, `PointerScript.sampleCount` — how many samples one way takes, and a
  whole script.
* `PointerScript.Leg`, `PointerScript.Legs` — what the samples tell, waypoint by waypoint.
* `PointerScript.sampled` — a script through places on the screen, poll by poll.
-/

namespace TwinDesk

namespace PointerScript

/-- Polls the script so many times. -/
def polls : Nat → PointerScript → Checked (List (Option PointerSample) × PointerScript)
  | 0, script => return ([], script)
  | n + 1, script => do
    let (sample, script) ← script.advance
    let (samples, script) ← polls n script
    return (sample :: samples, script)

/-- How far it is to a place, on the axis on which it is farther. -/
def reach (here there : Point) : Nat :=
  max (there.x.toInt - here.x.toInt).natAbs (there.y.toInt - here.y.toInt).natAbs

/-- How many samples it takes to get to a place. -/
def legCount (speed : Coord) (here there : Point) : Nat :=
  max 1 (reach here there ⌈/⌉ speed.toInt.toNat)

/-- How many samples it takes to get to all waypoints, one after the other. -/
def sampleCount (speed : Coord) (here : Point) (waypoints : List Waypoint) : Nat :=
  let targets := waypoints.map (·.target)
  (List.zipWith (legCount speed) (here :: targets) targets).sum

/-- The samples on the way to a waypoint. -/
structure Leg (speed : Coord) (here : Point) (waypoint : Waypoint) (samples : List PointerSample) :
    Prop where
  length : samples.length = legCount speed here waypoint.target
  slow : ∀ sample ∈ samples,
    sample.dx.toInt.natAbs ≤ speed.toInt ∧ sample.dy.toInt.natAbs ≤ speed.toInt
  buttons : ∀ sample ∈ samples, sample.buttons = waypoint.buttons
  /-- All motions together are the way. -/
  across : (samples.map (·.dx.toInt)).sum = waypoint.target.x.toInt - here.x.toInt
  down : (samples.map (·.dy.toInt)).sum = waypoint.target.y.toInt - here.y.toInt

/-- The samples on the ways from waypoint to waypoint. -/
inductive Legs (speed : Coord) : Point → List Waypoint → List (List PointerSample) → Prop
  | nil {here : Point} : Legs speed here [] []
  | cons {here : Point} {waypoint : Waypoint} {rest : List Waypoint} {leg : List PointerSample}
      {legs : List (List PointerSample)} (first : Leg speed here waypoint leg)
      (later : Legs speed waypoint.target rest legs) :
      Legs speed here (waypoint :: rest) (leg :: legs)

variable {speed : Coord} {here next there : Point} {waypoint : Waypoint} {rest : List Waypoint}
  {script script' script'' : PointerScript}

/-! ## Sequences of polls -/

theorem polls_add (m n : Nat) (script : PointerScript) : polls (m + n) script = (do
    let (samples, script) ← polls m script
    let (samples', script) ← polls n script
    return (samples ++ samples', script)) := by
  induction m generalizing script with
  | zero => simp [polls]
  | succ m ih =>
    rw [Nat.succ_add]
    simp only [polls, ih, bind_assoc, pure_bind, List.cons_append]

/-- Polls one after the other. -/
theorem polls_trans {m n : Nat} {samples samples' : List (Option PointerSample)}
    (first : polls m script = .ok (samples, script'))
    (second : polls n script' = .ok (samples', script'')) :
    polls (m + n) script = .ok (samples ++ samples', script'') := by
  rw [polls_add, first]
  simp only [bind, Except.bind, second]
  rfl

theorem polls_succ {n : Nat} {sample : Option PointerSample}
    {samples : List (Option PointerSample)} (first : script.advance = .ok (sample, script'))
    (later : polls n script' = .ok (samples, script'')) :
    polls (n + 1) script = .ok (sample :: samples, script'') := by
  simp only [polls, first, bind, Except.bind, later]
  rfl

theorem length_of_polls {n : Nat} {samples : List (Option PointerSample)}
    (polled : polls n script = .ok (samples, script')) : samples.length = n := by
  induction n generalizing script samples with
  | zero =>
    cases polled
    rfl
  | succ n ih =>
    obtain ⟨⟨sample, script⟩, -, polled⟩ := Checked.bind_eq_ok_iff.mp polled
    obtain ⟨⟨samples, script⟩, later, eq⟩ := Checked.bind_eq_ok_iff.mp polled
    cases eq
    exact congrArg (· + 1) (ih later)

/-- Fewer polls give the first of the samples. -/
theorem polls_take {m n : Nat} {samples : List (Option PointerSample)}
    (polled : polls (m + n) script = .ok (samples, script')) :
    Yields (polls m script) fun result => result.1 = samples.take m := by
  rw [polls_add] at polled
  obtain ⟨⟨first, middle⟩, polled', polled⟩ := Checked.bind_eq_ok_iff.mp polled
  obtain ⟨⟨later, script⟩, -, eq⟩ := Checked.bind_eq_ok_iff.mp polled
  cases eq
  refine ⟨_, polled', ?_⟩
  simp [length_of_polls polled']

/-- Behind the last waypoint there are no more samples. -/
theorem polls_nil (n : Nat) :
    polls n ⟨[], here, speed⟩ = .ok (List.replicate n none, ⟨[], here, speed⟩) := by
  induction n with
  | zero => rfl
  | succ n ih => exact polls_succ rfl ih

/-! ## The length of a way -/

theorem reach_eq_zero_iff : reach here there = 0 ↔ here = there := by
  unfold reach
  constructor
  · intro zero
    exact Point.ext_toInt (by omega) (by omega)
  · rintro rfl
    omega

theorem legCount_of_le (moves : 1 ≤ speed.toInt) (near : reach here there ≤ speed.toInt.toNat) :
    legCount speed here there = 1 := by
  have one : reach here there ⌈/⌉ speed.toInt.toNat ≤ 1 := by
    rw [ceilDiv_le_iff_le_mul (by omega)]
    omega
  exact Nat.max_eq_left one

/-- A way that is longer than a step takes one sample more than what is left of it. -/
theorem legCount_of_lt (moves : 1 ≤ speed.toInt) (far : speed.toInt.toNat < reach here there)
    (left : reach next there = reach here there - speed.toInt.toNat) :
    legCount speed here there = legCount speed next there + 1 := by
  have step : reach here there + speed.toInt.toNat - 1 =
      reach next there + speed.toInt.toNat - 1 + speed.toInt.toNat := by omega
  have some_left : 1 ≤ (reach next there + speed.toInt.toNat - 1) / speed.toInt.toNat :=
    (Nat.le_div_iff_mul_le (by omega)).mpr (by omega)
  simp only [legCount, Nat.ceilDiv_eq_add_pred_div]
  rw [step, Nat.add_div_right _ (by omega)]
  omega

@[simp] theorem sampleCount_nil : sampleCount speed here [] = 0 := rfl

@[simp] theorem sampleCount_cons : sampleCount speed here (waypoint :: rest) =
    legCount speed here waypoint.target + sampleCount speed waypoint.target rest := by
  simp [sampleCount]

namespace Stride

variable {sample : PointerSample} (stride : Stride speed here next waypoint sample)
include stride

theorem inside (moves : 1 ≤ speed.toInt) (start : Layout.screen.contains here = true)
    (goal : Layout.screen.contains waypoint.target = true) :
    Layout.screen.contains next = true := by
  rw [Rect.contains_screen_iff] at start goal ⊢
  have x : 0 ≤ next.x.toInt ∧ next.x.toInt < 320 :=
    stride.x.inside moves (by omega) (by omega)
  have y : 0 ≤ next.y.toInt ∧ next.y.toInt < 224 :=
    stride.y.inside moves (by omega) (by omega)
  exact ⟨x.1, x.2, y⟩

theorem slow (moves : 1 ≤ speed.toInt) :
    sample.dx.toInt.natAbs ≤ speed.toInt ∧ sample.dy.toInt.natAbs ≤ speed.toInt := by
  have x := stride.x.natAbs_motion moves
  have y := stride.y.natAbs_motion moves
  omega

theorem reach_next (moves : 1 ≤ speed.toInt) :
    reach next waypoint.target = reach here waypoint.target - speed.toInt.toNat := by
  have x := stride.x.natAbs_left moves
  have y := stride.y.natAbs_left moves
  unfold reach
  omega

/-- The step that reaches the waypoint is all of the leg. -/
theorem last (moves : 1 ≤ speed.toInt) (arrived : next = waypoint.target) :
    Leg speed here waypoint [sample] := by
  have left := stride.reach_next moves
  rw [reach_eq_zero_iff.mpr arrived] at left
  subst arrived
  refine ⟨(legCount_of_le moves (by omega)).symm, ?_, ?_, ?_, ?_⟩
  · simpa using stride.slow moves
  · simpa using stride.buttons
  · have := stride.x.next_eq
    simp
    omega
  · have := stride.y.next_eq
    simp
    omega

/-- Any other step comes before those from the place that it reaches. -/
theorem before (moves : 1 ≤ speed.toInt) (away : next ≠ waypoint.target)
    {samples : List PointerSample} (later : Leg speed next waypoint samples) :
    Leg speed here waypoint (sample :: samples) := by
  have left := stride.reach_next moves
  have further := reach_eq_zero_iff.not.mpr away
  refine ⟨?_, ?_, ?_, ?_, ?_⟩
  · rw [List.length_cons, later.length, legCount_of_lt moves (by omega) left]
  · exact List.forall_mem_cons.mpr ⟨stride.slow moves, later.slow⟩
  · exact List.forall_mem_cons.mpr ⟨stride.buttons, later.buttons⟩
  · have := stride.x.next_eq
    rw [List.map_cons, List.sum_cons, later.across]
    omega
  · have := stride.y.next_eq
    rw [List.map_cons, List.sum_cons, later.down]
    omega

end Stride

/-! ## Whole scripts -/

/-- The samples to the next waypoint take the script there. -/
theorem exists_leg (sane : Sane ⟨waypoint :: rest, here, speed⟩) :
    ∃ leg, Leg speed here waypoint leg ∧ polls leg.length ⟨waypoint :: rest, here, speed⟩ =
      .ok (leg.map some, ⟨rest, waypoint.target, speed⟩) := by
  have moves : 1 ≤ speed.toInt := sane.speed
  have goal := sane.targets _ List.mem_cons_self
  induction far : reach here waypoint.target using Nat.strong_induction_on generalizing here with
  | _ far ih =>
  subst far
  obtain ⟨_, advanced, sample, next, stride, rfl⟩ := advance_yields sane
  by_cases arrived : next = waypoint.target
  · rw [if_pos arrived, arrived] at advanced
    exact ⟨[sample], stride.last moves arrived, polls_succ advanced rfl⟩
  · rw [if_neg arrived] at advanced
    have left := stride.reach_next moves
    have further := reach_eq_zero_iff.not.mpr arrived
    have inside := stride.inside moves sane.position goal
    obtain ⟨leg, later, polled⟩ := ih (reach next waypoint.target) (by omega)
      ⟨inside, sane.targets, moves⟩ rfl
    exact ⟨sample :: leg, stride.before moves arrived later, polls_succ advanced polled⟩

/-- The samples to the first waypoints take the script to the last of these. -/
theorem exists_legs {waypoints : List Waypoint} (sane : Sane ⟨waypoints, here, speed⟩) :
    ∃ legs, Legs speed here waypoints legs ∧ ∀ k,
      polls (sampleCount speed here (waypoints.take k)) ⟨waypoints, here, speed⟩ =
        .ok ((legs.take k).flatten.map some,
          ⟨waypoints.drop k, ((waypoints.take k).map (·.target)).getLastD here, speed⟩) := by
  induction waypoints generalizing here with
  | nil => exact ⟨[], .nil, fun k => by simp [polls]; rfl⟩
  | cons waypoint rest ih =>
    obtain ⟨leg, first, polled⟩ := exists_leg sane
    obtain ⟨legs, later, polled'⟩ := ih sane.onward
    refine ⟨leg :: legs, .cons first later, fun k => ?_⟩
    cases k with
    | zero => rfl
    | succ k =>
      rw [first.length] at polled
      have joined := polls_trans polled (polled' k)
      rw [← List.map_append] at joined
      simpa only [List.take_succ_cons, List.drop_succ_cons, sampleCount_cons, List.flatten_cons,
        List.map_cons, List.getLastD_cons] using joined

theorem Legs.length_flatten {waypoints : List Waypoint} {legs : List (List PointerSample)}
    (follows : Legs speed here waypoints legs) :
    legs.flatten.length = sampleCount speed here waypoints := by
  induction follows with
  | nil => rfl
  | cons first later ih => rw [List.flatten_cons, List.length_append, first.length, ih,
      sampleCount_cons]

theorem Legs.length_eq {waypoints : List Waypoint} {legs : List (List PointerSample)}
    (follows : Legs speed here waypoints legs) : legs.length = waypoints.length := by
  induction follows with
  | nil => rfl
  | cons first later ih => exact congrArg (· + 1) ih

/-- A script that some samples take behind its last waypoint gives just these, one by one, and then
no more. -/
theorem polls_yields {stream : List PointerSample}
    (whole : polls stream.length script = .ok (stream.map some, ⟨[], here, speed⟩)) (n : Nat) :
    Yields (polls n script) fun result => result.1 = (List.range n).map (stream[·]?) := by
  have beyond := polls_trans whole (polls_nil n)
  rw [Nat.add_comm] at beyond
  refine (polls_take beyond).mono fun result first => first.trans ?_
  apply List.ext_getElem?
  intro i
  simp only [List.getElem?_take, List.getElem?_append, List.length_map, List.getElem?_map,
    List.getElem?_replicate]
  grind

/-- A script through places on the screen, from the middle of the screen. Poll after poll it gives
the samples of one leg after the other, and behind them no more. The samples up to a waypoint take
the script to just that place. -/
theorem sampled {waypoints : List Waypoint} (speed : Coord)
    (inside : ∀ waypoint ∈ waypoints, Layout.screen.contains waypoint.target = true) :
    let script := (ofWaypoints waypoints).withSpeed speed
    (1 ≤ speed.toInt → script.speed = speed) ∧
    ∃ legs, Legs script.speed Layout.center waypoints legs ∧
      legs.flatten.length = sampleCount script.speed Layout.center waypoints ∧
      (∀ n, Yields (polls n script) fun result =>
        result.1 = (List.range n).map (legs.flatten[·]?)) ∧
      ∀ k waypoint, waypoints[k]? = some waypoint →
        polls (sampleCount script.speed Layout.center (waypoints.take (k + 1))) script =
          .ok ((legs.take (k + 1)).flatten.map some,
            ⟨waypoints.drop (k + 1), waypoint.target, script.speed⟩) := by
  intro script
  have fast : script.speed.toInt = max speed.toInt 1 := Coord.toInt_max speed 1
  have center : Layout.screen.contains Layout.center = true := by decide
  have moves : 1 ≤ script.speed.toInt := by omega
  have sane : Sane ⟨waypoints, Layout.center, script.speed⟩ := ⟨center, inside, moves⟩
  obtain ⟨legs, follows, polled⟩ := exists_legs sane
  refine ⟨fun moves => Int16.toInt_inj.mp (by omega), legs, follows, follows.length_flatten,
    fun n => ?_, fun k waypoint nth => ?_⟩
  · have whole := polled waypoints.length
    rw [List.take_length, List.drop_length, ← follows.length_flatten] at whole
    rw [List.take_of_length_le (Nat.le_of_eq follows.length_eq)] at whole
    exact polls_yields whole n
  · have there : ((waypoints.take (k + 1)).map (·.target)).getLastD Layout.center =
        waypoint.target := by
      rw [List.take_add_one, nth]
      simp
    rw [← there]
    exact polled (k + 1)

/-- Two samples go to the corner, one presses the button there, and three drag to the other side of
the screen. -/
theorem sampled_across_screen :
    let waypoints := [Waypoint.hover 319 0, .drag 319 0, .drag 64 223]
    let script := (ofWaypoints waypoints).withSpeed 100
    ∃ legs, Legs 100 Layout.center waypoints legs ∧ legs.flatten.length = 6 ∧
      (∀ n, Yields (polls n script) fun result =>
        result.1 = (List.range n).map (legs.flatten[·]?)) ∧
      polls 3 script =
        .ok ([some ⟨100, -100, .none⟩, some ⟨59, -12, .none⟩, some ⟨0, 0, .left⟩],
          ⟨[.drag 64 223], ⟨319, 0⟩, 100⟩) := by
  intro waypoints script
  have inside : ∀ waypoint ∈ waypoints, Layout.screen.contains waypoint.target = true := by decide
  obtain ⟨-, legs, follows, count, polled, -⟩ := sampled 100 inside
  exact ⟨legs, follows, count.trans (by decide), polled, by decide⟩

end PointerScript

end TwinDesk
