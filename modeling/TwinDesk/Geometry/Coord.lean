import TwinDesk.Fault

/-!
# Coordinates

A coordinate is a signed 16-bit number. Arithmetic on coordinates is of two kinds, and every
operation says by its name which one it is: *saturating* operations stop at the ends of the range,
and *exact* operations fault when the result does not fit.

* `toInt_saturate` — a saturated number is the nearest coordinate.
* `exact_eq_ok_iff` — an exact result exists just when the number fits.
-/

namespace TwinDesk

/-- A screen coordinate or distance. -/
abbrev Coord : Type := Int16

namespace Coord

/-! ### Saturating arithmetic -/

/-- The coordinate nearest to `n`. -/
def saturate (n : Int) : Coord :=
  Int16.ofInt (max (-32768) (min 32767 n))

theorem toInt_ofInt {n : Int} (low : -32768 ≤ n) (high : n ≤ 32767) :
    (Int16.ofInt n).toInt = n :=
  Int16.toInt_ofInt_of_le (by simpa using low) (by omega)

theorem toInt_saturate (n : Int) : (saturate n).toInt = max (-32768) (min 32767 n) :=
  toInt_ofInt (by omega) (by omega)

/-- The sum, stopped at the ends of the range. -/
def addSat (a b : Coord) : Coord :=
  saturate (a.toInt + b.toInt)

/-- The difference, stopped at the ends of the range. -/
def subSat (a b : Coord) : Coord :=
  saturate (a.toInt - b.toInt)

/-- The product, stopped at the ends of the range. -/
def mulSat (a b : Coord) : Coord :=
  saturate (a.toInt * b.toInt)

/-- Moves `a` into `low ≤ · ≤ high`; where the bounds cross, `high` wins. -/
def clamp (a low high : Coord) : Coord :=
  min (max a low) high

theorem clamp_le (a low high : Coord) : a.clamp low high ≤ high :=
  Std.min_le_right

theorem le_clamp {a low high : Coord} (h : low ≤ high) : low ≤ a.clamp low high := by
  refine Std.le_min_iff.mpr ⟨?_, h⟩
  change low ≤ if a ≤ low then low else a
  split
  · exact Int16.le_refl low
  · rename_i below
    exact Int16.le_of_lt (Int16.not_le.mp below)

/-! ### Exact arithmetic -/

/-- The coordinate equal to `n`, or a fault when there is none. -/
def exact (n : Int) : Checked Coord :=
  if -32768 ≤ n ∧ n ≤ 32767 then .ok (Int16.ofInt n) else .error .overflow

theorem exact_eq_ok_iff {n : Int} {c : Coord} : exact n = .ok c ↔ c.toInt = n := by
  unfold exact
  split
  case isTrue h =>
    rw [Except.ok.injEq]
    constructor
    · rintro rfl
      exact toInt_ofInt h.1 h.2
    · rintro rfl
      exact Int16.ofInt_toInt c
  case isFalse h =>
    constructor
    · intro h'
      cases h'
    · rintro rfl
      have low := c.le_toInt
      have high := c.toInt_lt
      omega

/-- The sum, which must fit. -/
def add (a b : Coord) : Checked Coord :=
  exact (a.toInt + b.toInt)

/-- The difference, which must fit. -/
def sub (a b : Coord) : Checked Coord :=
  exact (a.toInt - b.toInt)

/-- Half of `a`, rounded toward zero. -/
def half (a : Coord) : Coord :=
  Int16.ofInt (Int.tdiv a.toInt 2)

end Coord

end TwinDesk
