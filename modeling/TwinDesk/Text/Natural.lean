/-!
# Reading natural numbers

A natural number is written in decimal digits of ASCII, with as many leading zeros as one likes and
at most one plus sign in front.
-/

namespace TwinDesk.Text

/-- The value of decimal digits, most significant first; none if there is another character. -/
def digitsValue? (digits : List Char) : Option Nat :=
  digits.foldlM (fun value c => if c.isDigit then some (value * 10 + (c.toNat - 48)) else none) 0

/-- The number below `limit` that the characters write. -/
def natural? (limit : Nat) (chars : List Char) : Option Nat :=
  let digits := match chars with
    | '+' :: rest => rest
    | chars => chars
  if digits.isEmpty then none else (digitsValue? digits).filter (· < limit)

theorem lt_of_natural? {limit n : Nat} {chars : List Char} (h : natural? limit chars = some n) :
    n < limit := by
  unfold natural? at h
  dsimp only at h
  split at h <;> (split at h; · cases h) <;> simpa using (Option.filter_eq_some_iff.mp h).2

end TwinDesk.Text
