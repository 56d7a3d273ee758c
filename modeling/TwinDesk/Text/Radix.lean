/-!
# Numbers in a given radix

Registers, opcodes and flag masks are shown in hexadecimal or binary, with a mark in front and a
fixed least number of digits.

* `length_padded` — a padded number never has fewer digits than asked for.
-/

namespace TwinDesk.Text

/-- The digits of `n`, with zeros in front up to `width` of them. -/
def padded (radix width n : Nat) : List Char :=
  let digits := Nat.toDigits radix n
  List.replicate (width - digits.length) '0' ++ digits

theorem length_padded (radix width n : Nat) : width ≤ (padded radix width n).length := by
  simp only [padded, List.length_append, List.length_replicate]
  omega

/-- Hexadecimal, lower case, marked with `0x`. -/
def hex (width n : Nat) : String :=
  "0x" ++ String.ofList (padded 16 width n)

/-- Binary, marked with `0b`. -/
def binary (width n : Nat) : String :=
  "0b" ++ String.ofList (padded 2 width n)

/-- Decimal with at least `width` digits. -/
def decimal (width n : Nat) : String :=
  String.ofList (padded 10 width n)

end TwinDesk.Text
