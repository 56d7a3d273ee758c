/-!
# Blank characters

White space in the sense of Unicode: a fixed set of 25 characters. They leave no ink on the screen,
and they are trimmed from both ends of a setting.

* `isBlank_of_isWhitespace` — space, tab, line feed and carriage return are blank.
* `trim_eq_nil_iff` — trimming leaves nothing just when every character is blank.
-/

namespace TwinDesk.Text

/-- Whether a character is white space. -/
def isBlank (c : Char) : Bool :=
  let n := c.toNat
  (0x09 ≤ n && n ≤ 0x0D) || n == 0x20 || n == 0x85 || n == 0xA0 || n == 0x1680 ||
    (0x2000 ≤ n && n ≤ 0x200A) || n == 0x2028 || n == 0x2029 || n == 0x202F || n == 0x205F ||
    n == 0x3000

theorem isBlank_of_isWhitespace {c : Char} (h : c.isWhitespace = true) : isBlank c = true := by
  simp only [Char.isWhitespace, Bool.or_eq_true, decide_eq_true_eq] at h
  rcases h with ((rfl | rfl) | rfl) | rfl <;> decide

/-- The characters without the blanks at both ends. -/
def trim (chars : List Char) : List Char :=
  ((chars.dropWhile isBlank).reverse.dropWhile isBlank).reverse

theorem dropWhile_eq_nil_iff {p : Char → Bool} {chars : List Char} :
    chars.dropWhile p = [] ↔ ∀ c ∈ chars, p c = true := by
  induction chars with
  | nil => simp
  | cons c rest ih =>
    by_cases h : p c
    · simp [List.dropWhile_cons_of_pos h, ih, h]
    · simp [List.dropWhile_cons_of_neg h, h]

theorem trim_eq_nil_iff {chars : List Char} : trim chars = [] ↔ ∀ c ∈ chars, isBlank c = true := by
  rw [trim, List.reverse_eq_nil_iff, dropWhile_eq_nil_iff]
  constructor
  · intro h
    by_cases nonblank : ∃ c ∈ chars, isBlank c = false
    · have ne : chars.dropWhile isBlank ≠ [] := by
        intro e
        obtain ⟨c, mem, hc⟩ := nonblank
        simp [dropWhile_eq_nil_iff.mp e c mem] at hc
      have first := List.head_dropWhile_not isBlank ne
      have mem := h _ (List.mem_reverse.mpr (List.head_mem ne))
      simp [mem] at first
    · intro c mem
      cases hc : isBlank c
      · exact absurd ⟨c, mem, hc⟩ nonblank
      · rfl
  · intro h c mem
    have mem := List.mem_reverse.mp mem
    exact h c ((List.dropWhile_suffix isBlank).subset mem)

end TwinDesk.Text
