import TurtleGraphics.Text.Ranges

/-!
# Blank characters

`isBlank` is the Unicode property White_Space. It holds of 25 characters, more than the blanks of
ASCII, and of none that only looks empty, such as the zero-width space.
-/

namespace TurtleGraphics.Text

def blankRanges : List (Nat × Nat) :=
  [(0x9, 0xD), (0x20, 0x20), (0x85, 0x85), (0xA0, 0xA0), (0x1680, 0x1680), (0x2000, 0x200A),
    (0x2028, 0x2029), (0x202F, 0x202F), (0x205F, 0x205F), (0x3000, 0x3000)]

/-- The Unicode property White_Space. -/
def isBlank (c : Char) : Bool :=
  inRanges blankRanges c

example : (blankRanges.map fun r => r.2 + 1 - r.1).sum = 25 := rfl

example : isBlank ' ' ∧ isBlank '\t' ∧ isBlank '\r' ∧ isBlank '\n' := by decide

example : ¬ isBlank '/' ∧ ¬ isBlank '0' ∧ ¬ isBlank '\u200B' := by decide

/-- What `Char.isWhitespace` counts as whitespace is blank. -/
theorem isBlank_of_isWhitespace {c : Char} (h : c.isWhitespace = true) : isBlank c = true := by
  simp only [Char.isWhitespace, Bool.or_eq_true, decide_eq_true_eq] at h
  rcases h with ((rfl | rfl) | rfl) | rfl <;> decide

end TurtleGraphics.Text
