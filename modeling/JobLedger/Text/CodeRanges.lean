/-!
# Sets of characters

A property of characters is kept as the closed ranges of code points that
have it, in ascending order.
-/

namespace JobLedger

/-- The first and the last code point of each range. -/
abbrev CodeRanges := List (Nat × Nat)

/-- The character lies in one of the ranges. Those behind the first range
that starts after the character are not looked at. -/
def CodeRanges.has : CodeRanges → Char → Bool
  | [], _ => false
  | (first, last) :: r, c =>
      decide (first ≤ c.toNat) && (decide (c.toNat ≤ last) || CodeRanges.has r c)

example : CodeRanges.has [(0x30, 0x39), (0x41, 0x46)] '4' = true := by decide
example : CodeRanges.has [(0x30, 0x39), (0x41, 0x46)] 'F' = true := by decide
example : CodeRanges.has [(0x30, 0x39), (0x41, 0x46)] ':' = false := by decide

end JobLedger
