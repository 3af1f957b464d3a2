/-!
# Blank characters

The characters of the Unicode property `White_Space`, and the trimming of
text at both ends. Addresses, table names and stored times are read with
the blanks around them removed.
-/

namespace JobLedger

/-- The code points with the property `White_Space`, as closed ranges. -/
def blankRanges : List (Nat × Nat) :=
  [(0x09, 0x0D), (0x20, 0x20), (0x85, 0x85), (0xA0, 0xA0), (0x1680, 0x1680),
   (0x2000, 0x200A), (0x2028, 0x2029), (0x202F, 0x202F), (0x205F, 0x205F), (0x3000, 0x3000)]

def isBlank (c : Char) : Bool :=
  blankRanges.any fun r => r.1 ≤ c.toNat && c.toNat ≤ r.2

/-- Drops the blanks at both ends. -/
def trimChars (cs : List Char) : List Char :=
  ((cs.dropWhile isBlank).reverse.dropWhile isBlank).reverse

/-- The text without the blanks at its ends. -/
def trim (s : String) : String := .ofList (trimChars s.toList)

example : trimChars [' ', 'a', ' ', 'b', '\t', '\n'] = ['a', ' ', 'b'] := by decide

end JobLedger
