/-!
# Syllables of Hangul

A syllable is written with a leading letter, a vowel and possibly a trailing
letter, or as one character. The characters for all syllables stand in the
order of their letters, so a syllable is found by counting.
-/

namespace JobLedger.NormalForm.Hangul

/-- The first syllable, without a trailing letter. -/
def firstSyllable : Nat := 0xAC00

def firstLeading : Nat := 0x1100

def firstVowel : Nat := 0x1161

/-- The code point before the first trailing letter, which stands for no
trailing letter. -/
def noTrailing : Nat := 0x11A7

def leadingCount : Nat := 19

def vowelCount : Nat := 21

/-- The number of trailing letters and none. -/
def trailingCount : Nat := 28

/-- The number of a syllable. -/
def index? (c : Char) : Option Nat :=
  if firstSyllable ≤ c.toNat ∧ c.toNat - firstSyllable < leadingCount * vowelCount * trailingCount
  then some (c.toNat - firstSyllable)
  else none

def letters? (c : Char) : Option (List Char) :=
  (index? c).map fun n =>
    let front := [Char.ofNat (firstLeading + n / trailingCount / vowelCount),
      Char.ofNat (firstVowel + n / trailingCount % vowelCount)]
    if n % trailingCount = 0 then front
    else front ++ [Char.ofNat (noTrailing + n % trailingCount)]

/-- The syllable of a leading letter and a vowel. -/
def ofLetters? (a b : Char) : Option Char :=
  if firstLeading ≤ a.toNat ∧ a.toNat - firstLeading < leadingCount ∧
      firstVowel ≤ b.toNat ∧ b.toNat - firstVowel < vowelCount then
    some (Char.ofNat (firstSyllable +
      ((a.toNat - firstLeading) * vowelCount + (b.toNat - firstVowel)) * trailingCount))
  else none

/-- A syllable without a trailing letter and one to go with it. -/
def withTrailing? (a b : Char) : Option Char :=
  (index? a).bind fun n =>
    if n % trailingCount = 0 ∧ noTrailing < b.toNat ∧ b.toNat - noTrailing < trailingCount then
      some (Char.ofNat (a.toNat + (b.toNat - noTrailing)))
    else none

/-- The syllable of two parts that stand side by side. -/
def join? (a b : Char) : Option Char := ofLetters? a b <|> withTrailing? a b

example : letters? '한' = some ['\u1112', '\u1161', '\u11ab'] := by decide
example : join? '\u1112' '\u1161' = some '하' := by decide
example : join? '하' '\u11ab' = some '한' := by decide
example : join? '한' '\u11ab' = none := by decide

end JobLedger.NormalForm.Hangul
