/-!
# Whole numbers as text

Split counts, times and settings are texts of digits. When one is read,
digits are taken from the left and the first fault decides: a character
that is no digit of the base, or the digit at which the value leaves the
allowed range. One leading plus sign is allowed, a minus sign is not.

Written numbers are decimal. `padded` puts zeros in front of those that
have to have a certain width.
-/

namespace JobLedger

/-- Why a text is no whole number of the wanted range. -/
inductive NumeralFault
  | empty
  | invalidDigit
  | tooLarge
deriving DecidableEq, Repr

namespace NumeralFault

def message : NumeralFault → String
  | .empty => "cannot parse integer from empty string"
  | .invalidDigit => "invalid digit found in string"
  | .tooLarge => "number too large to fit in target type"

end NumeralFault

namespace Numeral

/-- The value of a digit or letter in the given base. -/
def digit? (base : Nat) (c : Char) : Option Nat :=
  let value :=
    if '0' ≤ c ∧ c ≤ '9' then some (c.toNat - '0'.toNat)
    else if 'a' ≤ c ∧ c ≤ 'z' then some (c.toNat - 'a'.toNat + 10)
    else if 'A' ≤ c ∧ c ≤ 'Z' then some (c.toNat - 'A'.toNat + 10)
    else none
  value.filter (· < base)

/-- Appends digits to the value read so far. -/
def readDigits (base max : Nat) : Nat → List Char → Except NumeralFault Nat
  | value, [] => .ok value
  | value, c :: r =>
      match digit? base c with
      | none => .error .invalidDigit
      | some d =>
          let value := value * base + d
          if max < value then .error .tooLarge else readDigits base max value r

/-- A whole number between zero and `max`. -/
def read (base max : Nat) : List Char → Except NumeralFault Nat
  | [] => .error .empty
  | ['+'] => .error .invalidDigit
  | '+' :: r => readDigits base max 0 r
  | cs => readDigits base max 0 cs

/-- The largest number of 64 bits. -/
def maxWord : Nat := 18446744073709551615

/-- A number of 64 bits. -/
def readWord (cs : List Char) : Except NumeralFault UInt64 :=
  (read 10 maxWord cs).map UInt64.ofNat

/-- The decimal digits of a number, at least `width` of them. -/
def padded (width n : Nat) : String :=
  let digits := Nat.toDigits 10 n
  .ofList (List.replicate (width - digits.length) '0' ++ digits)

example : padded 3 42 = "042" := by decide +kernel
example : padded 3 12345 = "12345" := by decide +kernel
example : read 10 255 ['+', '2', '5', '5'] = .ok 255 := rfl
example : read 10 255 ['2', '5', '6', 'x'] = .error .tooLarge := rfl
example : read 10 255 ['2', 'x', '5', '6'] = .error .invalidDigit := rfl

end Numeral

end JobLedger
