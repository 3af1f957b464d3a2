import JobLedger.Text.Numeral
import JobLedger.Text.Utf8

/-!
# Hexadecimal text

Row files are named by the hexadecimal form of their row key and hold cell
values in the same form. Writing uses two lower-case digits a byte, so the
order of the texts is the order of the bytes.

Reading takes pairs of characters, each as a number of base sixteen below
256. A plus sign is part of that number syntax, so the pair `+5` also
reads as a byte.
-/

namespace JobLedger.Hex

/-- The lower-case digit of a value below sixteen. -/
def digit (n : Nat) : Char :=
  if n < 10 then Char.ofNat ('0'.toNat + n) else Char.ofNat ('a'.toNat + (n - 10))

def encode (bs : Bytes) : List Char :=
  bs.flatMap fun b => [digit (b.toNat / 16), digit (b.toNat % 16)]

/-- The byte that a pair of characters stands for. -/
def byte? (a b : Char) : Option UInt8 :=
  match Numeral.read 16 255 [a, b] with
  | .ok n => some (UInt8.ofNat n)
  | .error _ => none

/-- The bytes of a text of pairs; `none` at an odd length or a pair that is
no number. -/
def decode? : List Char → Option Bytes
  | [] => some []
  | [_] => none
  | a :: b :: r => do
      let x ← byte? a b
      let xs ← decode? r
      return x :: xs

/-- The hexadecimal form as a string. -/
def text (bs : Bytes) : String := .ofList (encode bs)

example : encode [0x00, 0x9f, 0xff] = ['0', '0', '9', 'f', 'f', 'f'] := by decide
example : decode? ['4', 'A'] = some [0x4a] := by decide
example : decode? ['+', '5'] = some [5] := by decide

end JobLedger.Hex
