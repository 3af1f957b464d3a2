import JobLedger.Text.Cut

/-!
# Labels written in ASCII

A label of a host name can be written with letters, digits and hyphens only.
`Punycode.decode?` reads it back.

Characters that are ASCII anyway come first. Behind the last hyphen, digits
describe a walk through the text so far: from place to place, and at the end
back to the start and on to the next code point. At each stop the present
code point is inserted. A number on the way is the length of one stretch of
the walk. It has its low digits first, and ends with the digit that is below
its threshold; thresholds follow the length of the last stretch, so that
most numbers are short.
-/

namespace JobLedger.Punycode

/-- The number of digits. -/
def base : Nat := 36

def minThreshold : Nat := 1

def maxThreshold : Nat := 26

/-- The value of a digit. Letters come first. -/
def digit? (c : Char) : Option Nat :=
  if c.isDigit then some (c.toNat - '0'.toNat + 26)
  else if c.isAlpha then some (c.toLower.toNat - 'a'.toNat)
  else none

/-- The threshold of a digit with `count` digits before it. -/
def threshold (bias count : Nat) : Nat :=
  let reach := base * (count + 1)
  if reach ≤ bias then minThreshold else min (reach - bias) maxThreshold

/-- The bias for stretches like one of length `delta`. -/
def scaledBias (bias delta : Nat) : Nat :=
  if 455 < delta then scaledBias (bias + base) (delta / 35)
  else bias + 36 * delta / (delta + 38)
termination_by delta
decreasing_by omega

/-- The bias after a stretch at whose end the text has `size` characters.
A stretch from the very start is much longer than others. -/
def nextBias (delta size : Nat) (fromStart : Bool) : Nat :=
  let delta := if fromStart then delta / 700 else delta / 2
  scaledBias 0 (delta + delta / size)

/-- Numbers have to be below `limit`. -/
def limit : Nat := 4294967296

/-- The walk, and the number that is being read: the place it leads to by
the digits so far, what the next digit is worth, and the count of digits. -/
structure Walk where
  text : List Char
  code : Nat
  place : Nat
  bias : Nat
  target : Nat
  weight : Nat
  count : Nat
deriving DecidableEq, Repr

namespace Walk

/-- The start in front of a text. -/
def start (text : List Char) : Walk := ⟨text, 0x80, 0, 72, 0, 1, 0⟩

/-- Goes to a place and inserts the code point there. Places behind the end
are those of the next rounds. -/
def stop? (w : Walk) (target : Nat) : Option Walk :=
  let size := w.text.length + 1
  let code := w.code + target / size
  let place := target % size
  if code.isValidChar then
    some ⟨w.text.take place ++ Char.ofNat code :: w.text.drop place, code, place + 1,
      nextBias (target - w.place) size (w.place = 0), place + 1, 1, 0⟩
  else none

/-- Reads a digit. -/
def step? (w : Walk) (c : Char) : Option Walk := do
  let d ← digit? c
  let target := w.target + d * w.weight
  let t := threshold w.bias w.count
  if limit ≤ target then none
  else if d < t then w.stop? target
  else if limit ≤ w.weight * (base - t) then none
  else some { w with target := target, weight := w.weight * (base - t), count := w.count + 1 }

/-- The text at the end of the walk, unless that is amidst a number. -/
def text? (w : Walk) : Option (List Char) := if w.count = 0 then some w.text else none

end Walk

/-- The characters that are ASCII anyway, and the digits. -/
def cut (cs : List Char) : List Char × List Char :=
  match cutLast '-' cs with
  | some (c :: text, digits) => (c :: text, digits)
  | _ => ([], cs)

/-- The label that is written in ASCII. -/
def decode? (cs : List Char) : Option (List Char) :=
  let (text, digits) := cut cs
  if text.all (·.toNat < 0x80) then (digits.foldlM Walk.step? (.start text)).bind Walk.text?
  else none

example : decode? "mnchen-3ya".toList = some "münchen".toList := by decide +kernel
example : decode? "ls8h".toList = some ['💩'] := by decide +kernel
example : decode? "ls8".toList = none := by decide +kernel
example : decode? "-".toList = none := by decide +kernel

end JobLedger.Punycode
