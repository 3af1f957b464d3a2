import JobLedger.Text.Cut
import JobLedger.Text.Numeral

/-!
# Tables from characters to texts

A table says what some characters stand for. Neighbours often stand for
neighbours - capitals for small letters, say - so it is kept as runs: in a
run the first code point of the image goes up together with the character.

A long table is written as lines of entries, in hexadecimal digits. In
`a-b=x+y` the run goes from `a` to `b`, in `a~b=x+y` it leaves out every
second character, and `a=x+y` is a run of one.
-/

namespace JobLedger

/-- Characters from `first` to `last` in equal steps. The first one stands
for `image`. -/
structure CodeRun where
  first : Nat
  last : Nat
  step : Nat
  image : List Nat
deriving DecidableEq, Repr

namespace CodeRun

/-- What a code point stands for, if it lies in the run. -/
def image? (r : CodeRun) (n : Nat) : Option (List Nat) :=
  if r.first ≤ n ∧ n ≤ r.last ∧ (n - r.first) % r.step = 0 then
    match r.image with
    | [] => some []
    | x :: xs => some ((x + (n - r.first)) :: xs)
  else none

/-- The code point of the run that stands for a text. -/
def source? (r : CodeRun) (image : List Nat) : Option Nat :=
  match r.image, image with
  | x :: xs, y :: ys =>
      if xs = ys ∧ x ≤ y ∧ y - x ≤ r.last - r.first ∧ (y - x) % r.step = 0 then
        some (r.first + (y - x))
      else none
  | _, _ => none

/-- The value of hexadecimal digits. -/
def hexValue (cs : List Char) : Nat :=
  cs.foldl (fun n c => 16 * n + (Numeral.digit? 16 c).getD 0) 0

/-- A run whose ends are written with `sep` between them. -/
def ofEnds? (sep : Char) (step : Nat) (ends : List Char) (image : List Nat) : Option CodeRun :=
  (cutFirst sep ends).map fun (a, b) => ⟨hexValue a, hexValue b, step, image⟩

/-- Reads an entry. -/
def ofText? (entry : List Char) : Option CodeRun := do
  let (ends, image) ← cutFirst '=' entry
  let image := (pieces '+' image).map hexValue
  return ((ofEnds? '-' 1 ends image) <|> (ofEnds? '~' 2 ends image)).getD
    ⟨hexValue ends, hexValue ends, 1, image⟩

end CodeRun

abbrev CodeTable := List CodeRun

namespace CodeTable

/-- Reads lines of entries. -/
def ofLines (ls : List String) : CodeTable :=
  ls.flatMap fun l => (pieces ' ' l.toList).filterMap CodeRun.ofText?

/-- What a character stands for, if the table has it. -/
def image? (t : CodeTable) (c : Char) : Option (List Char) :=
  (t.findSome? (·.image? c.toNat)).map (·.map Char.ofNat)

/-- The first character of the table that stands for a text. -/
def source? (t : CodeTable) (cs : List Char) : Option Char :=
  (t.findSome? (·.source? (cs.map Char.toNat))).map Char.ofNat

end CodeTable

example : CodeTable.ofLines ["C0=41+300 61~65=41", "41-5A=61"] =
    [⟨0xC0, 0xC0, 1, [0x41, 0x300]⟩, ⟨0x61, 0x65, 2, [0x41]⟩, ⟨0x41, 0x5A, 1, [0x61]⟩] := by
  decide +kernel
example : CodeTable.image? [⟨0x41, 0x5A, 1, [0x61]⟩] 'Z' = some ['z'] := by decide
example : CodeTable.source? [⟨0x41, 0x5A, 1, [0x61]⟩] ['z'] = some 'Z' := by decide

end JobLedger
