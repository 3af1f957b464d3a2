import JobLedger.Text.NormalForm.Classes
import JobLedger.Text.NormalForm.Decompositions
import JobLedger.Text.NormalForm.Hangul

/-!
# The composed form

A letter with a mark can be written as one character or as two, and marks
that do not touch each other can be written in any order. The composed form
(`composed`) is the same for all ways to write a text, and has one character
wherever there is one.

It takes all characters apart, puts marks into the order of their classes,
and then puts together what fits.
-/

namespace JobLedger.NormalForm

/-! ## Taking apart -/

/-- The parts of a character, with the first part taken apart at most
`depth` times. -/
def partsWithin (depth : Nat) (c : Char) : List Char :=
  match depth with
  | 0 => [c]
  | depth + 1 =>
      match decompositions.image? c with
      | some (a :: r) => partsWithin depth a ++ r
      | _ => [c]

/-- How often first parts are made of others. -/
def maxDepth : Nat := 4

/-- The parts of a character. -/
def decompose (c : Char) : List Char :=
  if c.toNat < 0x80 then [c]
  else match Hangul.letters? c with
    | some cs => cs
    | none => partsWithin maxDepth c

/-! ## The order of marks -/

/-- Appends a character to a text held in reverse. A mark goes before the
marks of higher classes at the end of the text. -/
def appendOrdered (kept : List Char) (c : Char) : List Char :=
  match kept with
  | [] => [c]
  | d :: r =>
      if combiningClass c ≠ 0 ∧ combiningClass c < combiningClass d then
        d :: appendOrdered r c
      else c :: d :: r

/-- The text with its marks in order. -/
def ordered (cs : List Char) : List Char := (cs.foldl appendOrdered []).reverse

/-! ## Putting together -/

/-- The character that two characters make. -/
def join? (a b : Char) : Option Char :=
  match Hangul.join? a b with
  | some c => some c
  | none => (decompositions.source? [a, b]).filter fun c => !compositionExclusions.has c

/-- Nothing stands between a base and this character that would be in its
way: nothing at all, or marks of lower classes. -/
def isFree (marks : List Char) (c : Char) : Bool :=
  match marks with
  | [] => true
  | d :: _ => combiningClass d < combiningClass c

/-- Puts together a base and what follows it. `marks` are the marks that the
base has not taken in so far, in reverse. -/
def joinFrom (base : Char) (marks : List Char) : List Char → List Char
  | [] => base :: marks.reverse
  | c :: r =>
      match if isFree marks c then join? base c else none with
      | some base => joinFrom base marks r
      | none =>
          if combiningClass c = 0 then base :: marks.reverse ++ joinFrom c [] r
          else joinFrom base (c :: marks) r

/-- Puts together what fits. Marks at the front have no base. -/
def joined (cs : List Char) : List Char :=
  let marks := cs.takeWhile fun c => combiningClass c ≠ 0
  match cs.drop marks.length with
  | [] => marks
  | base :: r => marks ++ joinFrom base [] r

/-- The composed form of a text. -/
def composed (cs : List Char) : List Char := joined (ordered (cs.flatMap decompose))

example : ordered ['a', '\u0302', '\u0323'] = ['a', '\u0323', '\u0302'] := by decide +kernel
example : isFree ['\u0323'] '\u0302' = true := by decide +kernel

end JobLedger.NormalForm
