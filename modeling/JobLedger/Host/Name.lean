import JobLedger.Host.Direction
import JobLedger.Host.Folding
import JobLedger.Host.Joining
import JobLedger.Host.Punycode

/-!
# Host names

A host name has labels with dots between them, in any script. The same name
can be written in several ways: with capitals, with variants of letters,
with characters that cannot be seen, and with labels in ASCII. `HostName.read?`
gives the form that is meant for people, in which two names are equal if
they mean the same.

A label must not start with a mark, must have joiners only where they make a
difference, and must have a plain direction. Which characters of ASCII a
name may have is left to those that use it.
-/

namespace JobLedger.HostName

def isAscii (cs : List Char) : Bool := cs.all (·.toNat < 0x80)

/-- The most characters of a label that is written in ASCII, behind its
mark. -/
def maxEncoded : Nat := 2000

/-- The most characters of a label that could be written in ASCII. -/
def maxDecoded : Nat := 1000

/-- The form of a folded label that is meant for people. A label written in
ASCII has to need it, and to stand for a folded one. -/
def readLabel? (label : List Char) : Option (List Char) :=
  match label with
  | 'x' :: 'n' :: '-' :: '-' :: r =>
      if r.length ≤ maxEncoded then
        (Punycode.decode? r).filter fun cs => !isAscii cs && Folding.fold? cs = some cs
      else none
  | _ => if isAscii label || label.length ≤ maxDecoded then some label else none

/-- The label does not start with a mark, and its joiners make a
difference. -/
def isWellFormed (label : List Char) : Bool :=
  !label.head?.any isMark && Joining.joinersFit label

/-- The form of a name that is meant for people. -/
def read? (cs : List Char) : Option (List Char) := do
  let name ← Folding.fold? cs
  let labels ← (pieces '.' name).mapM readLabel?
  if labels.all isWellFormed && Direction.agree labels then some (joinPieces '.' labels) else none

example : read? "Example.ORG".toList = some "example.org".toList := by decide +kernel
example : read? "a..".toList = some "a..".toList := by decide +kernel
example : read? "xn--".toList = none := by decide +kernel

end JobLedger.HostName
