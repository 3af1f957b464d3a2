import JobLedger.Yaml.Cursor

/-!
# Gaps between words

Plain and quoted scalars may go over several lines. Between two of their
words stands a `Gap`, and `Gap.text` is what it contributes to the value:
inside a line its blanks, over a line end a single space, and over empty
lines one line feed for each of them.
-/

namespace JobLedger.Yaml

structure Gap where
  /-- The blanks, if the gap stays within its line. -/
  blanks : List Char
  /-- The values of the line ends in the gap. -/
  breaks : List Char
deriving Repr

namespace Gap

def none : Gap := ⟨[], []⟩

def isNone (g : Gap) : Bool := g.blanks.isEmpty && g.breaks.isEmpty

/-- The gap goes over a line end. -/
def isBroken (g : Gap) : Bool := !g.breaks.isEmpty

/-- What a gap contributes. A separator of Unicode is no line feed, so it is
not folded. -/
def text (g : Gap) : List Char :=
  match g.breaks with
  | [] => g.blanks
  | ['\n'] => [' ']
  | '\n' :: breaks => breaks
  | breaks => breaks

end Gap

namespace Cursor

/-- The line ends from the start of a line up to the next word. A tab left
of column `tabs` is refused. The first argument bounds the number of
lines. -/
def takeBreaks? (tabs : Nat) : Nat → Cursor → Option (List Char × Cursor)
  | 0, k => some ([], k)
  | fuel + 1, k =>
      let (blanks, k) := k.takeWhile isGap
      if '\t' ∈ blanks.take tabs then none
      else match k.takeBreak? with
        | none => some ([], k)
        | some (b, k) => (takeBreaks? tabs fuel k).map fun (bs, k) => (b :: bs, k)

/-- The gap in front of the next word. -/
def takeGap? (tabs : Nat) (k : Cursor) : Option (Gap × Cursor) :=
  let (blanks, k) := k.takeWhile isGap
  match k.takeBreak? with
  | none => some (⟨blanks, []⟩, k)
  | some (b, k) =>
      (k.takeBreaks? tabs (k.rest.length + 1)).map fun (bs, k) => (⟨[], b :: bs⟩, k)

end Cursor

end JobLedger.Yaml
