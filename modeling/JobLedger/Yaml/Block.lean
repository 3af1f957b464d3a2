import JobLedger.Yaml.Cursor

/-!
# Block scalars

A block scalar is a run of lines that are indented deeper than what is
around them. A literal one keeps its line ends; a folded one joins
neighbouring lines by a space, unless one of them starts with a blank.

Its header may say how deep the lines are indented and what becomes of the
line ends at the end: none is kept, one is, or all are.
-/

namespace JobLedger.Yaml

/-- What becomes of the line ends at the end. -/
inductive Chomp
  | strip
  | clip
  | keep
deriving DecidableEq, Repr

def Chomp.ofChar? : Char → Option Chomp
  | '-' => some .strip
  | '+' => some .keep
  | _ => none

structure BlockHeader where
  chomp : Chomp
  /-- How much deeper the lines are indented than what is around. -/
  depth : Option Nat
deriving Repr

/-- A digit from one to nine, or nothing; a zero is refused. -/
def depth? : List Char → Option (Option Nat)
  | '0' :: _ => none
  | c :: _ => some (if '1' ≤ c ∧ c ≤ '9' then some (c.toNat - '0'.toNat) else none)
  | [] => some none

/-- The two parts of a header, in either order. -/
def blockHeader? (k : Cursor) : Option (BlockHeader × Cursor) := do
  match k.rest.head?.bind Chomp.ofChar? with
  | some chomp =>
      let k := k.skip 1
      match ← depth? k.rest with
      | some n => return (⟨chomp, some n⟩, k.skip 1)
      | none => return (⟨chomp, none⟩, k)
  | none =>
      match ← depth? k.rest with
      | some n =>
          let k := k.skip 1
          match k.rest.head?.bind Chomp.ofChar? with
          | some chomp => return (⟨chomp, some n⟩, k.skip 1)
          | none => return (⟨.clip, some n⟩, k)
      | none => return (⟨.clip, none⟩, k)

/-- Empty lines in a block scalar. -/
structure BlankLines where
  breaks : List Char
  /-- The largest number of spaces at the start of a line, the one at
  `next` included. -/
  widest : Nat
  next : Cursor

/-- The empty lines in front, and the indentation of the line behind them.
No more than `indent` spaces are taken, if that is known; a tab among them
is refused. The first argument bounds the number of lines. -/
def blankLines? (indent : Option Nat) : Nat → Cursor → Option BlankLines
  | 0, _ => none
  | fuel + 1, k =>
      let spaces := (k.rest.takeWhile (· = ' ')).length
      let k := k.skip (indent.elim spaces (min spaces))
      if (indent.all (k.column < ·)) && k.rest.head? = some '\t' then none
      else match k.takeBreak? with
        | none => some ⟨[], k.column, k⟩
        | some (b, next) => do
            let more ← blankLines? indent fuel next
            return { more with breaks := b :: more.breaks, widest := max k.column more.widest }

/-- What separates a line from the one before it: `first` ends the line
before, `more` are the empty lines between. -/
def blockGap (folded blank : Bool) (first more : List Char) : List Char :=
  if folded && first = ['\n'] && !blank then
    if more.isEmpty then [' '] else more
  else first ++ more

/-- The lines of a block scalar. `first` and `more` are the line ends in
front, `blank` says that the line before starts with a blank. The first
explicit argument bounds the number of lines. -/
def blockLines? (folded : Bool) (chomp : Chomp) (indent : Nat) :
    Nat → (first more : List Char) → (blank : Bool) → Cursor → Option (List Char × Cursor)
  | 0, _, _, _, _ => none
  | fuel + 1, first, more, blank, k =>
      if k.column = indent ∧ k.rest ≠ [] then do
        let now := k.rest.head?.any isGap
        let gap := blockGap folded (blank || now) first more
        let (line, k) := k.takeWhile fun c => !isBreak c
        let (first, k) := match k.takeBreak? with
          | some (b, k) => ([b], k)
          | none => ([], k)
        let between ← blankLines? (some indent) (k.rest.length + 1) k
        let (text, k) ← blockLines? folded chomp indent fuel first between.breaks now between.next
        return (gap ++ line ++ text, k)
      else
        match chomp with
        | .strip => some ([], k)
        | .clip => some (first, k)
        | .keep => some (first ++ more, k)

/-- The block scalar that starts here. `outer` is the column of the block
around it, if there is one. -/
def block? (folded : Bool) (outer : Option Nat) (k : Cursor) : Option (List Char × Cursor) := do
  let (header, k) ← blockHeader? (k.skip 1)
  let k := (k.skipWhile isGap).skipComment
  if !atBreak k.rest then failure
  let k := k.skipBreak
  let known := header.depth.map (outer.getD 0 + ·)
  let front ← blankLines? known (k.rest.length + 1) k
  let indent := known.getD (max front.widest (outer.elim 1 (· + 1)))
  blockLines? folded header.chomp indent (front.next.rest.length + 1) [] front.breaks false
    front.next

example : (block? true none (.start ">\n a\n b\n\n  c\n".toList)).map (·.1)
    = some "a b\n\n c\n".toList := by decide +kernel
example : (block? false (some 2) (.start "|1-\n   a\n    b\n".toList)).map (·.1)
    = some "a\n b".toList := by decide +kernel

end JobLedger.Yaml
