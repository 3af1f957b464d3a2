import JobLedger.Yaml.Gap

/-!
# Quoted scalars

Between single quotes only the quote itself is special, and is written
twice. Between double quotes a backslash starts an escape; at the end of a
line it joins the line with the next one.
-/

namespace JobLedger.Yaml

inductive QuoteMark
  | single
  | double
deriving DecidableEq, Repr

def QuoteMark.char : QuoteMark → Char
  | .single => '\''
  | .double => '"'

/-- A word between single quotes with the number of characters it takes. -/
def singleWord : List Char → List Char × Nat
  | '\'' :: '\'' :: r =>
      let (w, n) := singleWord r
      ('\'' :: w, n + 2)
  | c :: r =>
      if c = '\'' || isGap c || isBreak c then ([], 0)
      else
        let (w, n) := singleWord r
        (c :: w, n + 1)
  | [] => ([], 0)

/-- The character that a short escape stands for. -/
def escape? : Char → Option Char
  | '0' => some '\x00'
  | 'a' => some '\x07'
  | 'b' => some '\x08'
  | 't' => some '\t'
  | '\t' => some '\t'
  | 'n' => some '\n'
  | 'v' => some '\x0b'
  | 'f' => some '\x0c'
  | 'r' => some '\r'
  | 'e' => some '\x1b'
  | ' ' => some ' '
  | '"' => some '"'
  | '/' => some '/'
  | '\\' => some '\\'
  | 'N' => some '\x85'
  | '_' => some '\xa0'
  | 'L' => some '\u2028'
  | 'P' => some '\u2029'
  | _ => none

/-- The value of a hexadecimal digit. -/
def hexDigit? (c : Char) : Option Nat :=
  if '0' ≤ c ∧ c ≤ '9' then some (c.toNat - '0'.toNat)
  else if 'a' ≤ c ∧ c ≤ 'f' then some (c.toNat - 'a'.toNat + 10)
  else if 'A' ≤ c ∧ c ≤ 'F' then some (c.toNat - 'A'.toNat + 10)
  else none

/-- The value of hexadecimal digits. -/
def hexNumber? (ds : List Char) : Option Nat :=
  ds.foldlM (fun n d => (hexDigit? d).map (n * 16 + ·)) 0

/-- The character with a number written in hexadecimal digits. -/
def hexChar? (ds : List Char) : Option Char := do
  let n ← hexNumber? ds
  if n.isValidChar then some (Char.ofNat n) else none

/-- A word between double quotes with the number of characters it takes. It
ends in front of a backslash that joins two lines. -/
def doubleWord? : List Char → Option (List Char × Nat)
  | [] => some ([], 0)
  | '\\' :: 'x' :: a :: b :: r => do
      let c ← hexChar? [a, b]
      let (w, n) ← doubleWord? r
      return (c :: w, n + 4)
  | '\\' :: 'u' :: a :: b :: c :: d :: r => do
      let c ← hexChar? [a, b, c, d]
      let (w, n) ← doubleWord? r
      return (c :: w, n + 6)
  | '\\' :: 'U' :: a :: b :: c :: d :: e :: f :: g :: h :: r => do
      let c ← hexChar? [a, b, c, d, e, f, g, h]
      let (w, n) ← doubleWord? r
      return (c :: w, n + 10)
  | '\\' :: e :: r =>
      if isBreak e then some ([], 0)
      else do
        let c ← escape? e
        let (w, n) ← doubleWord? r
        return (c :: w, n + 2)
  | c :: r =>
      if c = '\\' then none
      else if c = '"' || isGap c || isBreak c then some ([], 0)
      else do
        let (w, n) ← doubleWord? r
        return (c :: w, n + 1)

def word? : QuoteMark → List Char → Option (List Char × Nat)
  | .single, cs => some (singleWord cs)
  | .double, cs => doubleWord? cs

/-- A quoted scalar behind its opening mark, and the cursor behind the
closing one. The first argument bounds the number of words. -/
def quotedFrom? (mark : QuoteMark) : Nat → Cursor → Option (List Char × Cursor)
  | 0, _ => none
  | fuel + 1, k =>
      if k.atDocumentMark || k.rest.isEmpty then none
      else do
        let (word, n) ← word? mark k.rest
        let k := k.skip n
        let joined := k.rest.head? = some '\\'
        let k := if joined then (k.skip 1).skipBreak else k
        if k.rest.head? = some mark.char then return (word, k.skip 1)
        let (gap, k) ←
          if joined then k.takeBreaks? 0 (k.rest.length + 1)
          else (k.takeGap? 0).map fun (g, k) => (g.text, k)
        let (text, k) ← quotedFrom? mark fuel k
        return (word ++ gap ++ text, k)

/-- The quoted scalar that starts here. -/
def quoted? (mark : QuoteMark) (k : Cursor) : Option (List Char × Cursor) :=
  quotedFrom? mark (k.rest.length + 1) (k.skip 1)

example : (quoted? .single (.start "'it''s\n one'".toList)).map (·.1)
    = some "it's one".toList := by decide +kernel
example : (quoted? .double (.start "\"a\\\n  b\\x41\"".toList)).map (·.1)
    = some "abA".toList := by decide +kernel

end JobLedger.Yaml
