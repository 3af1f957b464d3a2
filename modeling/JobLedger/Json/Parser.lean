import JobLedger.Json.Basic
import JobLedger.Text.Utf8

/-!
# Reading JSON

`Json.parse?` reads a whole text as one value: no text after the value, no
comments, no leading zeros, no trailing commas, no control characters in
strings.

A string is read in two steps. `scanString` finds where the token ends and
which code points it spells, escapes one by one; `spelled?` then joins
escaped surrogate pairs, and finds no text where a half of a pair is left.

Files are read by the same grammar (`ofBytes?`). Bytes that are not UTF-8
may stand in a string, which then spells no text either. The grammar sees
them as `notUtf8`, a character that no JSON text contains unescaped.
-/

namespace JobLedger.Json

/-- Stands for bytes that are not UTF-8. -/
def notUtf8 : Char := '\x00'

def isSpace (c : Char) : Bool := c = ' ' || c = '\n' || c = '\t' || c = '\r'

/-- Drops the blanks in front. -/
def skip (cs : List Char) : List Char := cs.dropWhile isSpace

/-- The value of a hexadecimal digit. -/
def hexValue? (c : Char) : Option Nat :=
  if '0' ≤ c ∧ c ≤ '9' then some (c.toNat - '0'.toNat)
  else if 'a' ≤ c ∧ c ≤ 'f' then some (c.toNat - 'a'.toNat + 10)
  else if 'A' ≤ c ∧ c ≤ 'F' then some (c.toNat - 'A'.toNat + 10)
  else none

/-- The value of four hexadecimal digits. -/
def quad? (a b c d : Char) : Option Nat := do
  let a ← hexValue? a
  let b ← hexValue? b
  let c ← hexValue? c
  let d ← hexValue? d
  return a * 4096 + b * 256 + c * 16 + d

def shortEscape? : Char → Option Char
  | '"' => some '"'
  | '\\' => some '\\'
  | '/' => some '/'
  | 'b' => some '\x08'
  | 'f' => some '\x0c'
  | 'n' => some '\n'
  | 'r' => some '\r'
  | 't' => some '\t'
  | _ => none

/-- A number that is no code point. -/
def noCode : Nat := 0x110000

/-- The code points of a string token behind its opening mark, and what
follows its closing mark. -/
def scanString : List Char → Option (List Nat × List Char)
  | [] => none
  | '"' :: r => some ([], r)
  | '\\' :: 'u' :: a :: b :: c :: d :: r =>
      match quad? a b c d with
      | none => none
      | some n => (scanString r).map fun (codes, rest) => (n :: codes, rest)
  | '\\' :: e :: r =>
      match shortEscape? e with
      | none => none
      | some x => (scanString r).map fun (codes, rest) => (x.toNat :: codes, rest)
  | c :: r =>
      if c = notUtf8 then (scanString r).map fun (codes, rest) => (noCode :: codes, rest)
      else if c = '\\' ∨ c.toNat < 0x20 then none
      else (scanString r).map fun (codes, rest) => (c.toNat :: codes, rest)

def isHighHalf (n : Nat) : Bool := 0xD800 ≤ n && n ≤ 0xDBFF

def isLowHalf (n : Nat) : Bool := 0xDC00 ≤ n && n ≤ 0xDFFF

/-- The number is no code point of a text of its own. -/
def isNoText (n : Nat) : Bool := isHighHalf n || isLowHalf n || n = noCode

/-- The text that code points spell; `none` if a half of a surrogate pair
stands alone, or if something is no code point. -/
def spelled? : List Nat → Option (List Char)
  | [] => some []
  | [n] => if isNoText n then none else some [Char.ofNat n]
  | n :: m :: r =>
      if isHighHalf n then
        if isLowHalf m then
          (spelled? r).map (Char.ofNat (0x10000 + (n - 0xD800) * 0x400 + (m - 0xDC00)) :: ·)
        else none
      else if isNoText n then none
      else (spelled? (m :: r)).map (Char.ofNat n :: ·)

/-- A string token behind its opening mark. -/
def string? (cs : List Char) : Option (Option String × List Char) :=
  (scanString cs).map fun (codes, rest) => ((spelled? codes).map String.ofList, rest)

def digitsValue (ds : List Char) : Nat := ds.foldl (fun n d => n * 10 + (d.toNat - '0'.toNat)) 0

/-- The digits in front of a point or exponent: one zero, or digits that
start with another one. -/
def intDigits? (cs : List Char) : Option (List Char × List Char) :=
  match cs.span Char.isDigit with
  | ([], _) => none
  | ('0' :: _ :: _, _) => none
  | (ds, r) => some (ds, r)

def fraction? : List Char → Option (List Char × List Char)
  | '.' :: r =>
      match r.span Char.isDigit with
      | ([], _) => none
      | (ds, r) => some ('.' :: ds, r)
  | cs => some ([], cs)

def exponentDigits? (mark : List Char) (cs : List Char) : Option (List Char × List Char) :=
  match cs.span Char.isDigit with
  | ([], _) => none
  | (ds, r) => some (mark ++ ds, r)

def exponent? : List Char → Option (List Char × List Char)
  | e :: s :: r =>
      if e = 'e' ∨ e = 'E' then
        if s = '+' ∨ s = '-' then exponentDigits? [e, s] r else exponentDigits? [e] (s :: r)
      else some ([], e :: s :: r)
  | [e] => if e = 'e' ∨ e = 'E' then none else some ([], [e])
  | [] => some ([], [])

/-- A number token, behind its sign. -/
def unsigned? (negative : Bool) (cs : List Char) : Option (Json × List Char) := do
  let (ds, r) ← intDigits? cs
  let (fs, r) ← fraction? r
  let (es, r) ← exponent? r
  let n := digitsValue ds
  let token := (if negative then ['-'] else []) ++ ds ++ fs ++ es
  if fs ≠ [] ∨ es ≠ [] ∨ (negative = true ∧ n = 0) then
    return (.real (.ofList token), r)
  else if negative then return (.int (-n), r)
  else return (.int n, r)

def number? : List Char → Option (Json × List Char)
  | '-' :: r => unsigned? true r
  | cs => unsigned? false cs

mutual

/-- A value and what follows it. The first argument bounds the nesting and
the number of items on the way. -/
def value? : Nat → List Char → Option (Json × List Char)
  | 0, _ => none
  | fuel + 1, cs =>
      match skip cs with
      | 'n' :: 'u' :: 'l' :: 'l' :: r => some (.null, r)
      | 't' :: 'r' :: 'u' :: 'e' :: r => some (.bool true, r)
      | 'f' :: 'a' :: 'l' :: 's' :: 'e' :: r => some (.bool false, r)
      | '"' :: r => (string? r).map fun (t, r) => (.str t, r)
      | '[' :: r =>
          match skip r with
          | ']' :: r => some (.arr [], r)
          | r => (items? fuel r).map fun (xs, r) => (.arr xs, r)
      | '{' :: r =>
          match skip r with
          | '}' :: r => some (.obj [], r)
          | r => (members? fuel r).map fun (ms, r) => (.obj ms, r)
      | r => number? r

/-- One or more items of an array and its closing bracket. -/
def items? : Nat → List Char → Option (List Json × List Char)
  | 0, _ => none
  | fuel + 1, cs => do
      let (x, r) ← value? fuel cs
      match skip r with
      | ',' :: r =>
          let (xs, r) ← items? fuel r
          return (x :: xs, r)
      | ']' :: r => return ([x], r)
      | _ => none

/-- One or more members of an object and its closing brace. -/
def members? : Nat → List Char → Option (List (Option String × Json) × List Char)
  | 0, _ => none
  | fuel + 1, cs =>
      match skip cs with
      | '"' :: r => do
          let (k, r) ← string? r
          match skip r with
          | ':' :: r =>
              let (x, r) ← value? fuel r
              match skip r with
              | ',' :: r =>
                  let (ms, r) ← members? fuel r
                  return ((k, x) :: ms, r)
              | '}' :: r => return ([(k, x)], r)
              | _ => none
          | _ => none
      | _ => none

end

/-- Reads characters as one value with nothing but blanks around it. -/
def parseChars? (cs : List Char) : Option Json := do
  let (j, r) ← value? (2 * cs.length + 2) cs
  if skip r = [] then some j else none

/-- Reads a text as one value. -/
def parse? (s : String) : Option Json :=
  if notUtf8 ∈ s.toList then none else parseChars? s.toList

/-- Reads the content of a file as one value. -/
def ofBytes? (bs : Bytes) : Option Json :=
  if 0 ∈ bs then none else parseChars? (Utf8.decodeWith [notUtf8] bs)

end JobLedger.Json
