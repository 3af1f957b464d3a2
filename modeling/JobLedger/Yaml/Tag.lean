import JobLedger.Yaml.Quoted
import JobLedger.Yaml.Token

/-!
# Tags

A tag names the type of a node. It is written in full between angle
brackets, or as a handle and an ending; what a handle stands for is looked
up later. A tag may spell bytes by a percent sign and two hexadecimal
digits; they have to be the bytes of characters.
-/

namespace JobLedger.Yaml

/-- The characters of a tag besides the percent sign. The brackets and the
comma are allowed where nothing could end at them. -/
def isTagChar (marks : Bool) (c : Char) : Bool :=
  isNameChar c
    || c ∈ [';', '/', '?', ':', '@', '&', '=', '+', '$', '.', '!', '~', '*', '\'', '(', ')']
    || (marks && c ∈ [',', '[', ']'])

/-- The number of bytes that follow the first byte of a character. -/
def tailLength? (b : Nat) : Option Nat :=
  if b < 0x80 then some 0
  else if 0xC0 ≤ b ∧ b < 0xE0 then some 1
  else if 0xE0 ≤ b ∧ b < 0xF0 then some 2
  else if 0xF0 ≤ b ∧ b < 0xF8 then some 3
  else none

/-- The bytes of a tag and the number of characters they are written with.
The first argument is the number of spelled bytes that must follow. -/
def tagBytes? (marks : Bool) : Nat → List Char → Option (Bytes × Nat)
  | tail, '%' :: a :: b :: r => do
      let n ← hexNumber? [a, b]
      let tail ← if tail = 0 then tailLength? n
        else if 0x80 ≤ n ∧ n < 0xC0 then some (tail - 1) else none
      let (bs, taken) ← tagBytes? marks tail r
      return (UInt8.ofNat n :: bs, taken + 3)
  | 0, c :: r =>
      if c = '%' then none
      else if isTagChar marks c then do
        let (bs, taken) ← tagBytes? marks 0 r
        return (Utf8.encode [c] ++ bs, taken + 1)
      else some ([], 0)
  | 0, [] => some ([], 0)
  | _ + 1, _ => none

/-- The characters of a tag in front. A zero byte ends what they spell. -/
def tagText? (marks : Bool) (k : Cursor) : Option (Bytes × Cursor) :=
  (tagBytes? marks 0 k.rest).map fun (bs, taken) => (bs.takeWhile (· ≠ 0), k.skip taken)

/-- As `tagText?`, with one character at least. -/
def someTagText? (marks : Bool) (k : Cursor) : Option (Bytes × Cursor) := do
  let (bs, next) ← tagText? marks k
  if next.index = k.index then none else some (bs, next)

/-- A handle is written between two exclamation marks; the inner name may be
missing, and then so may the second mark. -/
def handle? (k : Cursor) : Option (String × Cursor) :=
  match k.rest with
  | '!' :: r =>
      let name := r.takeWhile isNameChar
      let k := k.skip (1 + name.length)
      if k.rest.head? = some '!' then some (.ofList ('!' :: (name ++ ['!'])), k.skip 1)
      else if name = [] then some ("!", k)
      else none
  | _ => none

/-- The tag that starts here, without a look at what follows it. -/
def openTag? (k : Cursor) : Option (Token × Cursor) :=
  match k.rest with
  | '!' :: '<' :: _ => do
      let (bs, k) ← someTagText? true (k.skip 2)
      if k.rest.head? = some '>' then some (.tag "" bs, k.skip 1) else none
  | _ =>
      let inner := k.skip 1
      match inner.rest.dropWhile isNameChar with
      | '!' :: _ => do
          let (handle, k) ← handle? k
          let (bs, k) ← someTagText? false k
          return (.tag handle bs, k)
      | _ => do
          let (bs, k) ← tagText? false inner
          return (if bs = [] then .tag "" (Utf8.bytes "!") else .tag "!" bs, k)

/-- The tag that starts here. A gap follows it, or a comma inside brackets. -/
def tag? (bracketed : Bool) (k : Cursor) : Option (Token × Cursor) := do
  let (t, k) ← openTag? k
  if atGap k.rest || (bracketed && k.rest.head? = some ',') then some (t, k) else none

example : (tag? false (.start "!!int 1".toList)).map (·.1)
    = some (.tag "!!" (Utf8.bytes "int")) := by decide +kernel
example : (tag? false (.start "!<a%2Cb> 1".toList)).map (·.1)
    = some (.tag "" (Utf8.bytes "a,b")) := by decide +kernel

end JobLedger.Yaml
