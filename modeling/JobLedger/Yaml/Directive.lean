import JobLedger.Yaml.Tag

/-!
# Directives

A directive stands in front of a document, on a line that starts with a
percent sign. It gives the version of the format, or says what a tag
handle stands for. There are no others.
-/

namespace JobLedger.Yaml

/-- A number of one to nine digits. -/
def versionNumber? (k : Cursor) : Option (Nat × Cursor) :=
  let (ds, k) := k.takeWhile Char.isDigit
  if ds = [] ∨ 9 < ds.length then none
  else some (ds.foldl (fun n d => n * 10 + (d.toNat - '0'.toNat)) 0, k)

def version? (k : Cursor) : Option (Token × Cursor) := do
  let (major, k) ← versionNumber? (k.skipWhile isGap)
  if k.rest.head? ≠ some '.' then failure
  let (minor, k) ← versionNumber? (k.skip 1)
  return (.version major minor, k)

/-- The value of a tag directive. -/
def handleDirective? (k : Cursor) : Option (Token × Cursor) := do
  let (name, k) ← handle? (k.skipWhile isGap)
  if !k.rest.head?.any isGap then failure
  let (stem, k) ← someTagText? true (k.skipWhile isGap)
  if !atGap k.rest then failure
  return (.handle name stem, k)

/-- The directive that starts here, with its line end. -/
def directive? (k : Cursor) : Option (Token × Cursor) := do
  let (name, k) := (k.skip 1).takeWhile isNameChar
  if !atGap k.rest then failure
  let (t, k) ←
    if name = "YAML".toList then version? k
    else if name = "TAG".toList then handleDirective? k
    else none
  let k := (k.skipWhile isGap).skipComment
  if !atBreak k.rest then failure
  return (t, k.skipBreak)

end JobLedger.Yaml
