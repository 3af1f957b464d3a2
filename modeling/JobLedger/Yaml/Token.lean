import JobLedger.Text.Utf8

/-!
# The tokens of a YAML text

Brackets and marks are written in the text; the tokens that open and close
a block, and the one in front of a simple key, are derived from its layout.
After that step indentation has no further meaning.

Anchors are numbered, and an alias has the number of its anchor.
-/

namespace JobLedger.Yaml

/-- How a scalar is written. -/
inductive ScalarStyle
  | plain
  | singleQuoted
  | doubleQuoted
  | literal
  | folded
deriving DecidableEq, Repr

inductive Token
  /-- The version directive. -/
  | version (major minor : Nat)
  /-- A directive that says what a tag handle stands for. -/
  | handle (name : String) (stem : Bytes)
  | documentStart
  | documentEnd
  | blockSequence
  | blockMapping
  | blockEnd
  | openBracket
  | closeBracket
  | openBrace
  | closeBrace
  | comma
  /-- A dash in front of an item. -/
  | dash
  /-- A key follows. -/
  | key
  /-- A value follows. -/
  | value
  | anchor (number : Nat)
  | alias (number : Nat)
  /-- A tag and its handle; with an empty handle the tag is complete. -/
  | tag (handle : String) (ending : Bytes)
  | scalar (style : ScalarStyle) (text : String)
deriving DecidableEq, Repr

end JobLedger.Yaml
