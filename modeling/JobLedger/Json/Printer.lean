import JobLedger.Json.Basic

/-!
# Writing JSON

Two written forms: `compact` has no blanks at all, `indented` puts every
item and member on its own line, two spaces deeper than its container.
They differ in their `Spacing` and in nothing else.

Strings escape the quotation mark, the backslash and the controls below
U+0020, with the short escape where there is one. Everything else stands
for itself.
-/

namespace JobLedger.Json

/-- The lower-case hexadecimal digit of a value below sixteen. -/
def hexDigit (n : Nat) : Char :=
  if n < 10 then Char.ofNat ('0'.toNat + n) else Char.ofNat ('a'.toNat + (n - 10))

/-- The written form of one character of a string. -/
def escaped (c : Char) : List Char :=
  match c with
  | '"' => ['\\', '"']
  | '\\' => ['\\', '\\']
  | '\x08' => ['\\', 'b']
  | '\t' => ['\\', 't']
  | '\n' => ['\\', 'n']
  | '\x0c' => ['\\', 'f']
  | '\r' => ['\\', 'r']
  | c =>
      if c.toNat < 0x20 then
        ['\\', 'u', '0', '0', hexDigit (c.toNat / 16), hexDigit (c.toNat % 16)]
      else [c]

/-- A string token. One that spells no text is written as one half of a
surrogate pair, which spells none either. -/
def stringToken : Option String → List Char
  | some s => '"' :: (s.toList.flatMap escaped ++ ['"'])
  | none => ['"', '\\', 'u', 'd', '8', '0', '0', '"']

/-- The written form of a value without parts. -/
def scalarToken : Json → List Char
  | .null => ['n', 'u', 'l', 'l']
  | .bool true => ['t', 'r', 'u', 'e']
  | .bool false => ['f', 'a', 'l', 's', 'e']
  | .int n => (toString n).toList
  | .real token => token.toList
  | .str t => stringToken t
  | .arr _ => ['[', ']']
  | .obj _ => ['{', '}']

/-- Where a written form has blanks. -/
structure Spacing where
  /-- In front of an item or a member, and in front of the end of a
  container, at the given depth of nesting. -/
  newLine : Nat → List Char
  /-- Behind the colon of a member. -/
  afterColon : List Char

namespace Spacing

/-- No blanks at all. -/
def none : Spacing := ⟨fun _ => [], []⟩

/-- A line for every item and member. -/
def lines : Spacing := ⟨fun depth => '\n' :: List.replicate (2 * depth) ' ', [' ']⟩

end Spacing

mutual

/-- The written form of a value at the given depth. -/
def writtenAt (s : Spacing) (depth : Nat) : Json → List Char
  | .arr (x :: xs) => '[' :: writtenItems s depth (x :: xs)
  | .obj (m :: ms) => '{' :: writtenMembers s depth (m :: ms)
  | j => scalarToken j

/-- The items of an array at the given depth and its closing bracket. -/
def writtenItems (s : Spacing) (depth : Nat) : List Json → List Char
  | [] => s.newLine depth ++ [']']
  | [x] => s.newLine (depth + 1) ++ writtenAt s (depth + 1) x ++ s.newLine depth ++ [']']
  | x :: xs =>
      s.newLine (depth + 1) ++ writtenAt s (depth + 1) x ++ ',' :: writtenItems s depth xs

/-- The members of an object at the given depth and its closing brace. -/
def writtenMembers (s : Spacing) (depth : Nat) : List (Option String × Json) → List Char
  | [] => s.newLine depth ++ ['}']
  | [(k, x)] =>
      s.newLine (depth + 1) ++ stringToken k ++ ':' :: s.afterColon
        ++ writtenAt s (depth + 1) x ++ s.newLine depth ++ ['}']
  | (k, x) :: xs =>
      s.newLine (depth + 1) ++ stringToken k ++ ':' :: s.afterColon
        ++ writtenAt s (depth + 1) x ++ ',' :: writtenMembers s depth xs

end

/-- The written form without blanks. -/
def compact (j : Json) : List Char := writtenAt .none 0 j

/-- The written form over several lines. -/
def indented (j : Json) : List Char := writtenAt .lines 0 j

/-- The compact form as a string. -/
def toText (j : Json) : String := .ofList (compact j)

/-- The indented form as a string. -/
def toIndentedText (j : Json) : String := .ofList (indented j)

example : compact (object [("a", .int (-2)), ("b", .arr [.null, text "x\n"])])
    = "\x7b\"a\":-2,\"b\":[null,\"x\\n\"]\x7d".toList := by decide +kernel

end JobLedger.Json
