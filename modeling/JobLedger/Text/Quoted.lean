import JobLedger.Text.Marks
import JobLedger.Text.Printable

/-!
# Quoted text

Descriptions of jobs and tables for diagnostics show names in quotation
marks. A quotation mark, a backslash and the usual blanks get a backslash;
a character that cannot be seen on its own is written as its code point.
-/

namespace JobLedger

/-- The written form of one character between quotation marks. -/
def quotedChar (c : Char) : List Char :=
  match c with
  | '\x00' => ['\\', '0']
  | '\t' => ['\\', 't']
  | '\r' => ['\\', 'r']
  | '\n' => ['\\', 'n']
  | '"' => ['\\', '"']
  | '\\' => ['\\', '\\']
  | c =>
      if isExtender c || isUnprintable c then
        '\\' :: 'u' :: '{' :: (Nat.toDigits 16 c.toNat ++ ['}'])
      else [c]

/-- The text between quotation marks. -/
def quoted (s : String) : String :=
  .ofList ('"' :: (s.toList.flatMap quotedChar ++ ['"']))

end JobLedger
