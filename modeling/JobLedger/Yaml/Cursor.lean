/-!
# Places in a YAML text

The layout of a YAML text carries meaning, so a reader of it has to know
where it stands. A `Cursor` is the text that is left together with its
place: how many bytes were read, in which line and at which column. A
column is one character wide.

Five characters end a line. A carriage return and a line feed behind it
are one line end; inside scalars the ends that other systems use are read
as a line feed, and the two separators of Unicode are kept as they are.
-/

namespace JobLedger.Yaml

/-- The characters that a text may contain. -/
def isAllowed (c : Char) : Bool :=
  let n := c.toNat
  n = 0x09 || n = 0x0A || n = 0x0D || (0x20 ≤ n && n ≤ 0x7E) || n = 0x85
    || (0xA0 ≤ n && n ≤ 0xD7FF) || (0xE000 ≤ n && n ≤ 0xFFFD) || 0x10000 ≤ n

/-- The mark that some editors put in front of a text, and that is left
inside when texts are joined. -/
def byteOrderMark : Char := '\uFEFF'

def isBreak (c : Char) : Bool :=
  c = '\n' || c = '\r' || c = '\x85' || c = '\u2028' || c = '\u2029'

/-- Spaces and tabs. -/
def isGap (c : Char) : Bool := c = ' ' || c = '\t'

/-- A gap, a line end or the end of the text is next. -/
def atGap : List Char → Bool
  | [] => true
  | c :: _ => isGap c || isBreak c

/-- A line end or the end of the text is next. -/
def atBreak : List Char → Bool
  | [] => true
  | c :: _ => isBreak c

/-- The characters of names: letters, digits, `-` and `_`. -/
def isNameChar (c : Char) : Bool :=
  ('0' ≤ c && c ≤ '9') || ('a' ≤ c && c ≤ 'z') || ('A' ≤ c && c ≤ 'Z') || c = '-' || c = '_'

/-- The value of a line end inside a scalar. -/
def breakValue (c : Char) : Char :=
  if c = '\u2028' ∨ c = '\u2029' then c else '\n'

structure Cursor where
  rest : List Char
  /-- The number of bytes read. -/
  index : Nat
  line : Nat
  column : Nat
deriving Repr

namespace Cursor

/-- In front of a text. -/
def start (cs : List Char) : Cursor := ⟨cs, 0, 0, 0⟩

/-- The number of bytes of a text. -/
def width : List Char → Nat
  | [] => 0
  | c :: r => c.utf8Size + width r

/-- Behind `n` characters that end no line. -/
def skip (n : Nat) (k : Cursor) : Cursor :=
  { k with
    rest := k.rest.drop n
    index := k.index + width (k.rest.take n)
    column := k.column + n }

/-- Behind a line end of `n` bytes, in front of `rest`. -/
def nextLine (n : Nat) (rest : List Char) (k : Cursor) : Cursor :=
  ⟨rest, k.index + n, k.line + 1, 0⟩

/-- Behind the next line end with the value it has in a scalar; `none` if
no line end is next. -/
def takeBreak? (k : Cursor) : Option (Char × Cursor) :=
  match k.rest with
  | '\r' :: '\n' :: r => some ('\n', k.nextLine 2 r)
  | c :: r => if isBreak c then some (breakValue c, k.nextLine c.utf8Size r) else none
  | [] => none

/-- Behind the next line end, if there is one. -/
def skipBreak (k : Cursor) : Cursor := (k.takeBreak?.map (·.2)).getD k

/-- The characters of a class in front, and the cursor behind them. No
character of the class may end a line. -/
def takeWhile (p : Char → Bool) (k : Cursor) : List Char × Cursor :=
  let taken := k.rest.takeWhile p
  (taken, k.skip taken.length)

def skipWhile (p : Char → Bool) (k : Cursor) : Cursor := (k.takeWhile p).2

/-- Behind the rest of the line. -/
def skipLine (k : Cursor) : Cursor := k.skipWhile fun c => !isBreak c

/-- Behind a comment, if one starts here. -/
def skipComment (k : Cursor) : Cursor :=
  if k.rest.head? = some '#' then k.skipLine else k

/-- One of the two marks between documents is next, on a line of its own. -/
def atDocumentMark (k : Cursor) : Bool :=
  k.column = 0 &&
    match k.rest with
    | '-' :: '-' :: '-' :: r => atGap r
    | '.' :: '.' :: '.' :: r => atGap r
    | _ => false

end Cursor

end JobLedger.Yaml
