import JobLedger.Dict
import JobLedger.Yaml.Block
import JobLedger.Yaml.Directive
import JobLedger.Yaml.Plain

/-!
# From text to tokens

`Token.ofText?` reads the tokens of a text. A `Layout` is what it knows on
the way: the columns of the open blocks, how many brackets are open, and
where a simple key may have started.

A simple key is known to be one only at the colon behind it. The place
where it may have started is remembered (`KeyPlace`), and the colon puts
the key token there, with the opening of a block if the key's column opens
one. A key must not go over a line end, nor over more than 1024 bytes.
At the column of a block nothing but a key can stand, so a remembered place
there is a mistake if no colon follows (`required`).
-/

namespace JobLedger.Yaml

/-- A place where a simple key may have started. -/
structure KeyPlace where
  /-- The number of tokens in front of it. -/
  token : Nat
  start : Cursor
  required : Bool

/-- Forgets a place that is too far back to be a key's. -/
def KeyPlace.fresh? (k : Cursor) : Option KeyPlace → Option (Option KeyPlace)
  | none => some none
  | some p =>
      if p.start.line < k.line ∨ p.start.index + 1024 < k.index then
        if p.required then none else some none
      else some (some p)

structure Layout where
  cursor : Cursor
  tokens : Array Token
  /-- The columns of the open blocks, the innermost first. -/
  columns : List Nat
  /-- A simple key may start here. -/
  keyAllowed : Bool
  /-- The place of a possible key inside the innermost open bracket. -/
  place : Option KeyPlace
  /-- The places inside the brackets around it. -/
  outer : List (Option KeyPlace)
  /-- The numbers of the anchors so far. -/
  anchors : Dict String Nat

namespace Layout

/-- In front of a text. -/
def start (cs : List Char) : Layout :=
  ⟨.start cs, #[], [], true, none, [], ∅⟩

def bracketed (l : Layout) : Bool := !l.outer.isEmpty

def emit (t : Token) (l : Layout) : Layout := { l with tokens := l.tokens.push t }

/-- A token of `n` characters. -/
def mark (n : Nat) (t : Token) (l : Layout) : Layout :=
  { l.emit t with cursor := l.cursor.skip n }

def allowKey (allowed : Bool) (l : Layout) : Layout := { l with keyAllowed := allowed }

/-! ## Between tokens -/

/-- Skips blanks, comments and line ends. Where a key may start, a tab is no
blank. A mark of the byte order at the start of a line takes up a column.
The first argument bounds the number of lines. -/
def skipBlank : Nat → Layout → Layout
  | 0, l => l
  | fuel + 1, l =>
      let k := l.cursor
      let k := if k.column = 0 ∧ k.rest.head? = some byteOrderMark then k.skip 1 else k
      let tabs := l.bracketed || !l.keyAllowed
      let k := (k.skipWhile fun c => c = ' ' || (tabs && c = '\t')).skipComment
      match k.takeBreak? with
      | none => { l with cursor := k }
      | some (_, k) =>
          skipBlank fuel { l with cursor := k, keyAllowed := l.keyAllowed || !l.bracketed }

/-! ## Open blocks -/

/-- Closes the blocks whose column is right of the given one. -/
def closeBlocks (column : Nat) (l : Layout) : Layout :=
  if l.bracketed then l
  else
    let closed := l.columns.takeWhile (column < ·)
    { l with
      columns := l.columns.drop closed.length
      tokens := l.tokens ++ closed.map fun _ => Token.blockEnd }

/-- Closes all blocks. -/
def closeAll (l : Layout) : Layout :=
  if l.bracketed then l
  else { l with columns := [], tokens := l.tokens ++ l.columns.map fun _ => Token.blockEnd }

/-- Puts tokens in front of the token with the given number. -/
def insert (number : Nat) (ts : List Token) (l : Layout) : Layout :=
  { l with tokens := l.tokens.extract 0 number ++ ts ++ l.tokens.extract number l.tokens.size }

/-- A column opens a block if it is right of those that are open. -/
def opensBlock (column : Nat) (l : Layout) : Bool :=
  !l.bracketed && l.columns.head?.all (· < column)

/-- Opens a block at the cursor, if its column does. -/
def openBlock (t : Token) (l : Layout) : Layout :=
  let column := l.cursor.column
  if l.opensBlock column then { l.emit t with columns := column :: l.columns } else l

/-! ## Simple keys -/

/-- Forgets the places that are too far back. -/
def freshKeys? (l : Layout) : Option Layout := do
  let place ← KeyPlace.fresh? l.cursor l.place
  let outer ← l.outer.mapM (KeyPlace.fresh? l.cursor)
  return { l with place, outer }

/-- Forgets the place of the innermost bracket. -/
def dropKey? (l : Layout) : Option Layout :=
  if l.place.any (·.required) then none else some { l with place := none }

/-- Remembers the cursor as the start of a possible key. -/
def saveKey? (l : Layout) : Option Layout :=
  if l.keyAllowed then do
    let required := !l.bracketed && l.columns.head? = some l.cursor.column
    let l ← l.dropKey?
    return { l with place := some ⟨l.tokens.size, l.cursor, required⟩ }
  else some l

/-! ## Tokens -/

/-- A document mark or a directive ends all blocks. -/
def endBlocks? (l : Layout) : Option Layout := l.closeAll.dropKey?.map (allowKey false)

def directive? (l : Layout) : Option Layout := do
  let l ← l.endBlocks?
  let (t, cursor) ← Yaml.directive? l.cursor
  return { l.emit t with cursor }

def documentMark? (t : Token) (l : Layout) : Option Layout := l.endBlocks?.map (mark 3 t)

def openFlow? (t : Token) (l : Layout) : Option Layout := do
  let l ← l.saveKey?
  return ({ l with place := none, outer := l.place :: l.outer }.allowKey true).mark 1 t

def closeFlow? (t : Token) (l : Layout) : Option Layout := do
  let l ← l.dropKey?
  let l := match l.outer with
    | [] => l
    | place :: outer => { l with place, outer }
  return (l.allowKey false).mark 1 t

def comma? (l : Layout) : Option Layout := do
  let l ← l.dropKey?
  return (l.allowKey true).mark 1 .comma

def dash? (l : Layout) : Option Layout := do
  if !l.bracketed && !l.keyAllowed then failure
  let l ← (l.openBlock .blockSequence).dropKey?
  return (l.allowKey true).mark 1 .dash

/-- A key written with a question mark. -/
def key? (l : Layout) : Option Layout := do
  if !l.bracketed && !l.keyAllowed then failure
  let l ← (l.openBlock .blockMapping).dropKey?
  return (l.allowKey (!l.bracketed)).mark 1 .key

/-- A colon turns what stands at the remembered place into a key. -/
def value? (l : Layout) : Option Layout :=
  match l.place with
  | some p =>
      let column := p.start.column
      let l :=
        if l.opensBlock column then
          { l.insert p.token [.blockMapping, .key] with columns := column :: l.columns }
        else l.insert p.token [.key]
      some ({ l.allowKey false with place := none }.mark 1 .value)
  | none => do
      if !l.bracketed && !l.keyAllowed then failure
      let l := l.openBlock .blockMapping
      return (l.allowKey (!l.bracketed)).mark 1 .value

/-- The name of an anchor or alias behind its mark. -/
def anchorName? (k : Cursor) : Option (String × Cursor) := do
  let (name, k) := (k.skip 1).takeWhile isNameChar
  let ended := atGap k.rest || k.rest.head?.any (· ∈ ['?', ':', ',', ']', '}', '%', '@', '\x60'])
  if name.isEmpty || !ended then failure
  return (.ofList name, k)

/-- Anchors are numbered by how many names are in use, and a name that is
used again gets a new number. -/
def anchor? (l : Layout) : Option Layout := do
  let l ← l.saveKey?
  let (name, cursor) ← anchorName? l.cursor
  let number := l.anchors.entries.length
  return ({ l.emit (.anchor number) with
    cursor, anchors := l.anchors.insert name number }).allowKey false

def alias? (l : Layout) : Option Layout := do
  let l ← l.saveKey?
  let (name, cursor) ← anchorName? l.cursor
  let number ← l.anchors.get? name
  return ({ l.emit (.alias number) with cursor }).allowKey false

def tag? (l : Layout) : Option Layout := do
  let l ← l.saveKey?
  let (t, cursor) ← Yaml.tag? l.bracketed l.cursor
  return ({ l.emit t with cursor }).allowKey false

def block? (style : ScalarStyle) (l : Layout) : Option Layout := do
  let l ← l.dropKey?
  let (text, cursor) ← Yaml.block? (style = .folded) l.columns.head? l.cursor
  return ({ l.emit (.scalar style (.ofList text)) with cursor }).allowKey true

def quoted? (style : ScalarStyle) (quote : QuoteMark) (l : Layout) : Option Layout := do
  let l ← l.saveKey?
  let (text, cursor) ← Yaml.quoted? quote l.cursor
  return ({ l.emit (.scalar style (.ofList text)) with cursor }).allowKey false

/-- A plain scalar. A line end behind it allows a key again. -/
def plain? (l : Layout) : Option Layout := do
  let l ← l.saveKey?
  let p ← Yaml.plain? l.bracketed (l.columns.head?.elim 0 (· + 1)) l.cursor
  return ({ l.emit (.scalar .plain (.ofList p.text)) with cursor := p.next }).allowKey p.ended

/-- The characters that cannot start a plain scalar. -/
def isIndicator (c : Char) : Bool :=
  c ∈ ['-', '?', ':', ',', '[', ']', '{', '}', '#', '&', '*', '!', '|', '>', '\'', '"', '%', '@',
    '\x60']

/-- A plain scalar may start here. A dash, question mark or colon starts one
if it is no mark of its own. -/
def atPlain (l : Layout) (c : Char) (r : List Char) : Bool :=
  !(isGap c || isBreak c || isIndicator c)
    || (c = '-' && !r.head?.any isGap)
    || (!l.bracketed && (c = '?' || c = ':') && !atGap r)

/-- The next token, which starts with `c`. -/
def next? (l : Layout) (c : Char) (r : List Char) : Option Layout :=
  if l.cursor.column = 0 && c = '%' then l.directive?
  else if l.cursor.atDocumentMark then
    l.documentMark? (if c = '-' then .documentStart else .documentEnd)
  else if c = '[' then l.openFlow? .openBracket
  else if c = '{' then l.openFlow? .openBrace
  else if c = ']' then l.closeFlow? .closeBracket
  else if c = '}' then l.closeFlow? .closeBrace
  else if c = ',' then l.comma?
  else if c = '-' && atGap r then l.dash?
  else if c = '?' && (l.bracketed || atGap r) then l.key?
  else if c = ':' && (l.bracketed || atGap r) then l.value?
  else if c = '*' then l.alias?
  else if c = '&' then l.anchor?
  else if c = '!' then l.tag?
  else if c = '|' && !l.bracketed then l.block? .literal
  else if c = '>' && !l.bracketed then l.block? .folded
  else if c = '\'' then l.quoted? .singleQuoted .single
  else if c = '"' then l.quoted? .doubleQuoted .double
  else if l.atPlain c r then l.plain?
  else none

/-- Reads tokens up to the end of the text. The first argument bounds their
number. -/
def run? : Nat → Layout → Option (Array Token)
  | 0, _ => none
  | fuel + 1, l => do
      let l ← (l.skipBlank (l.cursor.rest.length + 1)).freshKeys?
      let l := l.closeBlocks l.cursor.column
      match l.cursor.rest with
      | [] => l.endBlocks?.map (·.tokens)
      | c :: r => run? fuel (← l.next? c r)

end Layout

def Token.ofText? (s : String) : Option (List Token) :=
  let cs := s.toList
  if cs.all isAllowed then ((Layout.start cs).run? (cs.length + 1)).map (·.toList) else none

example : Token.ofText? "a:\n- b: [c]\n" = some
    [.blockMapping, .key, .scalar .plain "a", .value,
      .dash, .blockMapping, .key, .scalar .plain "b", .value,
      .openBracket, .scalar .plain "c", .closeBracket, .blockEnd, .blockEnd] := by
  decide +kernel

end JobLedger.Yaml
