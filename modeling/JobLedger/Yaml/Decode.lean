import JobLedger.Dict
import JobLedger.Fields
import JobLedger.Text.Numeral
import JobLedger.Yaml.Node

/-!
# Typed reading of YAML nodes

Each reader accepts the nodes of one type and fails on any other. What is
read decides what a scalar means: every scalar is a text, and only a plain
one can be a truth value, a number or absent - or a literal block with the
tag of the type. A missing node reads as an empty list, an empty mapping or
an absent value.

The readers take the whole document, in which they look up aliases. A few
nodes can stand for very many values when aliases lead to aliases, so a
reading may follow a hundred aliases for each part of the document and no
more (`Document.allowance`).
-/

namespace JobLedger.Yaml

mutual

/-- The last node with an anchor of the given number. -/
def Node.anchored? (n : Nat) : Node → Option Node
  | .scalar a s => if a = some n then some (.scalar a s) else none
  | .list a items =>
      anchoredItem? n items <|> if a = some n then some (.list a items) else none
  | .mapping a members =>
      anchoredMember? n members <|> if a = some n then some (.mapping a members) else none
  | .alias _ => none

/-- The last such node among items. -/
def anchoredItem? (n : Nat) : List Node → Option Node
  | [] => none
  | item :: items => anchoredItem? n items <|> item.anchored? n

/-- The last such node among members. -/
def anchoredMember? (n : Nat) : List (Node × Node) → Option Node
  | [] => none
  | (k, v) :: members => anchoredMember? n members <|> v.anchored? n <|> k.anchored? n

end

mutual

/-- The number of parts of a node: its scalars, its aliases, and the two
ends of its collections. -/
def Node.size : Node → Nat
  | .scalar _ _ => 1
  | .list _ items => itemsSize items + 2
  | .mapping _ members => membersSize members + 2
  | .alias _ => 1

/-- The number of parts of items. -/
def itemsSize : List Node → Nat
  | [] => 0
  | item :: items => item.size + itemsSize items

/-- The number of parts of members. -/
def membersSize : List (Node × Node) → Nat
  | [] => 0
  | (k, v) :: members => k.size + v.size + membersSize members

end

/-- A reading that may fail, and that knows how many aliases it may still
follow. -/
abbrev Reading := StateT Nat Option

/-- A document is known by its root. -/
structure Document where
  root : Node

namespace Document

/-- Reads a text as a single document. -/
def ofText? (s : String) : Option Document := do
  let tokens ← Token.ofText? s
  return ⟨← Node.document? tokens⟩

/-- The number of aliases that a reading of the document may follow. -/
def allowance (d : Document) : Nat := 100 * d.root.size

/-- The result of a reading of the document. -/
def run? {α : Type} (d : Document) (r : Reading α) : Option α := StateT.run' r d.allowance

/-- The node that an alias stands for; any other node stands for itself. -/
def target? (d : Document) : Node → Reading Node
  | .alias n => do
      let left ← get
      if left = 0 then failure
      set (left - 1)
      StateT.lift (d.root.anchored? n)
  | node => return node

end Document

namespace Scalar

def nullTag : Bytes := Utf8.bytes "tag:yaml.org,2002:null"
def boolTag : Bytes := Utf8.bytes "tag:yaml.org,2002:bool"
def intTag : Bytes := Utf8.bytes "tag:yaml.org,2002:int"

def nullWords : List String := ["null", "Null", "NULL", "~"]
def trueWords : List String := ["true", "True", "TRUE"]
def falseWords : List String := ["false", "False", "FALSE"]

/-- A node that is not written, or a scalar that might as well be. -/
def isMissing (s : Scalar) : Bool := s.style = .plain && s.text = ""

/-- The scalar may be a value of the type with the given tag. -/
def mayBe (s : Scalar) (tag : Bytes) : Bool :=
  s.style = .plain || (s.style = .literal && s.tag = some tag)

/-- The scalar stands for an absent value; `none` if its tag says so and its
text does not. -/
def isNull? (s : Scalar) : Option Bool :=
  if s.style ≠ .plain then some false
  else match s.tag with
    | none => some (s.text = "" || s.text ∈ nullWords)
    | some t =>
        if t ≠ nullTag then some false
        else if s.text ∈ nullWords then some true
        else none

/-- Decimal digits behind a leading zero are no number. -/
def hasLeadingZero (ds : List Char) : Bool :=
  match ds with
  | '0' :: d :: r => (d :: r).all Char.isDigit
  | _ => false

/-- A number without its own sign. -/
def unsigned? (base : Nat) (cs : List Char) : Option Nat :=
  if cs.head? = some '+' then none else (Numeral.read base Numeral.maxWord cs).toOption

/-- A number of 64 bits in decimal, hexadecimal, octal or binary digits. -/
def number? (s : Scalar) : Option Nat :=
  let cs := match s.text.toList with
    | '+' :: r => r
    | cs => cs
  match cs with
  | '0' :: 'x' :: r => unsigned? 16 r
  | '0' :: 'o' :: r => unsigned? 8 r
  | '0' :: 'b' :: r => unsigned? 2 r
  | cs => if hasLeadingZero cs then none else unsigned? 10 cs

end Scalar

namespace Document

variable {α : Type} (d : Document)

def scalar? (n : Node) : Reading Scalar := do
  match ← d.target? n with
  | .scalar _ s => return s
  | _ => failure

def text? (n : Node) : Reading String := return (← d.scalar? n).text

def bool? (n : Node) : Reading Bool := do
  let s ← d.scalar? n
  if !s.mayBe Scalar.boolTag then failure
  if s.text ∈ Scalar.trueWords then return true
  if s.text ∈ Scalar.falseWords then return false
  failure

/-- A count, bounded like a number of 64 bits. -/
def count? (n : Node) : Reading Nat := do
  let s ← d.scalar? n
  if !s.mayBe Scalar.intTag then failure
  StateT.lift s.number?

/-- A number of 64 bits. -/
def word? (n : Node) : Reading UInt64 := return UInt64.ofNat (← d.count? n)

/-- A value or none. -/
def nullable? (read : Node → Reading α) (n : Node) : Reading (Option α) := do
  match ← d.target? n with
  | .scalar a s =>
      if ← StateT.lift s.isNull? then return none
      else return some (← read (.scalar a s))
  | n => return some (← read n)

def list? (read : Node → Reading α) (n : Node) : Reading (List α) := do
  match ← d.target? n with
  | .list _ items => items.mapM read
  | .scalar _ s => if s.isMissing then return [] else failure
  | _ => failure

/-- The members of a mapping with texts as keys. -/
def members? (n : Node) : Reading (List (String × Node)) := do
  match ← d.target? n with
  | .mapping _ members => members.mapM fun m => return (← d.text? m.1, m.2)
  | .scalar _ s => if s.isMissing then return [] else failure
  | _ => failure

/-- A mapping with arbitrary keys. A later member of a key wins. -/
def dict? (read : Node → Reading α) (n : Node) : Reading (Dict String α) := do
  let members ← d.members? n
  let entries ← members.mapM fun m => return (m.1, ← read m.2)
  return .ofList entries

/-- The declared fields of a record. -/
def fields? (declared : List String) (n : Node) : Reading (Fields Node) := do
  StateT.lift (Fields.named? declared (← d.members? n))

end Document

end JobLedger.Yaml
