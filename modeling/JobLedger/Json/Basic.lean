/-!
# JSON values

The value type of the stored texts: counters, configurations, table
layouts, row files and job records are all JSON.

Two decisions are about texts that other programs may have written:

* An integer is a value of its own. A number token with a fraction or an
  exponent, and `-0`, is kept as its text: no field of ours reads one.
* A string token may spell no text, when it escapes one half of a
  surrogate pair. Such a token is well formed, so it may stand where a
  reader ignores it; it is `str none` here, and no text field accepts it.
-/

namespace JobLedger

inductive Json
  | null
  | bool (value : Bool)
  | int (value : Int)
  /-- A number token that is no plain integer. -/
  | real (token : String)
  /-- A string token with the text it spells, if it spells one. -/
  | str (text : Option String)
  | arr (items : List Json)
  /-- Members in the order written; a key may occur more than once. -/
  | obj (members : List (Option String × Json))
deriving Repr, Inhabited

namespace Json

/-- A string value. -/
def text (s : String) : Json := .str (some s)

/-- An object with readable keys. -/
def object (members : List (String × Json)) : Json :=
  .obj (members.map fun m => (some m.1, m.2))

/-- An optional value, absent as `null`. -/
def ofOption {α : Type} (f : α → Json) : Option α → Json
  | none => .null
  | some a => f a

end Json

end JobLedger
