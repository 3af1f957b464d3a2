import JobLedger.Json.Decode
import JobLedger.Record.Counters

/-!
# Producers

A producer turns one input row into values for one output column. It names
the columns it reads, and it is given no others: the engine hands it the
row restricted to them (`InputRow.project`).

What a producer does with a row is an `Emission`: the values it emits in
order, the counters it adds to, and a failure if it gives up.
-/

namespace JobLedger

/-- One input row: a key and texts by `family:qualifier`. -/
structure InputRow where
  key : String
  columns : Dict String String
deriving DecidableEq

def columnName (family qualifier : String) : String := s!"{family}:{qualifier}"

namespace InputRow

def get? (r : InputRow) (column : String) : Option String := r.columns.get? column

def contains (r : InputRow) (column : String) : Bool := r.columns.contains column

/-- The row restricted to the requested columns. -/
def project (r : InputRow) (request : List String) : InputRow where
  key := r.key
  columns := .ofList (request.filterMap fun c => (r.get? c).map fun v => (c, v))

def toJson (r : InputRow) : Json :=
  .object [("key", .text r.key), ("columns", Json.ofDict .text r.columns)]

/-- A row may leave its columns out. -/
def ofJson? (j : Json) : Option InputRow := do
  let fs ← j.fields? ["key", "columns"]
  return {
    key := ← fs.required "key" Json.text?
    columns := ← fs.orElse "columns" ∅ (Json.dict? Json.text?) }

end InputRow

/-- What a producer does with one row. -/
structure Emission where
  values : List String
  counters : Counters
  /-- Why the producer gave up, if it did. -/
  failure : Option String

namespace Emission

/-- Nothing emitted and nothing counted. -/
def none : Emission := ⟨[], .empty, .none⟩

def value (v : String) : Emission := ⟨[v], .empty, .none⟩

def count (name : String) : Emission := ⟨[], Counters.empty.increment name 1, .none⟩

def fail (message : String) : Emission := ⟨[], .empty, some message⟩

end Emission

/-- A function from rows to emissions, with its name and its columns. -/
structure Producer where
  name : String
  /-- The columns it reads. -/
  request : List String
  /-- The column its values belong to. -/
  outputColumn : String
  produce : InputRow → Emission

end JobLedger
