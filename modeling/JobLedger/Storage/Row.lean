import JobLedger.Dict
import JobLedger.Storage.Error

/-!
# Rows and cells

A row is a key with cells, addressed by family and qualifier; a cell holds
bytes and only its latest value. Cells are written one after another by
`Row.apply`, at once or in parts (`apply_append`), and the last write of a
cell wins (`get?_put`).
-/

namespace JobLedger

/-- A value to be written into a row. -/
structure Cell where
  family : String
  qualifier : String
  value : Bytes
deriving DecidableEq, Repr

def Cell.ofText (family qualifier text : String) : Cell := ⟨family, qualifier, Utf8.bytes text⟩

/-- A key and the latest value of each of its cells. -/
structure Row where
  key : String
  cells : Dict String (Dict String Bytes)
deriving DecidableEq

namespace Row

/-- The row without cells. -/
def empty (key : String) : Row := ⟨key, ∅⟩

/-- The cells of a family; none for a family without cells. -/
def familyDict (r : Row) (family : String) : Dict String Bytes := (r.cells.get? family).getD ∅

/-- Writes one cell. -/
def put (r : Row) (c : Cell) : Row :=
  { r with cells := r.cells.insert c.family ((r.familyDict c.family).insert c.qualifier c.value) }

/-- Writes cells in order. -/
def apply (r : Row) (cells : List Cell) : Row := cells.foldl put r

def get? (r : Row) (family qualifier : String) : Option Bytes :=
  (r.cells.get? family).bind (·.get? qualifier)

def contains (r : Row) (family qualifier : String) : Bool := (r.get? family qualifier).isSome

/-- The text of a cell. A cell that holds no text is a fault of the stored
data. -/
def getText (r : Row) (family qualifier : String) : Except StoredFault (Option String) :=
  match r.get? family qualifier with
  | none => .ok none
  | some value =>
      match Utf8.decode value with
      | .ok s => .ok (some s)
      | .error fault => .error (.cellNotText r.key family qualifier fault)

/-- The cells of a family in the order of their qualifiers. -/
def family (r : Row) (name : String) : List (String × Bytes) := (r.familyDict name).entries

@[simp] theorem key_put (r : Row) (c : Cell) : (r.put c).key = r.key := rfl

@[simp] theorem key_apply (r : Row) (cells : List Cell) : (r.apply cells).key = r.key := by
  induction cells generalizing r with
  | nil => rfl
  | cons c cs ih => exact ih (r.put c)

theorem apply_append (r : Row) (cs ds : List Cell) :
    r.apply (cs ++ ds) = (r.apply cs).apply ds := List.foldl_append

theorem get?_put (r : Row) (c : Cell) (family qualifier : String) :
    (r.put c).get? family qualifier =
      if c.family = family ∧ c.qualifier = qualifier then some c.value
      else r.get? family qualifier := by
  unfold get? put familyDict
  rw [Dict.get?_insert]
  by_cases hf : c.family = family
  · subst hf
    simp only [if_true, Option.bind_some, true_and, Dict.get?_insert]
    cases r.cells.get? c.family <;> simp
  · simp [hf]

end Row

end JobLedger
