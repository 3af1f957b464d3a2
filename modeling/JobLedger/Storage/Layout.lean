import JobLedger.Json.Decode
import JobLedger.Json.Printer
import JobLedger.Storage.Row

/-!
# Table layouts

The name of a table and the column families that its rows may have. A
write to any other family is refused before anything is written.
-/

namespace JobLedger

structure TableLayout where
  name : String
  families : List String
  description : String
deriving DecidableEq, Repr

namespace TableLayout

def hasFamily (l : TableLayout) (family : String) : Bool := family ∈ l.families

/-- Refuses the first cell of a family that the layout does not declare. -/
def checkCells (l : TableLayout) (cells : List Cell) : Except StoreError Unit :=
  match cells.find? fun c => !l.hasFamily c.family with
  | some c => .error (.unknownFamily l.name c.family)
  | none => .ok ()

def toJson (l : TableLayout) : Json :=
  .object [
    ("name", .text l.name),
    ("families", .arr (l.families.map .text)),
    ("description", .text l.description)]

/-- A layout may leave its description out. -/
def ofJson? (j : Json) : Option TableLayout := do
  let fs ← j.fields? ["name", "families", "description"]
  return {
    name := ← fs.required "name" Json.text?
    families := ← fs.required "families" (Json.list? Json.text?)
    description := ← fs.orElse "description" "" Json.text? }

theorem checkCells_eq_ok_iff {l : TableLayout} {cells : List Cell} :
    l.checkCells cells = .ok () ↔ ∀ c ∈ cells, c.family ∈ l.families := by
  unfold checkCells
  cases h : cells.find? fun c => !l.hasFamily c.family with
  | none => simpa [hasFamily] using h
  | some c =>
      have hc := List.find?_some h
      have hm := List.mem_of_find?_eq_some h
      simp only [hasFamily, Bool.not_eq_eq_eq_not, Bool.not_true, decide_eq_false_iff_not] at hc
      simp only [reduceCtorEq, false_iff]
      exact fun hall => hc (hall c hm)

end TableLayout

end JobLedger
