import JobLedger.Proofs.Dict
import JobLedger.Storage.Row
import Mathlib.Data.List.Induction

/-!
# What writes make of a row

A write puts its cells into their families (`familyDict_put`) and leaves
every other family as it is (`familyDict_apply_of_ne`). So a row has the
families that were ever written into it (`contains_apply`), and in each
place the value that was written there last (`get?_apply`).
-/

namespace JobLedger

/-! ## The last value of a cell -/

def Cell.isAt (family qualifier : String) (c : Cell) : Bool :=
  c.family = family ∧ c.qualifier = qualifier

/-- What cells say last about one place of a row. -/
def lastValue? (cells : List Cell) (family qualifier : String) : Option Bytes :=
  (cells.filter (·.isAt family qualifier)).getLast?.map (·.value)

theorem lastValue?_append (cs ds : List Cell) (family qualifier : String) :
    lastValue? (cs ++ ds) family qualifier =
      (lastValue? ds family qualifier).or (lastValue? cs family qualifier) := by
  rw [lastValue?, List.filter_append, List.getLast?_append, Option.map_or]
  rfl

theorem lastValue?_singleton (c : Cell) (family qualifier : String) :
    lastValue? [c] family qualifier =
      if c.family = family ∧ c.qualifier = qualifier then some c.value else none := by
  by_cases h : c.family = family ∧ c.qualifier = qualifier <;> simp [lastValue?, Cell.isAt, h]

/-- Cells may be left out by their qualifiers. -/
theorem lastValue?_filter (cells : List Cell) (p : String → Bool) (family qualifier : String) :
    lastValue? (cells.filter fun c => p c.qualifier) family qualifier =
      if p qualifier then lastValue? cells family qualifier else none := by
  have hfilter : (cells.filter fun c => p c.qualifier).filter (·.isAt family qualifier) =
      (cells.filter (·.isAt family qualifier)).filter fun _ => p qualifier := by
    rw [List.filter_filter, List.filter_filter]
    refine List.filter_congr fun c _ => ?_
    by_cases hq : c.qualifier = qualifier <;> simp [Cell.isAt, hq, Bool.and_comm]
  rw [lastValue?, hfilter]
  cases hp : p qualifier <;> simp [lastValue?]

namespace Row

theorem get?_apply (r : Row) (cells : List Cell) (family qualifier : String) :
    (r.apply cells).get? family qualifier =
      (lastValue? cells family qualifier).or (r.get? family qualifier) := by
  induction cells using List.reverseRecOn with
  | nil => rfl
  | append_singleton cs c ih =>
      have hput : r.apply (cs ++ [c]) = (r.apply cs).put c := Row.apply_append r cs [c]
      rw [hput, Row.get?_put, ih, lastValue?_append, lastValue?_singleton]
      split <;> rfl

/-! ## Families -/

theorem familyDict_put (r : Row) (c : Cell) (family : String) :
    (r.put c).familyDict family =
      if c.family = family then (r.familyDict family).insert c.qualifier c.value
      else r.familyDict family := by
  unfold put
  rw [familyDict, Dict.get?_insert]
  split
  · next h => rw [← h, Option.getD_some]
  · rfl

theorem familyDict_apply_of_ne {cells : List Cell} {family : String}
    (h : ∀ c ∈ cells, c.family ≠ family) (r : Row) :
    (r.apply cells).familyDict family = r.familyDict family := by
  induction cells generalizing r with
  | nil => rfl
  | cons c cs ih =>
      have hcons : r.apply (c :: cs) = (r.put c).apply cs := rfl
      rw [hcons, ih fun c hc => h c (List.mem_cons_of_mem _ hc), familyDict_put,
        if_neg (h c (List.mem_cons_self ..))]

theorem get?_familyDict (r : Row) (family qualifier : String) :
    (r.familyDict family).get? qualifier = r.get? family qualifier := by
  rw [familyDict, get?]
  cases r.cells.get? family <;> rfl

theorem get?_apply_of_ne {cells : List Cell} {family : String}
    (h : ∀ c ∈ cells, c.family ≠ family) (r : Row) (qualifier : String) :
    (r.apply cells).get? family qualifier = r.get? family qualifier := by
  rw [← get?_familyDict, familyDict_apply_of_ne h, get?_familyDict]

theorem contains_put (r : Row) (c : Cell) (family : String) :
    (r.put c).cells.contains family = true ↔
      c.family = family ∨ r.cells.contains family = true := by
  unfold put
  rw [Dict.contains, Dict.get?_insert, Dict.contains]
  split
  · next h => simp [h]
  · next h => simp [h]

/-- The families of a row are those that were written. -/
theorem contains_apply {cells : List Cell} {r : Row} {family : String} :
    (r.apply cells).cells.contains family = true ↔
      r.cells.contains family = true ∨ ∃ c ∈ cells, c.family = family := by
  induction cells generalizing r with
  | nil => simp [apply]
  | cons c cs ih =>
      have hcons : r.apply (c :: cs) = (r.put c).apply cs := rfl
      have hmem : (∃ c' ∈ c :: cs, c'.family = family) ↔
          c.family = family ∨ ∃ c' ∈ cs, c'.family = family := by simp
      rw [hcons, ih, contains_put, hmem, or_assoc, or_left_comm]

/-- A family of a written row was there before or is written. -/
theorem contains_getD_apply {row? : Option Row} {key : String} {cells : List Cell}
    {family : String}
    (h : ((row?.getD (.empty key)).apply cells).cells.contains family = true) :
    (∃ r, row? = some r ∧ r.cells.contains family = true) ∨ ∃ c ∈ cells, c.family = family := by
  rcases contains_apply.mp h with h | h
  · cases row? with
    | none => exact nomatch h
    | some r => exact .inl ⟨r, rfl, h⟩
  · exact .inr h

end Row

end JobLedger
