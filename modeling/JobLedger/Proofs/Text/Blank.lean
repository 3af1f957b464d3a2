import JobLedger.Text.Blank
import Mathlib.Data.List.TakeWhile

/-!
# Trimming

A text is what `trimChars` leaves of it with blanks around it
(`exists_eq_trimChars`), and blanks around a text that neither begins nor ends
with one are all that is dropped (`trimChars_append`).
-/

namespace JobLedger

theorem dropWhile_blank_append {bs cs : List Char} (hbs : ∀ c ∈ bs, isBlank c = true)
    (hcs : ∀ c ∈ cs.head?, ¬isBlank c = true) : (bs ++ cs).dropWhile isBlank = cs := by
  rw [List.dropWhile_append_of_pos hbs]
  cases cs with
  | nil => rfl
  | cons c r => rw [List.dropWhile_cons_of_neg (hcs c rfl)]

theorem trimChars_append {before cs after : List Char} (hbefore : ∀ c ∈ before, isBlank c = true)
    (hafter : ∀ c ∈ after, isBlank c = true) (hhead : ∀ c ∈ cs.head?, ¬isBlank c = true)
    (hlast : ∀ c ∈ cs.getLast?, ¬isBlank c = true) :
    trimChars (before ++ cs ++ after) = cs := by
  cases cs with
  | nil =>
      have hall : ∀ c ∈ before ++ [] ++ after, isBlank c = true := by
        simpa [or_imp, forall_and] using And.intro hbefore hafter
      have hdrop : (before ++ [] ++ after).dropWhile isBlank = [] :=
        List.dropWhile_eq_nil_iff.mpr hall
      rw [trimChars, hdrop]
      rfl
  | cons c r =>
      have hfront : ∀ d ∈ (c :: r ++ after).head?, ¬isBlank d = true := hhead
      have hback : ∀ d ∈ (c :: r).reverse.head?, ¬isBlank d = true := by
        rwa [List.head?_reverse]
      have hafter' : ∀ d ∈ after.reverse, isBlank d = true := fun d hd =>
        hafter d (List.mem_reverse.mp hd)
      rw [trimChars, List.append_assoc, dropWhile_blank_append hbefore hfront, List.reverse_append,
        dropWhile_blank_append hafter' hback, List.reverse_reverse]

theorem exists_eq_trimChars (cs : List Char) :
    ∃ before after, cs = before ++ trimChars cs ++ after ∧
      (∀ c ∈ before, isBlank c = true) ∧ ∀ c ∈ after, isBlank c = true := by
  refine ⟨cs.takeWhile isBlank, ((cs.dropWhile isBlank).reverse.takeWhile isBlank).reverse,
    ?_, fun c hc => List.mem_takeWhile_imp hc,
    fun c hc => List.mem_takeWhile_imp (List.mem_reverse.mp hc)⟩
  rw [trimChars, List.append_assoc, ← List.reverse_append, List.takeWhile_append_dropWhile,
    List.reverse_reverse, List.takeWhile_append_dropWhile]

/-- A text that neither begins nor ends with a blank is left as it is. -/
theorem trimChars_eq_self {cs : List Char} (hhead : ∀ c ∈ cs.head?, ¬isBlank c = true)
    (hlast : ∀ c ∈ cs.getLast?, ¬isBlank c = true) : trimChars cs = cs := by
  have hnone : ∀ c ∈ ([] : List Char), isBlank c = true := nofun
  have h := trimChars_append hnone hnone hhead hlast
  rwa [List.nil_append, List.append_nil] at h

end JobLedger
