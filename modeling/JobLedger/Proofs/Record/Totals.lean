import JobLedger.Record.Counters
import Mathlib.Algebra.BigOperators.Group.List.Basic
import Mathlib.Algebra.Ring.Int.Defs

/-!
# What counters add up to

However amounts are added to counters, one by one or gathered in counters of
their own first, each counter ends up with the sum of the amounts for its name
(`get_addAll`, `get_merge`), and exactly the names that were added to are
present (`contains_addAll`, `contains_merge`). So counters that are gathered
and merged are the counters that were added to directly (`merge_addAll`).

Sums are taken in the integers. A counter holds their remainder of 64 bits,
which is the sum itself as long as that fits (`toInt_ofInt_of_fits`).
-/

namespace JobLedger.Counters

/-- Adds amounts one after the other. -/
def addAll (c : Counters) (amounts : List (String × Int64)) : Counters :=
  amounts.foldl (fun c e => c.increment e.1 e.2) c

/-- The sum of the amounts for one counter. -/
def total (name : String) (amounts : List (String × Int64)) : Int :=
  (amounts.map fun e => if e.1 = name then e.2.toInt else 0).sum

/-- The sum is a signed number of 64 bits. -/
def Fits (n : Int) : Prop := -2 ^ 63 ≤ n ∧ n < 2 ^ 63

instance (n : Int) : Decidable (Fits n) := inferInstanceAs (Decidable (_ ∧ _))

theorem toInt_ofInt_of_fits {n : Int} (h : Fits n) : (Int64.ofInt n).toInt = n :=
  Int64.toInt_ofInt_of_le h.1 h.2

theorem total_cons (name : String) (e : String × Int64) (amounts : List (String × Int64)) :
    total name (e :: amounts) = (if e.1 = name then e.2.toInt else 0) + total name amounts := by
  unfold total
  rw [List.map_cons, List.sum_cons]

theorem total_append (name : String) (l l' : List (String × Int64)) :
    total name (l ++ l') = total name l + total name l' := by
  unfold total
  rw [List.map_append, List.sum_append]

theorem total_flatMap {α : Type} (name : String) (f : α → List (String × Int64)) (l : List α) :
    total name (l.flatMap f) = (l.map fun a => total name (f a)).sum := by
  induction l with
  | nil => rfl
  | cons a r ih => rw [List.flatMap_cons, total_append, ih, List.map_cons, List.sum_cons]

/-- Amounts of one are counted. -/
theorem total_eq_countP (name : String) {amounts : List (String × Int64)}
    (h : ∀ e ∈ amounts, e.2 = 1) : total name amounts = amounts.countP (·.1 = name) := by
  induction amounts with
  | nil => rfl
  | cons e r ih =>
      obtain ⟨hone, hr⟩ := List.forall_mem_cons.mp h
      rw [total_cons, ih hr, hone, List.countP_cons]
      by_cases hname : e.1 = name
      · rw [if_pos hname, if_pos (decide_eq_true hname), Int.natCast_add, Int.add_comm]
        rfl
      · rw [if_neg hname, if_neg (by simpa using hname), Int.zero_add, Nat.add_zero]

/-- Zeros add up to nothing. -/
theorem total_map_zero (name : String) (names : List String) :
    total name (names.map fun n => (n, 0)) = 0 := by
  induction names with
  | nil => rfl
  | cons n r ih =>
      rw [List.map_cons, total_cons, ih]
      split <;> rfl

/-! ## One amount -/

/-- Counters with the same names and the same values are the same. -/
theorem ext_get {c c' : Counters} (hget : ∀ name, c.get name = c'.get name)
    (hcontains : ∀ name, c.contains name = c'.contains name) : c = c' := by
  obtain ⟨d⟩ := c
  obtain ⟨d'⟩ := c'
  have hvalues : d = d' := Dict.ext_get? fun name => by
    have hg := hget name
    have hc := hcontains name
    unfold get at hg
    unfold contains Dict.contains at hc
    cases hd : d.get? name <;> cases hd' : d'.get? name <;> simp_all
  rw [hvalues]

theorem get_increment (c : Counters) (name name' : String) (amount : Int64) :
    (c.increment name amount).get name' =
      c.get name' + Int64.ofInt (if name = name' then amount.toInt else 0) := by
  unfold increment set get
  rw [Dict.get?_insert]
  by_cases h : name = name'
  · rw [if_pos h, if_pos h, h, Int64.ofInt_toInt, Option.getD_some]
  · rw [if_neg h, if_neg h]
    exact (Int64.add_zero _).symm

theorem contains_increment (c : Counters) (name name' : String) (amount : Int64) :
    (c.increment name amount).contains name' = (decide (name = name') || c.contains name') := by
  unfold increment set contains Dict.contains
  rw [Dict.get?_insert]
  by_cases h : name = name' <;> simp [h]

/-! ## Any number of amounts -/

theorem addAll_append (c : Counters) (l l' : List (String × Int64)) :
    c.addAll (l ++ l') = (c.addAll l).addAll l' := List.foldl_append

theorem get_addAll (c : Counters) (amounts : List (String × Int64)) (name : String) :
    (c.addAll amounts).get name = c.get name + Int64.ofInt (total name amounts) := by
  induction amounts generalizing c with
  | nil => exact (Int64.add_zero _).symm
  | cons e r ih =>
      have hrest := ih (c.increment e.1 e.2)
      rw [get_increment, Int64.add_assoc, ← Int64.ofInt_add, ← total_cons] at hrest
      exact hrest

theorem contains_addAll {c : Counters} {amounts : List (String × Int64)} {name : String} :
    (c.addAll amounts).contains name = true ↔
      c.contains name = true ∨ ∃ e ∈ amounts, e.1 = name := by
  induction amounts generalizing c with
  | nil => simp [addAll]
  | cons e r ih =>
      have hrest : (c.addAll (e :: r)).contains name = true ↔ _ := ih (c := c.increment e.1 e.2)
      rw [hrest, contains_increment, List.exists_mem_cons_iff, Bool.or_eq_true, decide_eq_true_eq]
      tauto

theorem get_empty (name : String) : empty.get name = 0 := rfl

theorem contains_empty (name : String) : empty.contains name = false := rfl

/-! ## Merging -/

/-- Among the entries of counters, a name stands once, with its value. -/
theorem total_toList (c : Counters) (name : String) : total name c.toList = (c.get name).toInt := by
  obtain ⟨⟨l, hl⟩⟩ := c
  unfold get toList Dict.get?
  simp only
  induction l with
  | nil => rfl
  | cons e r ih =>
      obtain ⟨he, hr⟩ := List.pairwise_cons.mp hl
      have hrest := ih hr
      rw [total_cons]
      by_cases h : e.1 = name
      · have hnone : r.find? (·.1 = name) = none := by
          refine List.find?_eq_none.mpr fun e' he' => ?_
          have hlt := he e' he'
          rw [h] at hlt
          simpa using fun heq : e'.1 = name => KeyOrder.irrefl name (heq ▸ hlt)
        rw [hnone] at hrest
        rw [if_pos h, hrest, List.find?_cons_of_pos (by simpa using h)]
        simp
      · rw [if_neg h, Int.zero_add, hrest, List.find?_cons_of_neg (by simpa using h)]

theorem contains_iff_mem_toList {c : Counters} {name : String} :
    c.contains name = true ↔ ∃ e ∈ c.toList, e.1 = name := by
  unfold contains Dict.contains toList
  rw [Option.isSome_iff_exists]
  constructor
  · rintro ⟨v, hv⟩
    exact ⟨(name, v), Dict.get?_eq_some_iff.mp hv, rfl⟩
  · rintro ⟨⟨_, v⟩, he, rfl⟩
    exact ⟨v, Dict.get?_eq_some_iff.mpr he⟩

theorem merge_eq_addAll (c c' : Counters) : c.merge c' = c.addAll c'.toList := rfl

theorem get_merge (c c' : Counters) (name : String) :
    (c.merge c').get name = c.get name + c'.get name := by
  rw [merge_eq_addAll, get_addAll, total_toList, Int64.ofInt_toInt]

theorem contains_merge {c c' : Counters} {name : String} :
    (c.merge c').contains name = true ↔ c.contains name = true ∨ c'.contains name = true := by
  rw [merge_eq_addAll, contains_addAll, contains_iff_mem_toList (c := c')]

/-- Amounts may be gathered first and merged then. -/
theorem merge_addAll (c : Counters) (amounts : List (String × Int64)) :
    c.merge (empty.addAll amounts) = c.addAll amounts := by
  refine ext_get (fun name => ?_) fun name => ?_
  · rw [get_merge, get_addAll, get_addAll, get_empty, Int64.zero_add]
  · rw [Bool.eq_iff_iff, contains_merge, contains_addAll, contains_addAll, contains_empty]
    simp

theorem addAll_toList (c : Counters) : empty.addAll c.toList = c := by
  refine ext_get (fun name => ?_) fun name => ?_
  · rw [get_addAll, total_toList, Int64.ofInt_toInt, get_empty, Int64.zero_add]
  · rw [Bool.eq_iff_iff, contains_addAll, contains_empty, ← contains_iff_mem_toList]
    simp

end JobLedger.Counters
