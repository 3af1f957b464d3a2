import JobLedger.Dict
import Mathlib.Data.List.Induction

/-!
# More about dictionaries

A sorted list of entries is its own dictionary (`entries_ofList`), so a
dictionary that is written entry by entry and read entry by entry comes
back as it was (`ofList_entries`). The other lemmas say what is found under
a key after each operation.
-/

namespace JobLedger.Dict

section Lookup

variable {κ β γ : Type} [LT κ] [DecidableEq κ]

theorem get?_mapValues (f : κ → β → γ) (d : Dict κ β) (k : κ) :
    (d.mapValues f).get? k = (d.get? k).map (f k) := by
  obtain ⟨l, hl⟩ := d
  simp only [get?, mapValues]
  clear hl
  induction l with
  | nil => rfl
  | cons e r ih =>
      by_cases h : e.1 = k
      · simp [h]
      · simpa [List.find?_cons, h] using ih

omit [DecidableEq κ] in
/-- Keys that contribute nothing may be left out. -/
theorem filterMap_keys_filter (g : κ → Option γ) (d : Dict κ β) :
    (d.filter fun k _ => (g k).isSome).keys.filterMap g = d.keys.filterMap g := by
  rw [keys, keys, List.filterMap_map, List.filterMap_map, filter, List.filterMap_filter]
  refine congrArg (List.filterMap · d.entries) (funext fun e => ?_)
  cases he : g e.1 <;> simp [he]

end Lookup

section Ordered

variable {κ β γ : Type} [LT κ] [DecidableEq κ] [DecidableLT κ] [KeyOrder κ]

/-! ## Lists of entries -/

omit [DecidableEq κ] in
/-- An entry behind all others goes to the end. -/
theorem insertEntry_of_lt (k : κ) (v : β) :
    ∀ {l : List (κ × β)}, (∀ e ∈ l, e.1 < k) → insertEntry k v l = l ++ [(k, v)]
  | [], _ => rfl
  | e :: r, h => by
      have he : e.1 < k := h e (List.mem_cons_self ..)
      have hne : ¬k < e.1 := fun hk => KeyOrder.irrefl _ (KeyOrder.trans hk he)
      rw [insertEntry, if_neg hne, if_pos he,
        insertEntry_of_lt k v fun e he => h e (List.mem_cons_of_mem _ he), List.cons_append]

omit [DecidableEq κ] in
theorem entries_foldl_insert :
    ∀ (l : List (κ × β)) (d : Dict κ β), (d.entries ++ l).Pairwise (fun a b => a.1 < b.1) →
      (l.foldl (fun d e => d.insert e.1 e.2) d).entries = d.entries ++ l
  | [], d, _ => (List.append_nil _).symm
  | e :: r, d, h => by
      have hlt : ∀ a ∈ d.entries, a.1 < e.1 := fun a ha =>
        (List.pairwise_append.mp h).2.2 a ha e (List.mem_cons_self ..)
      have hins : (d.insert e.1 e.2).entries = d.entries ++ [e] := insertEntry_of_lt e.1 e.2 hlt
      rw [List.foldl_cons, entries_foldl_insert r, hins, List.append_assoc, List.singleton_append]
      rw [hins, List.append_assoc]
      exact h

omit [DecidableEq κ] in
theorem entries_ofList {l : List (κ × β)} (h : l.Pairwise (fun a b => a.1 < b.1)) :
    (ofList l).entries = l := entries_foldl_insert l ∅ h

omit [DecidableEq κ] in
theorem ofList_entries (d : Dict κ β) : ofList d.entries = d := ext (entries_ofList d.sorted)

omit [DecidableEq κ] in
/-- Entries that keep their keys and change their values. -/
theorem ofList_map (f : κ → β → γ) (d : Dict κ β) :
    ofList (d.entries.map fun e => (e.1, f e.1 e.2)) = d.mapValues f :=
  ofList_entries (d.mapValues f)

/-! ## Lookups -/

theorem get?_update (d : Dict κ β) (k k' : κ) (f : Option β → β) :
    (d.update k f).get? k' = if k = k' then some (f (d.get? k)) else d.get? k' :=
  get?_insert d k k' (f (d.get? k))

theorem get?_after (d : Dict κ β) (k k' : κ) :
    (d.after k).get? k' = if k < k' then d.get? k' else none := by
  rw [after, get?_filter]
  by_cases h : k < k'
  · cases d.get? k' <;> simp [h]
  · cases d.get? k' <;> simp [h]

/-- Entries that are all taken from one function. -/
theorem get?_ofList_of_forall {f : κ → Option β} {l : List (κ × β)}
    (h : ∀ e ∈ l, f e.1 = some e.2) (k : κ) :
    (ofList l).get? k = if k ∈ l.map Prod.fst then f k else none := by
  induction l using List.reverseRecOn with
  | nil => rfl
  | append_singleton l e ih =>
      have hlast := h e (List.mem_append_right _ (List.mem_singleton_self e))
      have hinit := ih fun e' he' => h e' (List.mem_append_left _ he')
      have hstored : ofList (l ++ [e]) = (ofList l).insert e.1 e.2 := List.foldl_append ..
      rw [hstored, get?_insert, hinit]
      by_cases hk : e.1 = k
      · simp [hk, ← hlast]
      · have hmem : k ∈ (l ++ [e]).map Prod.fst ↔ k ∈ l.map Prod.fst := by simp [Ne.symm hk]
        simp only [hmem, if_neg hk]

/-! ## Keys -/

omit [DecidableLT κ] in
/-- Dictionaries may differ in keys that contribute nothing. -/
theorem filterMap_keys_congr {g : κ → Option γ} {d e : Dict κ β}
    (h : ∀ k, g k ≠ none → d.get? k = e.get? k) :
    d.keys.filterMap g = e.keys.filterMap g := by
  have hfilter : (d.filter fun k _ => (g k).isSome) = e.filter fun k _ => (g k).isSome := by
    refine ext_get? fun k => ?_
    rw [get?_filter, get?_filter]
    cases hk : g k with
    | none => cases d.get? k <;> cases e.get? k <;> rfl
    | some c => rw [h k (by simp [hk])]
  rw [← filterMap_keys_filter g d, hfilter, filterMap_keys_filter g e]

end Ordered

end JobLedger.Dict
