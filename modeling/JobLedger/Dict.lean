/-!
# Sorted dictionaries

A `Dict κ β` is a finite map kept as a list of entries in strictly
increasing key order. Every ordered view of the ledger - counters,
configuration entries, row cells, tables, the directory tree - is one of
these, so "in key order" is a property of the type and never of a caller.

Two dictionaries with the same lookups are equal (`Dict.ext_get?`): the
list is a canonical form, which is what lets round trips be stated as
equations.

Strings compare by code point. That is also the order of their UTF-8
encodings, so it is the byte order in which rows and files are listed.
-/

namespace JobLedger

/-- A strict order in which any two different keys are comparable. -/
class KeyOrder (κ : Type) [LT κ] : Prop where
  irrefl (a : κ) : ¬a < a
  trans {a b c : κ} : a < b → b < c → a < c
  connected (a b : κ) : a < b ∨ a = b ∨ b < a

instance : KeyOrder String := ⟨fun _ => Std.lt_irrefl, Std.lt_trans, Std.lt_trichotomy⟩

instance : KeyOrder (List String) := ⟨fun _ => Std.lt_irrefl, Std.lt_trans, Std.lt_trichotomy⟩

/-- A finite map as a list of entries in strictly increasing key order. -/
structure Dict (κ β : Type) [LT κ] where
  entries : List (κ × β)
  sorted : entries.Pairwise (fun a b => a.1 < b.1)

namespace Dict

section Basic

variable {κ β γ : Type} [LT κ]

theorem ext {d e : Dict κ β} (h : d.entries = e.entries) : d = e := by
  cases d; cases e; cases h; rfl

instance [DecidableEq κ] [DecidableEq β] : DecidableEq (Dict κ β) := fun d e =>
  decidable_of_iff (d.entries = e.entries) ⟨ext, fun h => h ▸ rfl⟩

/-- The dictionary without entries. -/
def empty : Dict κ β := ⟨[], .nil⟩

instance : EmptyCollection (Dict κ β) := ⟨empty⟩

instance : Inhabited (Dict κ β) := ⟨empty⟩

/-- The keys, in increasing order. -/
def keys (d : Dict κ β) : List κ := d.entries.map (·.1)

/-- The values, in the order of their keys. -/
def values (d : Dict κ β) : List β := d.entries.map (·.2)

/-- How many entries there are. -/
def size (d : Dict κ β) : Nat := d.entries.length

def isEmpty (d : Dict κ β) : Bool := d.entries.isEmpty

/-- The value stored under `k`. -/
def get? [DecidableEq κ] (d : Dict κ β) (k : κ) : Option β :=
  (d.entries.find? (·.1 = k)).map (·.2)

def contains [DecidableEq κ] (d : Dict κ β) (k : κ) : Bool := (d.get? k).isSome

/-- The entries that satisfy `p`. -/
def filter (p : κ → β → Bool) (d : Dict κ β) : Dict κ β :=
  ⟨d.entries.filter fun e => p e.1 e.2, d.sorted.filter _⟩

/-- The entries under other keys than `k`. -/
def erase [DecidableEq κ] (d : Dict κ β) (k : κ) : Dict κ β :=
  d.filter fun k' _ => k' ≠ k

/-- The entries whose keys are strictly greater than `k`. -/
def after [DecidableLT κ] (d : Dict κ β) (k : κ) : Dict κ β :=
  d.filter fun k' _ => k < k'

/-- Changes every value and keeps the keys. -/
def mapValues (f : κ → β → γ) (d : Dict κ β) : Dict κ γ where
  entries := d.entries.map fun e => (e.1, f e.1 e.2)
  sorted := List.pairwise_map.mpr d.sorted

@[simp] theorem entries_empty : (∅ : Dict κ β).entries = [] := rfl

@[simp] theorem get?_empty [DecidableEq κ] (k : κ) : (∅ : Dict κ β).get? k = none := rfl

end Basic

section Ordered

variable {κ β : Type} [LT κ] [DecidableEq κ] [DecidableLT κ] [KeyOrder κ]

/-- Puts `(k, v)` at its place in a sorted list, replacing an entry of the
same key. -/
def insertEntry (k : κ) (v : β) : List (κ × β) → List (κ × β)
  | [] => [(k, v)]
  | e :: r =>
      if k < e.1 then (k, v) :: e :: r
      else if e.1 < k then e :: insertEntry k v r
      else (k, v) :: r

omit [DecidableEq κ] [KeyOrder κ] in
theorem mem_insertEntry {k : κ} {v : β} {e : κ × β} :
    ∀ {l : List (κ × β)}, e ∈ insertEntry k v l → e = (k, v) ∨ e ∈ l
  | [], h => .inl (List.mem_singleton.mp h)
  | e' :: r, h => by
      unfold insertEntry at h
      split at h
      · exact (List.mem_cons.mp h).imp id id
      · split at h
        · rcases List.mem_cons.mp h with rfl | h
          · exact .inr (List.mem_cons_self ..)
          · exact (mem_insertEntry h).imp id (List.mem_cons_of_mem _)
        · exact (List.mem_cons.mp h).imp id (List.mem_cons_of_mem _)

omit [DecidableEq κ] in
theorem pairwise_insertEntry (k : κ) (v : β) :
    ∀ {l : List (κ × β)}, l.Pairwise (fun a b => a.1 < b.1) →
      (insertEntry k v l).Pairwise (fun a b => a.1 < b.1)
  | [], _ => List.pairwise_singleton ..
  | e :: r, h => by
      obtain ⟨he, hr⟩ := List.pairwise_cons.mp h
      unfold insertEntry
      split
      · next hk =>
        refine List.pairwise_cons.mpr ⟨fun a ha => ?_, h⟩
        rcases List.mem_cons.mp ha with rfl | ha
        · exact hk
        · exact KeyOrder.trans hk (he a ha)
      · split
        · next hk =>
          refine List.pairwise_cons.mpr ⟨fun a ha => ?_, pairwise_insertEntry k v hr⟩
          rcases mem_insertEntry ha with rfl | ha
          · exact hk
          · exact he a ha
        · next h1 h2 =>
          have hek : e.1 = k := (KeyOrder.connected e.1 k).elim (absurd · h2)
            fun h => h.elim id (absurd · h1)
          exact List.pairwise_cons.mpr ⟨fun a ha => hek ▸ he a ha, hr⟩

/-- Stores `v` under `k`; an earlier value under `k` is replaced. -/
def insert (d : Dict κ β) (k : κ) (v : β) : Dict κ β :=
  ⟨insertEntry k v d.entries, pairwise_insertEntry k v d.sorted⟩

/-- The entries of a list, in which a later entry of a key wins. -/
def ofList (l : List (κ × β)) : Dict κ β :=
  l.foldl (fun d e => d.insert e.1 e.2) ∅

/-- Stores what `f` makes of the present value under `k`. -/
def update (d : Dict κ β) (k : κ) (f : Option β → β) : Dict κ β :=
  d.insert k (f (d.get? k))

theorem find?_insertEntry (k k' : κ) (v : β) :
    ∀ l : List (κ × β), (insertEntry k v l).find? (·.1 = k')
      = if k = k' then some (k, v) else l.find? (·.1 = k')
  | [] => by
      by_cases h : k = k' <;> simp [insertEntry, h]
  | e :: r => by
      unfold insertEntry
      split
      · by_cases h : k = k' <;> simp [List.find?_cons, h]
      · split
        · next hk =>
          have hne : e.1 ≠ k := fun h => KeyOrder.irrefl _ (h ▸ hk)
          by_cases h : k = k'
          · subst h
            simp [hne, find?_insertEntry k k v r]
          · by_cases he : e.1 = k' <;> simp [h, he, find?_insertEntry k k' v r]
        · next h1 h2 =>
          have hek : e.1 = k := (KeyOrder.connected e.1 k).elim (absurd · h2)
            fun h => h.elim id (absurd · h1)
          by_cases h : k = k' <;> simp [h, hek]

theorem get?_insert (d : Dict κ β) (k k' : κ) (v : β) :
    (d.insert k v).get? k' = if k = k' then some v else d.get? k' := by
  simp only [get?, insert, find?_insertEntry]
  split <;> rfl

@[simp] theorem get?_insert_self (d : Dict κ β) (k : κ) (v : β) :
    (d.insert k v).get? k = some v := by
  rw [get?_insert, if_pos rfl]

theorem get?_insert_of_ne (d : Dict κ β) {k k' : κ} (h : k ≠ k') (v : β) :
    (d.insert k v).get? k' = d.get? k' := by
  rw [get?_insert, if_neg h]

omit [DecidableLT κ] in
theorem get?_eq_some_iff {d : Dict κ β} {k : κ} {v : β} :
    d.get? k = some v ↔ (k, v) ∈ d.entries := by
  obtain ⟨l, hl⟩ := d
  simp only [get?]
  induction l with
  | nil => simp
  | cons e r ih =>
      obtain ⟨he, hr⟩ := List.pairwise_cons.mp hl
      by_cases h : e.1 = k
      · simp only [h, List.find?_cons_of_pos, decide_true, Option.map_some, Option.some.injEq,
          List.mem_cons]
        refine ⟨fun hv => .inl (by rw [← h, ← hv]), fun hm => hm.elim (fun hm => by rw [← hm])
          fun hm => absurd (he _ hm) ?_⟩
        rw [h]
        exact KeyOrder.irrefl _
      · rw [List.find?_cons_of_neg (by simpa using h), ih hr, List.mem_cons]
        exact ⟨.inr, fun hm => hm.resolve_left fun heq => h (by rw [← heq])⟩

omit [DecidableLT κ] in
/-- Lookups determine a dictionary. -/
theorem ext_get? {d e : Dict κ β} (h : ∀ k, d.get? k = e.get? k) : d = e := by
  have hmem : ∀ x, x ∈ d.entries ↔ x ∈ e.entries := fun x => by
    rw [← get?_eq_some_iff (k := x.1) (v := x.2), h, get?_eq_some_iff]
  apply ext
  obtain ⟨l, hl⟩ := d
  obtain ⟨m, hm⟩ := e
  simp only at hmem ⊢
  clear h
  induction l generalizing m with
  | nil =>
      cases m with
      | nil => rfl
      | cons b s => exact absurd ((hmem b).mpr (List.mem_cons_self ..)) (List.not_mem_nil)
  | cons a r ih =>
      cases m with
      | nil => exact absurd ((hmem a).mp (List.mem_cons_self ..)) (List.not_mem_nil)
      | cons b s =>
          obtain ⟨ha, hr⟩ := List.pairwise_cons.mp hl
          obtain ⟨hb, hs⟩ := List.pairwise_cons.mp hm
          have hab : a = b := by
            rcases List.mem_cons.mp ((hmem a).mp (List.mem_cons_self ..)) with h | h
            · exact h
            · rcases List.mem_cons.mp ((hmem b).mpr (List.mem_cons_self ..)) with h' | h'
              · exact h'.symm
              · exact absurd (KeyOrder.trans (ha b h') (hb a h)) (KeyOrder.irrefl _)
          subst hab
          rw [ih hr s hs fun x => ?_]
          have hx := hmem x
          rw [List.mem_cons, List.mem_cons] at hx
          constructor
          · intro hxr
            exact (hx.mp (.inr hxr)).resolve_left fun h => KeyOrder.irrefl _ (h ▸ ha x hxr)
          · intro hxs
            exact (hx.mpr (.inr hxs)).resolve_left fun h => KeyOrder.irrefl _ (h ▸ hb x hxs)

omit [DecidableLT κ] in
theorem get?_filter {d : Dict κ β} {p : κ → β → Bool} {k : κ} :
    (d.filter p).get? k = (d.get? k).filter (p k) := by
  apply Option.ext
  intro v
  rw [get?_eq_some_iff, Option.filter_eq_some_iff, get?_eq_some_iff]
  simp [filter]

omit [DecidableLT κ] in
theorem get?_erase (d : Dict κ β) (k k' : κ) :
    (d.erase k).get? k' = if k = k' then none else d.get? k' := by
  rw [erase, get?_filter]
  by_cases h : k = k'
  · subst h
    cases d.get? k <;> simp
  · cases d.get? k' <;> simp [h, Ne.symm h]

end Ordered

end Dict

end JobLedger
