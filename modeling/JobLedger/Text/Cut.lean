/-!
# Cutting text at a character

Descriptors, addresses and stored blobs are all read by cutting them at a
separator: at its first occurrence, at its last one, at every one, or at
line ends. The functions work on lists of characters, so that "before"
and "after" are plain list equations (`cutFirst_eq_some_iff`,
`cutLast_eq_some_iff`).
-/

namespace JobLedger

/-- What stands before and after the first `sep`; `none` without one. -/
def cutFirst (sep : Char) : List Char → Option (List Char × List Char)
  | [] => none
  | c :: r =>
      if c = sep then some ([], r)
      else (cutFirst sep r).map fun (a, b) => (c :: a, b)

/-- What stands before and after the last `sep`; `none` without one. -/
def cutLast (sep : Char) : List Char → Option (List Char × List Char)
  | [] => none
  | c :: r =>
      match cutLast sep r with
      | some (a, b) => some (c :: a, b)
      | none => if c = sep then some ([], r) else none

/-- The pieces between the occurrences of `sep`, always at least one. -/
def pieces (sep : Char) : List Char → List (List Char)
  | [] => [[]]
  | c :: r =>
      if c = sep then [] :: pieces sep r
      else match pieces sep r with
        | [] => [[c]]
        | p :: ps => (c :: p) :: ps

/-- The pieces put together again with `sep` between them. -/
def joinPieces (sep : Char) : List (List Char) → List Char
  | [] => []
  | [p] => p
  | p :: q :: ps => p ++ sep :: joinPieces sep (q :: ps)

/-- Drops a carriage return from the end of a line held in reverse. -/
def dropReturn : List Char → List Char
  | '\r' :: r => r
  | l => l

/-- `lines` with the present line held in reverse. -/
def linesFrom : List Char → List Char → List (List Char)
  | [], [] => []
  | l, [] => [l.reverse]
  | l, '\n' :: r => (dropReturn l).reverse :: linesFrom [] r
  | l, c :: r => linesFrom (c :: l) r

/-- The lines of a text. A line ends with a line feed, before which one
carriage return belongs to the line end too; the last line needs no end. -/
def lines (cs : List Char) : List (List Char) := linesFrom [] cs

theorem cutFirst_eq_none_iff {sep : Char} {cs : List Char} :
    cutFirst sep cs = none ↔ sep ∉ cs := by
  induction cs with
  | nil => simp [cutFirst]
  | cons c r ih =>
      by_cases h : c = sep
      · simp [cutFirst, h]
      · simp [cutFirst, h, ih, Ne.symm h]

theorem cutFirst_eq_some_iff {sep : Char} {cs a b : List Char} :
    cutFirst sep cs = some (a, b) ↔ cs = a ++ sep :: b ∧ sep ∉ a := by
  induction cs generalizing a with
  | nil => simp [cutFirst]
  | cons c r ih =>
      by_cases h : c = sep
      · subst h
        simp only [cutFirst, if_true, Option.some.injEq, Prod.mk.injEq]
        constructor
        · rintro ⟨rfl, rfl⟩
          simp
        · rintro ⟨h, hc⟩
          cases a with
          | nil => simpa using h
          | cons x xs =>
              simp only [List.cons_append, List.cons.injEq] at h
              exact absurd (h.1 ▸ List.mem_cons_self ..) hc
      · simp only [cutFirst, if_neg h, Option.map_eq_some_iff, Prod.exists, Prod.mk.injEq]
        constructor
        · rintro ⟨x, y, hxy, rfl, rfl⟩
          obtain ⟨rfl, hx⟩ := ih.mp hxy
          exact ⟨rfl, by simp [hx, Ne.symm h]⟩
        · rintro ⟨heq, hs⟩
          cases a with
          | nil => simp at heq; exact absurd heq.1 h
          | cons x xs =>
              simp only [List.cons_append, List.cons.injEq] at heq
              obtain ⟨rfl, rfl⟩ := heq
              exact ⟨xs, b, ih.mpr ⟨rfl, fun hm => hs (List.mem_cons_of_mem _ hm)⟩, rfl, rfl⟩

theorem cutLast_eq_none_iff {sep : Char} {cs : List Char} :
    cutLast sep cs = none ↔ sep ∉ cs := by
  induction cs with
  | nil => simp [cutLast]
  | cons c r ih =>
      cases hr : cutLast sep r with
      | none =>
          by_cases h : c = sep
          · simp [cutLast, hr, h]
          · simp [cutLast, hr, h, ih.mp hr, Ne.symm h]
      | some p =>
          have : sep ∈ r := Decidable.byContradiction fun h => by simp [ih.mpr h] at hr
          simp [cutLast, hr, this]

theorem cutLast_eq_some_iff {sep : Char} {cs a b : List Char} :
    cutLast sep cs = some (a, b) ↔ cs = a ++ sep :: b ∧ sep ∉ b := by
  induction cs generalizing a b with
  | nil => simp [cutLast]
  | cons c r ih =>
      cases hr : cutLast sep r with
      | none =>
          have hnot := cutLast_eq_none_iff.mp hr
          by_cases h : c = sep
          · subst h
            simp only [cutLast, hr, if_true, Option.some.injEq, Prod.mk.injEq]
            constructor
            · rintro ⟨rfl, rfl⟩
              exact ⟨rfl, hnot⟩
            · rintro ⟨heq, _⟩
              cases a with
              | nil => simpa using heq
              | cons x xs =>
                  simp only [List.cons_append, List.cons.injEq] at heq
                  exact absurd (heq.2 ▸ List.mem_append_right _ (List.mem_cons_self ..)) hnot
          · simp only [cutLast, hr, if_neg h, reduceCtorEq, false_iff]
            rintro ⟨heq, _⟩
            have : sep ∈ c :: r := heq ▸ List.mem_append_right _ (List.mem_cons_self ..)
            exact (List.mem_cons.mp this).elim (fun he => h he.symm) hnot
      | some p =>
          obtain ⟨p, q⟩ := p
          obtain ⟨rfl, hq⟩ := ih.mp hr
          simp only [cutLast, hr, Option.some.injEq, Prod.mk.injEq]
          constructor
          · rintro ⟨rfl, rfl⟩
            exact ⟨rfl, hq⟩
          · rintro ⟨heq, hb⟩
            cases a with
            | nil =>
                simp only [List.nil_append, List.cons.injEq] at heq
                exact absurd (heq.2 ▸ List.mem_append_right _ (List.mem_cons_self ..)) hb
            | cons x xs =>
                simp only [List.cons_append, List.cons.injEq] at heq
                obtain ⟨rfl, heq⟩ := heq
                have := ih.mpr ⟨heq, hb⟩
                rw [hr] at this
                simp only [Option.some.injEq, Prod.mk.injEq] at this
                exact ⟨by rw [this.1], this.2⟩

theorem pieces_ne_nil (sep : Char) (cs : List Char) : pieces sep cs ≠ [] := by
  cases cs with
  | nil => simp [pieces]
  | cons c r => unfold pieces; split <;> (try split) <;> simp

/-- Nothing is lost by cutting. -/
theorem joinPieces_pieces (sep : Char) (cs : List Char) :
    joinPieces sep (pieces sep cs) = cs := by
  induction cs with
  | nil => rfl
  | cons c r ih =>
      unfold pieces
      have hne := pieces_ne_nil sep r
      split
      · next h =>
        subst h
        cases hp : pieces c r with
        | nil => exact absurd hp hne
        | cons p ps => rw [joinPieces, ← hp, ih]; rfl
      · cases hp : pieces sep r with
        | nil => exact absurd hp hne
        | cons p ps =>
            rw [hp] at ih
            cases ps with
            | nil => simpa [joinPieces] using ih
            | cons q qs => simpa [joinPieces] using ih

theorem not_mem_of_mem_pieces {sep : Char} {cs p : List Char} (h : p ∈ pieces sep cs) :
    sep ∉ p := by
  induction cs generalizing p with
  | nil => simp [pieces] at h; simp [h]
  | cons c r ih =>
      unfold pieces at h
      split at h
      · rcases List.mem_cons.mp h with rfl | h
        · exact List.not_mem_nil
        · exact ih h
      · next hc =>
        cases hp : pieces sep r with
        | nil => exact absurd hp (pieces_ne_nil sep r)
        | cons q qs =>
            rw [hp] at h ih
            rcases List.mem_cons.mp h with rfl | h
            · exact fun hm => (List.mem_cons.mp hm).elim (fun he => hc he.symm)
                (ih (List.mem_cons_self ..))
            · exact ih (List.mem_cons_of_mem _ h)

end JobLedger
