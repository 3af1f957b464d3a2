import JobLedger.Text.Cut
import Mathlib.Data.List.Basic

/-!
# Pieces and the text they come from

Pieces without the separator are what a text is cut into again once they are
put together (`pieces_joinPieces`), and every text is put together from such
pieces (`exists_eq_intercalate`). Descriptors are stated with the texts
themselves and read as lists of characters; the last section goes from the one
to the other.

The lines of a text are its pieces between line feeds, as far as the last line
feed (`feedLines_append`), less a carriage return each for a reader that takes
it for a part of the line end (`lines_append`).
-/

namespace JobLedger

theorem pieces_of_not_mem {sep : Char} : ∀ {cs : List Char}, sep ∉ cs → pieces sep cs = [cs]
  | [], _ => rfl
  | c :: r, h => by
      have hc : c ≠ sep := fun heq => h (heq ▸ List.mem_cons_self ..)
      rw [pieces, if_neg hc, pieces_of_not_mem fun hr => h (List.mem_cons_of_mem _ hr)]

theorem pieces_append (sep : Char) (cs ds : List Char) :
    pieces sep (cs ++ sep :: ds) = pieces sep cs ++ pieces sep ds := by
  induction cs with
  | nil => simp [pieces]
  | cons c r ih =>
      rw [List.cons_append, pieces, pieces, ih]
      split
      · rfl
      · cases hp : pieces sep r with
        | nil => exact absurd hp (pieces_ne_nil sep r)
        | cons p ps => rfl

/-- What stands before the first separator goes on with the first piece. -/
theorem pieces_append_of_not_mem {sep : Char} {cs : List Char} (h : sep ∉ cs) (ds : List Char) :
    pieces sep (cs ++ ds) = (pieces sep ds).modifyHead (cs ++ ·) := by
  induction cs with
  | nil => cases hp : pieces sep ds <;> simp [hp]
  | cons c r ih =>
      have hc : c ≠ sep := fun heq => h (heq ▸ List.mem_cons_self ..)
      rw [List.cons_append, pieces, if_neg hc, ih fun hr => h (List.mem_cons_of_mem _ hr)]
      cases hp : pieces sep ds with
      | nil => exact absurd hp (pieces_ne_nil sep ds)
      | cons p ps => rfl

theorem length_pieces (sep : Char) (cs : List Char) :
    (pieces sep cs).length = cs.count sep + 1 := by
  induction cs with
  | nil => rfl
  | cons c r ih =>
      rw [pieces, List.count_cons]
      by_cases h : c = sep
      · rw [if_pos h, if_pos (beq_iff_eq.mpr h), List.length_cons, ih]
      · rw [if_neg h, if_neg fun heq => h (beq_iff_eq.mp heq)]
        cases hp : pieces sep r with
        | nil => exact absurd hp (pieces_ne_nil sep r)
        | cons p ps => simpa [hp] using ih

theorem pieces_joinPieces {sep : Char} : ∀ {ps : List (List Char)}, ps ≠ [] →
    (∀ p ∈ ps, sep ∉ p) → pieces sep (joinPieces sep ps) = ps
  | [p], _, h => pieces_of_not_mem (h p (List.mem_singleton_self p))
  | p :: q :: ps, _, h => by
      rw [joinPieces, pieces_append, pieces_of_not_mem (h p (List.mem_cons_self ..)),
        pieces_joinPieces (List.cons_ne_nil q ps) fun r hr => h r (List.mem_cons_of_mem _ hr)]
      rfl

/-- The characters of a text are those of its pieces and the separators. -/
theorem mem_joinPieces {sep x : Char} {ps : List (List Char)} (hx : x ∈ joinPieces sep ps) :
    x = sep ∨ ∃ p ∈ ps, x ∈ p := by
  induction ps with
  | nil => exact absurd hx List.not_mem_nil
  | cons p ps ih =>
      cases ps with
      | nil => exact .inr ⟨p, List.mem_singleton_self p, hx⟩
      | cons q qs =>
          rw [joinPieces] at hx
          rcases List.mem_append.mp hx with hx | hx
          · exact .inr ⟨p, List.mem_cons_self .., hx⟩
          · rcases List.mem_cons.mp hx with hx | hx
            · exact .inl hx
            · rcases ih hx with hx | ⟨p', hp', hx⟩
              · exact .inl hx
              · exact .inr ⟨p', List.mem_cons_of_mem _ hp', hx⟩

theorem mem_joinPieces_of_mem {sep x : Char} {p : List Char} (hx : x ∈ p) :
    ∀ {ps : List (List Char)}, p ∈ ps → x ∈ joinPieces sep ps
  | [_], hp => List.mem_singleton.mp hp ▸ hx
  | q :: q' :: qs, hp => by
      rw [joinPieces]
      rcases List.mem_cons.mp hp with rfl | hp
      · exact List.mem_append_left _ hx
      · exact List.mem_append_right _ (List.mem_cons_of_mem _ (mem_joinPieces_of_mem hx hp))

/-! ## Lines -/

/-- The lines of a text for a reader that knows no line end but the line feed.
The last line needs no end. -/
def feedLines (cs : List Char) : List (List Char) :=
  let ps := pieces '\n' cs
  if ps.getLast? = some [] then ps.dropLast else ps

/-- A line without a carriage return at its end. -/
def withoutReturn (cs : List Char) : List Char := (dropReturn cs.reverse).reverse

theorem dropReturn_cons {c : Char} (hc : c ≠ '\r') (r : List Char) :
    dropReturn (c :: r) = c :: r := by
  unfold dropReturn
  split
  · next heq => exact absurd (List.cons.inj heq).1 hc
  · rfl

theorem prefix_withoutReturn (cs : List Char) : withoutReturn cs <+: cs := by
  rw [withoutReturn, ← List.reverse_suffix, List.reverse_reverse]
  generalize cs.reverse = l
  unfold dropReturn
  split
  · exact List.suffix_cons ..
  · exact List.suffix_rfl

theorem withoutReturn_eq_self_iff {cs : List Char} :
    withoutReturn cs = cs ↔ cs.getLast? ≠ some '\r' := by
  rw [withoutReturn, List.reverse_eq_iff, List.getLast?_eq_head?_reverse]
  generalize cs.reverse = l
  cases l with
  | nil => simp [dropReturn]
  | cons c r =>
      by_cases hc : c = '\r'
      · subst hc
        simp [dropReturn]
      · simp [dropReturn_cons hc, hc]

theorem feedLines_append (cs rest : List Char) :
    feedLines (cs ++ '\n' :: rest) = pieces '\n' cs ++ feedLines rest := by
  have hrest := pieces_ne_nil '\n' rest
  unfold feedLines
  simp only [pieces_append, List.getLast?_append_of_ne_nil _ hrest,
    List.dropLast_append_of_ne_nil hrest]
  split <;> rfl

theorem feedLines_flatMap (ls : List (List Char)) :
    feedLines (ls.flatMap (· ++ ['\n'])) = ls.flatMap (pieces '\n') := by
  induction ls with
  | nil => rfl
  | cons l ls ih =>
      rw [List.flatMap_cons, List.append_assoc, List.singleton_append, feedLines_append, ih,
        List.flatMap_cons]

theorem linesFrom_feed (l rest : List Char) :
    linesFrom l ('\n' :: rest) = (dropReturn l).reverse :: lines rest := linesFrom.eq_3 l rest

theorem linesFrom_cons {c : Char} (hc : c ≠ '\n') (l rest : List Char) :
    linesFrom l (c :: rest) = linesFrom (c :: l) rest := linesFrom.eq_4 l c rest hc

/-- The present line goes on with the first piece. -/
theorem linesFrom_append (l cs rest : List Char) :
    linesFrom l (cs ++ '\n' :: rest) =
      ((pieces '\n' cs).modifyHead (l.reverse ++ ·)).map withoutReturn ++ lines rest := by
  induction cs generalizing l with
  | nil => simp [pieces, linesFrom_feed, withoutReturn]
  | cons c r ih =>
      rw [List.cons_append, pieces]
      by_cases hc : c = '\n'
      · subst hc
        have hlines := ih []
        rw [if_pos rfl, linesFrom_feed, lines, hlines]
        cases hp : pieces '\n' r <;> simp [withoutReturn]
      · rw [if_neg hc, linesFrom_cons hc, ih]
        cases hp : pieces '\n' r with
        | nil => exact absurd hp (pieces_ne_nil '\n' r)
        | cons p ps => simp

theorem lines_append (cs rest : List Char) :
    lines (cs ++ '\n' :: rest) = (pieces '\n' cs).map withoutReturn ++ lines rest := by
  rw [lines, linesFrom_append]
  cases hp : pieces '\n' cs <;> simp

theorem feed_not_mem_of_mem_linesFrom {l cs x : List Char} (hl : '\n' ∉ l)
    (hx : x ∈ linesFrom l cs) : '\n' ∉ x := by
  have hdrop : ∀ l : List Char, '\n' ∉ l → '\n' ∉ (dropReturn l).reverse := by
    intro l hl
    rw [List.mem_reverse]
    unfold dropReturn
    split
    · exact fun h => hl (List.mem_cons_of_mem _ h)
    · exact hl
  induction cs generalizing l with
  | nil =>
      cases l with
      | nil => exact absurd hx List.not_mem_nil
      | cons c r =>
          rw [linesFrom] at hx
          · obtain rfl := List.mem_singleton.mp hx
            rwa [List.mem_reverse]
          · simp
  | cons c cs ih =>
      by_cases hc : c = '\n'
      · subst hc
        rw [linesFrom_feed] at hx
        rcases List.mem_cons.mp hx with rfl | hx
        · exact hdrop l hl
        · exact ih List.not_mem_nil hx
      · rw [linesFrom_cons hc] at hx
        refine ih (fun h => ?_) hx
        exact (List.mem_cons.mp h).elim (fun heq => hc heq.symm) hl

theorem feed_not_mem_of_mem_lines {cs x : List Char} (hx : x ∈ lines cs) : '\n' ∉ x :=
  feed_not_mem_of_mem_linesFrom List.not_mem_nil hx

/-! ## Texts and their characters -/

section Texts

variable {sep : Char} {s : String} (hs : s.toList = [sep])

include hs

/-- A text lacks a character, or is cut at the first one. -/
theorem not_mem_or_eq_append (text : String) :
    sep ∉ text.toList ∨ ∃ a b : String, text = a ++ s ++ b ∧ sep ∉ a.toList := by
  cases hcut : cutFirst sep text.toList with
  | none => exact .inl (cutFirst_eq_none_iff.mp hcut)
  | some parts =>
      obtain ⟨htext, hsep⟩ := cutFirst_eq_some_iff.mp hcut
      refine .inr ⟨.ofList parts.1, .ofList parts.2, String.toList_injective ?_, ?_⟩
      · simpa [hs] using htext
      · rwa [String.toList_ofList]

theorem toList_intercalate_eq (l : List String) :
    (s.intercalate l).toList = joinPieces sep (l.map String.toList) := by
  rw [String.toList_intercalate, hs]
  induction l with
  | nil => rfl
  | cons p ps ih =>
      cases ps with
      | nil => exact List.intercalate_singleton
      | cons q qs =>
          rw [List.map_cons, List.map_cons, List.intercalate_cons_cons, joinPieces,
            ← List.map_cons, ih, List.append_assoc, List.singleton_append]

theorem pieces_intercalate {l : List String} (hne : l ≠ []) (hl : ∀ p ∈ l, sep ∉ p.toList) :
    pieces sep (s.intercalate l).toList = l.map String.toList := by
  rw [toList_intercalate_eq hs, pieces_joinPieces (by simpa using hne)]
  intro p hp
  obtain ⟨t, ht, rfl⟩ := List.mem_map.mp hp
  exact hl t ht

/-- Only the empty text has nothing but an empty piece. -/
theorem eq_singleton_of_intercalate {l : List String} (hne : l ≠ [])
    (hl : ∀ p ∈ l, sep ∉ p.toList) (h : s.intercalate l = "") : l = [""] := by
  have hpieces := pieces_intercalate hs hne hl
  rw [h, String.toList_empty, pieces] at hpieces
  obtain ⟨p, rfl, hp⟩ := List.map_eq_singleton_iff.mp hpieces.symm
  rw [String.toList_eq_nil_iff.mp hp]

theorem exists_eq_intercalate (text : String) :
    ∃ l : List String, l ≠ [] ∧ (∀ p ∈ l, sep ∉ p.toList) ∧ text = s.intercalate l := by
  refine ⟨(pieces sep text.toList).map String.ofList, ?_, fun p hp => ?_, ?_⟩
  · simpa using pieces_ne_nil sep text.toList
  · obtain ⟨cs, hcs, rfl⟩ := List.mem_map.mp hp
    rw [String.toList_ofList]
    exact not_mem_of_mem_pieces hcs
  · apply String.toList_injective
    have hback : ((pieces sep text.toList).map String.ofList).map String.toList =
        pieces sep text.toList := by simp
    rw [toList_intercalate_eq hs, hback, joinPieces_pieces]

end Texts

end JobLedger
