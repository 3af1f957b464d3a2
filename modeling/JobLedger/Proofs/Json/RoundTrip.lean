import JobLedger.Json.Printer
import JobLedger.Proofs.Text.Numeral
import JobLedger.Proofs.Text.Utf8
import Mathlib.Data.List.TakeDrop

/-!
# JSON that is written is read back

`parseChars?_writtenAt`: a value is read back from its written form, with
any spacing. The compact and the indented form are two spacings, so one
induction serves every stored text: counters, configurations, records,
table layouts and row files.

A number with a fraction or an exponent is kept as its token, and a token
may be anything; nothing that is stored contains one (`plain`).

The induction is over the value, for any text behind it that does not go
on with a number (`NumberEnds`): in `[1,2]` the reader meets `1` with
`,2]` behind it.
-/

namespace JobLedger.Json

mutual

/-- No number with a fraction or an exponent occurs in the value. -/
def plain : Json → Bool
  | .real _ => false
  | .arr items => plainItems items
  | .obj members => plainMembers members
  | _ => true

def plainItems : List Json → Bool
  | [] => true
  | x :: xs => plain x && plainItems xs

def plainMembers : List (Option String × Json) → Bool
  | [] => true
  | (_, x) :: xs => plain x && plainMembers xs

end

/-- A spacing puts nothing but blanks into a text. -/
structure Spacing.Blank (s : Spacing) : Prop where
  newLine : ∀ depth, ∀ c ∈ s.newLine depth, isSpace c = true
  afterColon : ∀ c ∈ s.afterColon, isSpace c = true

theorem Spacing.blank_none : Spacing.none.Blank := ⟨by simp [none], by simp [none]⟩

theorem Spacing.blank_lines : Spacing.lines.Blank where
  newLine depth c hc := by
    rcases List.mem_cons.mp hc with rfl | hc
    · rfl
    · rw [List.eq_of_mem_replicate hc]
      rfl
  afterColon c hc := by rw [List.mem_singleton.mp hc]; rfl

/-! ## Blanks -/

theorem skip_append {bs : List Char} (h : ∀ c ∈ bs, isSpace c = true) (cs : List Char) :
    skip (bs ++ cs) = skip cs := List.dropWhile_append_of_pos h

theorem skip_cons {c : Char} (h : isSpace c = false) (cs : List Char) :
    skip (c :: cs) = c :: cs := List.dropWhile_cons_of_neg (by simp [h])

theorem skip_skip (cs : List Char) : skip (skip cs) = skip cs := by
  unfold skip
  induction cs with
  | nil => rfl
  | cons c r ih => by_cases h : isSpace c = true <;> simp [h, ih]

theorem value?_skip (fuel : Nat) (cs : List Char) : value? fuel (skip cs) = value? fuel cs := by
  cases fuel with
  | zero => rfl
  | succ fuel => rw [value?, value?, skip_skip]

theorem items?_skip (fuel : Nat) (cs : List Char) : items? fuel (skip cs) = items? fuel cs := by
  cases fuel with
  | zero => rfl
  | succ fuel => rw [items?, items?, value?_skip]

theorem members?_skip (fuel : Nat) (cs : List Char) :
    members? fuel (skip cs) = members? fuel cs := by
  cases fuel with
  | zero => rfl
  | succ fuel => rw [members?, members?, skip_skip]

theorem value?_blanks {bs : List Char} (h : ∀ c ∈ bs, isSpace c = true) (fuel : Nat)
    (cs : List Char) : value? fuel (bs ++ cs) = value? fuel cs := by
  rw [← value?_skip, skip_append h, value?_skip]

/-! ## Strings -/

theorem quad?_hexDigit : ∀ {n : Nat}, n < 0x20 →
    quad? '0' '0' (hexDigit (n / 16)) (hexDigit (n % 16)) = some n := by decide

/-- A character that needs no escape is scanned as its code point. -/
theorem scanString_cons {c : Char} (hquote : c ≠ '"') (hback : c ≠ '\\')
    (hplain : 0x20 ≤ c.toNat) (r : List Char) :
    scanString (c :: r) = (scanString r).map fun (codes, rest) => (c.toNat :: codes, rest) := by
  have hnul : c ≠ notUtf8 := by
    rintro rfl
    exact absurd hplain (by decide)
  rw [scanString, if_neg hnul, if_neg (by simp [hback, Nat.not_lt.mpr hplain])]
  · exact hquote
  · exact fun _ _ _ _ _ hc => absurd hc hback
  · exact fun _ _ hc => absurd hc hback

/-- One written character of a string is scanned as its code point. -/
theorem scanString_escaped (c : Char) (r : List Char) :
    scanString (escaped c ++ r) =
      (scanString r).map fun (codes, rest) => (c.toNat :: codes, rest) := by
  unfold escaped
  split
  iterate 7 rfl
  next h1 h2 _ _ _ _ _ =>
  split
  · next h =>
    simp only [List.cons_append, List.nil_append]
    rw [scanString, quad?_hexDigit h]
  · next h =>
    exact scanString_cons h1 h2 (Nat.not_lt.mp h) r

theorem scanString_flatMap_escaped (cs rest : List Char) :
    scanString (cs.flatMap escaped ++ '"' :: rest) = some (cs.map Char.toNat, rest) := by
  induction cs with
  | nil => rfl
  | cons c r ih =>
      rw [List.flatMap_cons, List.append_assoc, scanString_escaped, ih]
      rfl

theorem spelled?_map_toNat (cs : List Char) : spelled? (cs.map Char.toNat) = some cs := by
  have hchar : ∀ c : Char, isNoText c.toNat = false ∧ isHighHalf c.toNat = false := by
    intro c
    have hrange := Utf8.toNat_range c
    have hcode : c.toNat ≠ noCode := by
      unfold noCode
      omega
    simp only [isNoText, isHighHalf, isLowHalf, decide_eq_false hcode, Bool.or_eq_false_iff,
      Bool.and_eq_false_iff, decide_eq_false_iff_not, and_true]
    omega
  induction cs with
  | nil => rfl
  | cons c r ih =>
      cases r with
      | nil => simp [spelled?, hchar c]
      | cons d r =>
          rw [List.map_cons, List.map_cons] at *
          simp [spelled?, hchar c, ih]

/-- A string token is read back behind its opening mark. -/
theorem string?_stringToken (t : Option String) (rest : List Char) :
    ∃ cs, stringToken t ++ rest = '"' :: cs ∧ string? cs = some (t, rest) := by
  cases t with
  | none => exact ⟨_, rfl, by simp [string?, scanString, quad?, hexValue?, spelled?, isNoText,
      isHighHalf]⟩
  | some s =>
      refine ⟨s.toList.flatMap escaped ++ '"' :: rest, by simp [stringToken], ?_⟩
      rw [string?, scanString_flatMap_escaped]
      simp [spelled?_map_toNat]

/-! ## Numbers -/

/-- A number that stands in front of `rest` ends there. -/
def NumberEnds (rest : List Char) : Prop :=
  ∀ c, rest.head? = some c → c.isDigit = false ∧ c ≠ '.' ∧ c ≠ 'e' ∧ c ≠ 'E'

theorem numberEnds_nil : NumberEnds [] := fun _ h => nomatch h

theorem numberEnds_cons {c : Char} (h : c.isDigit = false ∧ c ≠ '.' ∧ c ≠ 'e' ∧ c ≠ 'E')
    (r : List Char) : NumberEnds (c :: r) := fun _ hc => Option.some.inj hc ▸ h

/-- Blanks in front of an end leave it an end. -/
theorem numberEnds_append {bs : List Char} (h : ∀ c ∈ bs, isSpace c = true) {r : List Char}
    (hr : NumberEnds r) : NumberEnds (bs ++ r) := by
  cases bs with
  | nil => exact hr
  | cons b bs =>
      have hb := h b (List.mem_cons_self ..)
      simp only [isSpace, Bool.or_eq_true, decide_eq_true_eq] at hb
      rcases hb with ((rfl | rfl) | rfl) | rfl <;> exact numberEnds_cons (by decide) _

theorem span_isDigit {ds rest : List Char} (hd : ∀ c ∈ ds, c.isDigit = true)
    (hr : NumberEnds rest) : (ds ++ rest).span Char.isDigit = (ds, rest) := by
  have hrest : rest.dropWhile Char.isDigit = rest ∧ rest.takeWhile Char.isDigit = [] := by
    cases rest with
    | nil => exact ⟨rfl, rfl⟩
    | cons c r => simp [(hr c rfl).1]
  rw [List.span_eq_takeWhile_dropWhile, List.takeWhile_append_of_pos hd,
    List.dropWhile_append_of_pos hd, hrest.1, hrest.2, List.append_nil]

theorem intDigits?_toDigits (n : Nat) {rest : List Char} (hr : NumberEnds rest) :
    intDigits? (Nat.toDigits 10 n ++ rest) = some (Nat.toDigits 10 n, rest) := by
  have hspan := span_isDigit (fun c => Numeral.isDigit_of_mem_toDigits (n := n) (c := c)) hr
  rw [intDigits?, hspan]
  split
  · next heq => exact absurd (Prod.mk.inj heq).1 Nat.toDigits_ne_nil
  · next c r rest' heq =>
    have hd : Nat.toDigits 10 n = '0' :: c :: r := (Prod.mk.inj heq).1
    by_cases hn : n = 0
    · rw [hn] at hd
      exact absurd (congrArg List.length hd) (by simp)
    · exact absurd (by rw [hd]; rfl) (Numeral.head?_toDigits_ne hn)
  · next heq => rw [(Prod.mk.inj heq).1, (Prod.mk.inj heq).2]

theorem fraction?_of_numberEnds {rest : List Char} (hr : NumberEnds rest) :
    fraction? rest = some ([], rest) := by
  cases rest with
  | nil => rfl
  | cons c r =>
      have hc := (hr c rfl).2.1
      unfold fraction?
      split
      · next heq => exact absurd (List.cons.inj heq).1 hc
      · rfl

theorem exponent?_of_numberEnds {rest : List Char} (hr : NumberEnds rest) :
    exponent? rest = some ([], rest) := by
  cases rest with
  | nil => rfl
  | cons c r =>
      have hc := (hr c rfl).2.2
      cases r with
      | nil => simp [exponent?, hc.1, hc.2]
      | cons d r => simp [exponent?, hc.1, hc.2]

theorem unsigned?_toDigits (negative : Bool) (n : Nat) {rest : List Char}
    (hneg : negative = true → n ≠ 0) (hr : NumberEnds rest) :
    unsigned? negative (Nat.toDigits 10 n ++ rest)
      = some (.int (if negative then -n else n), rest) := by
  rw [unsigned?, intDigits?_toDigits n hr]
  simp only [Option.bind_eq_bind, Option.bind_some, fraction?_of_numberEnds hr,
    exponent?_of_numberEnds hr, digitsValue_toDigits]
  cases negative with
  | false => simp
  | true => simp [hneg rfl]

theorem toList_toString_int (n : Int) :
    (toString n).toList = if n < 0 then '-' :: Nat.toDigits 10 n.natAbs
      else Nat.toDigits 10 n.natAbs := by
  cases n with
  | ofNat n => simp [Int.repr]
  | negSucc n => simp [Int.repr]

/-- The reader takes anything that begins with a digit or a minus sign for a
number. -/
theorem value?_number {c : Char} (h : c.isDigit = true ∨ c = '-') (fuel : Nat) (r : List Char) :
    value? (fuel + 1) (c :: r) = number? (c :: r) := by
  have hne : ∀ d : Char, d.isDigit = false → d ≠ '-' → c ≠ d := by
    rintro d hd hminus rfl
    rcases h with h | rfl
    · exact absurd (h.symm.trans hd) (by decide)
    · exact hminus rfl
  have hspace : isSpace c = false := by
    simp only [isSpace, Bool.or_eq_false_iff, decide_eq_false_iff_not]
    exact ⟨⟨⟨hne _ rfl (by decide), hne _ rfl (by decide)⟩, hne _ rfl (by decide)⟩,
      hne _ rfl (by decide)⟩
  rw [value?, skip_cons hspace]
  split
  · next heq => exact absurd (List.cons.inj heq).1 (hne _ rfl (by decide))
  · next heq => exact absurd (List.cons.inj heq).1 (hne _ rfl (by decide))
  · next heq => exact absurd (List.cons.inj heq).1 (hne _ rfl (by decide))
  · next heq => exact absurd (List.cons.inj heq).1 (hne _ rfl (by decide))
  · next heq => exact absurd (List.cons.inj heq).1 (hne _ rfl (by decide))
  · next heq => exact absurd (List.cons.inj heq).1 (hne _ rfl (by decide))
  · rfl

/-- An integer is read back. -/
theorem value?_int (fuel : Nat) (n : Int) {rest : List Char} (hr : NumberEnds rest) :
    value? (fuel + 1) ((toString n).toList ++ rest) = some (.int n, rest) := by
  rw [toList_toString_int]
  split
  · next hlt =>
    have hne : n.natAbs ≠ 0 := by omega
    have hval : -(n.natAbs : Int) = n := by omega
    rw [List.cons_append, value?_number (.inr rfl), number?,
      unsigned?_toDigits true n.natAbs (fun _ => hne) hr, if_pos rfl, hval]
  · next hge =>
    have hval : (n.natAbs : Int) = n := by omega
    have hread := unsigned?_toDigits false n.natAbs nofun hr
    cases hd : Nat.toDigits 10 n.natAbs with
    | nil => exact absurd hd Nat.toDigits_ne_nil
    | cons c r =>
        have hc : c.isDigit = true :=
          Numeral.isDigit_of_mem_toDigits (n := n.natAbs) (hd ▸ List.mem_cons_self ..)
        rw [hd, List.cons_append] at hread
        rw [List.cons_append, value?_number (.inl hc), number?.eq_def]
        split
        · next heq =>
          rw [(List.cons.inj heq).1] at hc
          exact absurd hc (by decide)
        · rw [hread, if_neg (by decide), hval]

/-! ## Values -/

/-- What a written value begins with. -/
theorem writtenAt_cons (s : Spacing) (depth : Nat) {j : Json} (hj : j.plain = true) :
    ∃ c cs, writtenAt s depth j = c :: cs ∧ isSpace c = false ∧ c ≠ ']' ∧ c ≠ '}' := by
  cases j with
  | null => exact ⟨_, _, rfl, by decide, by decide, by decide⟩
  | bool b => cases b <;> exact ⟨_, _, rfl, by decide, by decide, by decide⟩
  | int n =>
      simp only [writtenAt, scalarToken, toList_toString_int]
      split
      · exact ⟨_, _, rfl, by decide, by decide, by decide⟩
      · cases hd : Nat.toDigits 10 n.natAbs with
        | nil => exact absurd hd Nat.toDigits_ne_nil
        | cons c r =>
            have hc : c.isDigit = true :=
              Numeral.isDigit_of_mem_toDigits (n := n.natAbs) (hd ▸ List.mem_cons_self ..)
            refine ⟨c, r, rfl, ?_, ?_, ?_⟩
            · cases hs : isSpace c with
              | false => rfl
              | true =>
                  simp only [isSpace, Bool.or_eq_true, decide_eq_true_eq] at hs
                  rcases hs with ((rfl | rfl) | rfl) | rfl <;> exact absurd hc (by decide)
            · rintro rfl
              exact absurd hc (by decide)
            · rintro rfl
              exact absurd hc (by decide)
  | real t => exact absurd hj (by simp [plain])
  | str t =>
      obtain ⟨cs, hcs, -⟩ := string?_stringToken t []
      rw [List.append_nil] at hcs
      exact ⟨_, cs, hcs, by decide, by decide, by decide⟩
  | arr items => cases items <;> exact ⟨_, _, rfl, by decide, by decide, by decide⟩
  | obj members => cases members <;> exact ⟨_, _, rfl, by decide, by decide, by decide⟩

/-! ## Containers -/

section Containers

variable {s : Spacing} (hs : s.Blank) (depth : Nat)
include hs

/-- Behind an opening bracket the reader meets an item. -/
theorem value?_writtenItems {x : Json} (hx : x.plain = true) (xs : List Json) (fuel : Nat)
    (rest : List Char) :
    value? (fuel + 1) ('[' :: (writtenItems s depth (x :: xs) ++ rest))
      = (items? fuel (writtenItems s depth (x :: xs) ++ rest)).map fun (xs, r) => (.arr xs, r) := by
  obtain ⟨c, cs, hcs, hspace, hend, -⟩ := writtenAt_cons s (depth + 1) hx
  have hskip : ∃ r, skip (writtenItems s depth (x :: xs) ++ rest) = c :: r := by
    cases xs <;> simp only [writtenItems, List.append_assoc, skip_append (hs.newLine _), hcs,
      List.cons_append, skip_cons hspace] <;> exact ⟨_, rfl⟩
  obtain ⟨r, hr⟩ := hskip
  rw [← items?_skip, value?, skip_cons (by decide)]
  simp only [hr]
  split
  · next heq => exact absurd (List.cons.inj heq).1 hend
  · rfl

/-- Behind an opening brace the reader meets a member. -/
theorem value?_writtenMembers (m : Option String × Json) (ms : List (Option String × Json))
    (fuel : Nat) (rest : List Char) :
    value? (fuel + 1) ('{' :: (writtenMembers s depth (m :: ms) ++ rest))
      = (members? fuel (writtenMembers s depth (m :: ms) ++ rest)).map
          fun (ms, r) => (.obj ms, r) := by
  obtain ⟨k, x⟩ := m
  obtain ⟨cs, hcs, -⟩ := string?_stringToken k []
  rw [List.append_nil] at hcs
  have hskip : ∃ r, skip (writtenMembers s depth ((k, x) :: ms) ++ rest) = '"' :: r := by
    cases ms <;> simp only [writtenMembers, List.append_assoc, skip_append (hs.newLine _), hcs,
      List.cons_append, skip_cons (c := '"') (by decide)] <;> exact ⟨_, rfl⟩
  obtain ⟨r, hr⟩ := hskip
  rw [← members?_skip, value?, skip_cons (by decide)]
  simp only [hr]
  rfl

/-- A key and its colon are read up to the value. -/
theorem members?_key (k : Option String) (fuel : Nat) (r : List Char) :
    members? (fuel + 1) (s.newLine depth ++ (stringToken k ++ ':' :: (s.afterColon ++ r)))
      = (value? fuel r).bind fun (x, r) =>
          match skip r with
          | ',' :: r => (members? fuel r).bind fun (ms, r) => some ((k, x) :: ms, r)
          | '}' :: r => some ([(k, x)], r)
          | _ => none := by
  obtain ⟨cs, hcs, hread⟩ := string?_stringToken k (':' :: (s.afterColon ++ r))
  rw [members?, skip_append (hs.newLine _), hcs, skip_cons (by decide)]
  simp only [Option.bind_eq_bind, hread, Option.bind_some, skip_cons (c := ':') (by decide),
    value?_blanks hs.afterColon]
  rfl

end Containers

/-! ## The round trip -/

mutual

theorem value?_writtenAt {s : Spacing} (hs : s.Blank) :
    ∀ (j : Json) (depth fuel : Nat) {rest : List Char}, j.plain = true →
      (writtenAt s depth j).length ≤ fuel → NumberEnds rest →
      value? fuel (writtenAt s depth j ++ rest) = some (j, rest)
  | j, depth, 0, _, hj, hlen, _ => by
      obtain ⟨c, cs, hcs, -⟩ := writtenAt_cons s depth hj
      exact absurd hlen (by simp [hcs])
  | .null, _, _ + 1, _, _, _, _ => rfl
  | .bool true, _, _ + 1, _, _, _, _ => rfl
  | .bool false, _, _ + 1, _, _, _, _ => rfl
  | .int n, _, fuel + 1, _, _, _, hr => value?_int fuel n hr
  | .str t, _, fuel + 1, rest, _, _, _ => by
      obtain ⟨cs, hcs, hread⟩ := string?_stringToken t rest
      simp only [writtenAt, scalarToken, hcs]
      rw [value?, skip_cons (by decide)]
      simp only [hread, Option.map_some]
  | .arr [], _, _ + 1, _, _, _, _ => rfl
  | .obj [], _, _ + 1, _, _, _, _ => rfl
  | .arr (x :: xs), depth, fuel + 1, rest, hj, hlen, _ => by
      have hx : x.plain = true ∧ plainItems xs = true := by simpa [plain, plainItems] using hj
      have hlen' : (writtenItems s depth (x :: xs)).length ≤ fuel := by
        simpa [writtenAt] using hlen
      rw [writtenAt, List.cons_append, value?_writtenItems hs depth hx.1 xs,
        items?_writtenItems hs x xs depth fuel hx.1 hx.2 hlen', Option.map_some]
  | .obj (m :: ms), depth, fuel + 1, rest, hj, hlen, _ => by
      have hlen' : (writtenMembers s depth (m :: ms)).length ≤ fuel := by
        simpa [writtenAt] using hlen
      rw [writtenAt, List.cons_append, value?_writtenMembers hs depth m ms,
        members?_writtenMembers hs m ms depth fuel (by simpa [plain] using hj) hlen',
        Option.map_some]

theorem items?_writtenItems {s : Spacing} (hs : s.Blank) :
    ∀ (x : Json) (xs : List Json) (depth fuel : Nat) {rest : List Char}, x.plain = true →
      plainItems xs = true → (writtenItems s depth (x :: xs)).length ≤ fuel →
      items? fuel (writtenItems s depth (x :: xs) ++ rest) = some (x :: xs, rest)
  | _, xs, _, 0, _, _, _, hlen => by
      cases xs <;> exact absurd hlen (by simp [writtenItems])
  | x, [], depth, fuel + 1, rest, hx, _, hlen => by
      have hlen' : (writtenAt s (depth + 1) x).length ≤ fuel := by
        simp only [writtenItems, List.length_append, List.length_singleton] at hlen
        omega
      have hend : NumberEnds (s.newLine depth ++ ']' :: rest) :=
        numberEnds_append (hs.newLine _) (numberEnds_cons (by decide) _)
      have hread := value?_writtenAt hs x (depth + 1) fuel hx hlen' hend
      simp only [writtenItems, List.append_assoc, List.singleton_append]
      rw [items?, value?_blanks (hs.newLine _), hread]
      simp only [Option.bind_eq_bind, Option.bind_some, skip_append (hs.newLine _),
        skip_cons (c := ']') (by decide)]
      rfl
  | x, y :: ys, depth, fuel + 1, rest, hx, hxs, hlen => by
      have hy : y.plain = true ∧ plainItems ys = true := by simpa [plainItems] using hxs
      simp only [writtenItems, List.length_append, List.length_cons] at hlen
      have hlen' : (writtenAt s (depth + 1) x).length ≤ fuel := by omega
      have hend : NumberEnds (',' :: (writtenItems s depth (y :: ys) ++ rest)) :=
        numberEnds_cons (by decide) _
      have hread := value?_writtenAt hs x (depth + 1) fuel hx hlen' hend
      have hrest : items? fuel (writtenItems s depth (y :: ys) ++ rest) = _ :=
        items?_writtenItems hs y ys depth fuel hy.1 hy.2 (by omega)
      simp only [writtenItems, List.append_assoc, List.cons_append]
      rw [items?, value?_blanks (hs.newLine _), hread]
      simp only [Option.bind_eq_bind, Option.bind_some, skip_cons (c := ',') (by decide), hrest]
      rfl

theorem members?_writtenMembers {s : Spacing} (hs : s.Blank) :
    ∀ (m : Option String × Json) (ms : List (Option String × Json)) (depth fuel : Nat)
      {rest : List Char}, plainMembers (m :: ms) = true →
      (writtenMembers s depth (m :: ms)).length ≤ fuel →
      members? fuel (writtenMembers s depth (m :: ms) ++ rest) = some (m :: ms, rest)
  | _, ms, _, 0, _, _, hlen => by
      cases ms <;> exact absurd hlen (by simp [writtenMembers])
  | (k, x), [], depth, fuel + 1, rest, hm, hlen => by
      have hx : x.plain = true := by simpa [plainMembers] using hm
      have hlen' : (writtenAt s (depth + 1) x).length ≤ fuel := by
        simp only [writtenMembers, List.length_append, List.length_singleton] at hlen
        omega
      have hend : NumberEnds (s.newLine depth ++ '}' :: rest) :=
        numberEnds_append (hs.newLine _) (numberEnds_cons (by decide) _)
      have hread := value?_writtenAt hs x (depth + 1) fuel hx hlen' hend
      simp only [writtenMembers, List.append_assoc, List.cons_append, List.nil_append]
      rw [members?_key hs, hread]
      simp only [Option.bind_some, skip_append (hs.newLine _), skip_cons (c := '}') (by decide)]
  | (k, x), n :: ns, depth, fuel + 1, rest, hm, hlen => by
      have hx : x.plain = true ∧ plainMembers (n :: ns) = true := by
        simpa [plainMembers] using hm
      simp only [writtenMembers, List.length_append, List.length_cons] at hlen
      have hlen' : (writtenAt s (depth + 1) x).length ≤ fuel := by omega
      have hend : NumberEnds (',' :: (writtenMembers s depth (n :: ns) ++ rest)) :=
        numberEnds_cons (by decide) _
      have hread := value?_writtenAt hs x (depth + 1) fuel hx.1 hlen' hend
      have hrest : members? fuel (writtenMembers s depth (n :: ns) ++ rest) = _ :=
        members?_writtenMembers hs n ns depth fuel hx.2 (by omega)
      simp only [writtenMembers, List.append_assoc, List.cons_append]
      rw [members?_key hs, hread]
      simp only [Option.bind_some, skip_cons (c := ',') (by decide), hrest]

end

/-- A value is read back from its written form. -/
theorem parseChars?_writtenAt {s : Spacing} (hs : s.Blank) {j : Json} (hj : j.plain = true) :
    parseChars? (writtenAt s 0 j) = some j := by
  have hread := value?_writtenAt hs j 0 (2 * (writtenAt s 0 j).length + 2) hj (by omega)
    numberEnds_nil
  rw [List.append_nil] at hread
  rw [parseChars?, hread]
  rfl

/-! ## Texts and files

Written text never contains the character that stands for bad bytes: in a
string it is escaped, and nowhere else does it occur. -/

theorem notUtf8_not_mem_escaped (c : Char) : notUtf8 ∉ escaped c := by
  have hdigit : ∀ {n : Nat}, n < 0x20 →
      notUtf8 ≠ hexDigit (n / 16) ∧ notUtf8 ≠ hexDigit (n % 16) := by decide
  unfold escaped
  split
  iterate 7 decide
  split
  · next h =>
    have := hdigit h
    simp only [List.mem_cons, List.not_mem_nil, or_false, not_or]
    exact ⟨by decide, by decide, by decide, by decide, this.1, this.2⟩
  · next h =>
    rintro hc
    rw [← List.mem_singleton.mp hc] at h
    exact h (by decide)

theorem notUtf8_not_mem_stringToken (t : Option String) : notUtf8 ∉ stringToken t := by
  cases t with
  | none => decide
  | some s =>
      intro h
      simp only [stringToken, List.mem_cons, List.mem_append, List.mem_flatMap, List.not_mem_nil,
        or_false] at h
      rcases h with h | ⟨c, -, h⟩ | h
      · exact absurd h (by decide)
      · exact notUtf8_not_mem_escaped c h
      · exact absurd h (by decide)

theorem notUtf8_not_mem_toDigits (n : Nat) : notUtf8 ∉ Nat.toDigits 10 n := fun h =>
  absurd (Numeral.isDigit_of_mem_toDigits h) (by decide)

theorem notUtf8_not_mem_blanks {bs : List Char} (h : ∀ c ∈ bs, isSpace c = true) :
    notUtf8 ∉ bs := fun hm => absurd (h _ hm) (by decide)

mutual

theorem notUtf8_not_mem_writtenAt {s : Spacing} (hs : s.Blank) :
    ∀ (j : Json) (depth : Nat), j.plain = true → notUtf8 ∉ writtenAt s depth j
  | .null, _, _ => by simp [writtenAt, scalarToken, notUtf8]
  | .bool true, _, _ => by simp [writtenAt, scalarToken, notUtf8]
  | .bool false, _, _ => by simp [writtenAt, scalarToken, notUtf8]
  | .int n, _, _ => by
      simp only [writtenAt, scalarToken, toList_toString_int]
      split
      · exact fun h => (List.mem_cons.mp h).elim (absurd · (by decide))
          (notUtf8_not_mem_toDigits _)
      · exact notUtf8_not_mem_toDigits _
  | .str t, _, _ => notUtf8_not_mem_stringToken t
  | .arr [], _, _ => by simp [writtenAt, scalarToken, notUtf8]
  | .obj [], _, _ => by simp [writtenAt, scalarToken, notUtf8]
  | .arr (x :: xs), depth, hj => fun h => by
      rw [writtenAt, List.mem_cons] at h
      exact h.elim (absurd · (by decide))
        (notUtf8_not_mem_writtenItems hs (x :: xs) depth (by simpa [plain] using hj))
  | .obj (m :: ms), depth, hj => fun h => by
      rw [writtenAt, List.mem_cons] at h
      exact h.elim (absurd · (by decide))
        (notUtf8_not_mem_writtenMembers hs (m :: ms) depth (by simpa [plain] using hj))

theorem notUtf8_not_mem_writtenItems {s : Spacing} (hs : s.Blank) :
    ∀ (xs : List Json) (depth : Nat), plainItems xs = true → notUtf8 ∉ writtenItems s depth xs
  | [], depth, _ => by
      have := notUtf8_not_mem_blanks (hs.newLine depth)
      simpa [writtenItems, notUtf8] using this
  | [x], depth, hxs => by
      have hx : x.plain = true := by simpa [plainItems] using hxs
      simp only [writtenItems, List.mem_append, not_or]
      exact ⟨⟨⟨notUtf8_not_mem_blanks (hs.newLine _), notUtf8_not_mem_writtenAt hs x _ hx⟩,
        notUtf8_not_mem_blanks (hs.newLine _)⟩, by decide⟩
  | x :: y :: ys, depth, hxs => by
      have hx : x.plain = true ∧ plainItems (y :: ys) = true := by
        simpa [plainItems] using hxs
      simp only [writtenItems, List.mem_append, List.mem_cons, not_or]
      exact ⟨⟨notUtf8_not_mem_blanks (hs.newLine _), notUtf8_not_mem_writtenAt hs x _ hx.1⟩,
        by decide, notUtf8_not_mem_writtenItems hs (y :: ys) depth hx.2⟩

theorem notUtf8_not_mem_writtenMembers {s : Spacing} (hs : s.Blank) :
    ∀ (ms : List (Option String × Json)) (depth : Nat), plainMembers ms = true →
      notUtf8 ∉ writtenMembers s depth ms
  | [], depth, _ => by
      have := notUtf8_not_mem_blanks (hs.newLine depth)
      simpa [writtenMembers, notUtf8] using this
  | [(k, x)], depth, hm => by
      have hx : x.plain = true := by simpa [plainMembers] using hm
      simp only [writtenMembers, List.mem_append, List.mem_cons, not_or]
      exact ⟨⟨⟨⟨⟨notUtf8_not_mem_blanks (hs.newLine _), notUtf8_not_mem_stringToken k⟩, by decide,
        notUtf8_not_mem_blanks hs.afterColon⟩, notUtf8_not_mem_writtenAt hs x _ hx⟩,
        notUtf8_not_mem_blanks (hs.newLine _)⟩, by decide, List.not_mem_nil⟩
  | (k, x) :: n :: ns, depth, hm => by
      have hx : x.plain = true ∧ plainMembers (n :: ns) = true := by
        simpa [plainMembers] using hm
      simp only [writtenMembers, List.mem_append, List.mem_cons, not_or]
      exact ⟨⟨⟨⟨notUtf8_not_mem_blanks (hs.newLine _), notUtf8_not_mem_stringToken k⟩, by decide,
        notUtf8_not_mem_blanks hs.afterColon⟩, notUtf8_not_mem_writtenAt hs x _ hx.1⟩, by decide,
        notUtf8_not_mem_writtenMembers hs (n :: ns) depth hx.2⟩

end

/-- A stored text is read back. -/
theorem parse?_writtenAt {s : Spacing} (hs : s.Blank) {j : Json} (hj : j.plain = true) :
    parse? (.ofList (writtenAt s 0 j)) = some j := by
  rw [parse?, String.toList_ofList, if_neg (notUtf8_not_mem_writtenAt hs j 0 hj),
    parseChars?_writtenAt hs hj]

/-- Only one character has a zero among its bytes. -/
theorem zero_mem_encode {cs : List Char} (h : 0 ∈ Utf8.encode cs) : notUtf8 ∈ cs := by
  obtain ⟨c, hc, hzero⟩ := List.mem_flatMap.mp h
  have hbyte : ∀ {n : Nat}, n < 256 → 0 = UInt8.ofNat n → n = 0 := fun hn h => by
    have := congrArg UInt8.toNat h
    rw [Utf8.toNat_ofNat_byte hn] at this
    exact this.symm
  have hlow : c.toNat = 0 := by
    rw [Utf8.utf8EncodeChar_eq c rfl] at hzero
    split at hzero
    · exact hbyte (by omega) (List.mem_singleton.mp hzero)
    split at hzero
    · simp only [List.mem_cons, List.not_mem_nil, or_false] at hzero
      rcases hzero with h | h <;> exact absurd (hbyte (by omega) h) (by omega)
    split at hzero <;> simp only [List.mem_cons, List.not_mem_nil, or_false] at hzero
    · rcases hzero with h | h | h <;> exact absurd (hbyte (by omega) h) (by omega)
    · rcases hzero with h | h | h | h <;> exact absurd (hbyte (by omega) h) (by omega)
  have : c = notUtf8 := Char.toNat_inj.mp hlow
  exact this ▸ hc

/-- The content of a stored file is read back. -/
theorem ofBytes?_writtenAt {s : Spacing} (hs : s.Blank) {j : Json} (hj : j.plain = true) :
    ofBytes? (Utf8.encode (writtenAt s 0 j)) = some j := by
  rw [ofBytes?, if_neg fun h => notUtf8_not_mem_writtenAt hs j 0 hj (zero_mem_encode h),
    Utf8.decodeWith_encode, parseChars?_writtenAt hs hj]

end JobLedger.Json
