import JobLedger.Json.Parser
import JobLedger.Proofs.Text.Blank
import JobLedger.Text.Numeral
import Mathlib.Algebra.Group.Nat.Defs
import Mathlib.Data.List.Induction

/-!
# Decimal numerals read back

A number that is written in decimal is read back as itself, by the reader
of stored times (`readWord_trimChars_toDigits`) and by the reader of JSON
numbers (`digitsValue_toDigits`). Both follow the same recursion: the last
digit of `n` is `n % 10`, and what stands before it are the digits of
`n / 10`. Zeros in front do not change the value, so padded numerals of
different numbers differ (`padded_injective`).

As texts, numerals of one width compare as their numbers do. Of two widths, the
wider one is cut to the length of the other (`padded_append_lt_iff`).
-/

namespace JobLedger

namespace Numeral

/-! ## Digits -/

theorem digit?_digitChar : ∀ {d : Nat}, d < 10 → digit? 10 d.digitChar = some d := by decide

theorem toNat_digitChar : ∀ {d : Nat}, d < 10 → d.digitChar.toNat = d + '0'.toNat := by decide

theorem digitChar_ne_zero : ∀ {d : Nat}, d < 10 → d ≠ 0 → d.digitChar ≠ '0' := by decide

theorem isDigit_of_mem_toDigits {n : Nat} {c : Char} (h : c ∈ Nat.toDigits 10 n) :
    c.isDigit = true :=
  Nat.isDigit_of_mem_toDigits (by decide) (by decide) h

/-- The digits of a number other than zero do not begin with a zero. -/
theorem head?_toDigits_ne {n : Nat} (h : n ≠ 0) : (Nat.toDigits 10 n).head? ≠ some '0' := by
  induction n using Nat.strongRecOn with
  | _ n ih =>
    rw [Nat.toDigits_eq_if (by decide)]
    split
    · next hlt => simpa using digitChar_ne_zero hlt h
    · next hge =>
      have hinit := ih (n / 10) (by omega) (by omega)
      cases hd : Nat.toDigits 10 (n / 10) with
      | nil => exact absurd hd Nat.toDigits_ne_nil
      | cons c r => rwa [hd] at hinit

/-! ## Reading them back -/

theorem readDigits_append (base max v : Nat) (cs ds : List Char) :
    readDigits base max v (cs ++ ds) =
      (readDigits base max v cs).bind (readDigits base max · ds) := by
  induction cs generalizing v with
  | nil => rfl
  | cons c r ih =>
      rw [List.cons_append, readDigits, readDigits]
      cases digit? base c with
      | none => rfl
      | some d =>
          simp only
          split
          · rfl
          · exact ih _

theorem readDigits_toDigits {max n : Nat} (h : n ≤ max) :
    readDigits 10 max 0 (Nat.toDigits 10 n) = .ok n := by
  induction n using Nat.strongRecOn with
  | _ n ih =>
    rw [Nat.toDigits_eq_if (by decide)]
    split
    · next hlt => simp [readDigits, digit?_digitChar hlt, Nat.not_lt.mpr h]
    · next hge =>
      have hdiv : n / 10 * 10 + n % 10 = n := by omega
      rw [readDigits_append, ih (n / 10) (by omega) (by omega)]
      simp [Except.bind, readDigits, digit?_digitChar (Nat.mod_lt n (by decide)), hdiv,
        Nat.not_lt.mpr h]

/-- A numeral has no sign. -/
theorem read_of_isDigit {ds : List Char} (hne : ds ≠ []) (hd : ∀ c ∈ ds, c.isDigit = true)
    (max : Nat) : read 10 max ds = readDigits 10 max 0 ds := by
  cases ds with
  | nil => exact absurd rfl hne
  | cons c r =>
      have hplus : c ≠ '+' := by
        rintro rfl
        exact absurd (hd '+' (List.mem_cons_self ..)) (by decide)
      unfold read
      split
      · next heq => exact nomatch heq
      · next heq => exact absurd (List.cons.inj heq).1 hplus
      · next heq => exact absurd (List.cons.inj heq).1 hplus
      · rfl

theorem read_toDigits {max n : Nat} (h : n ≤ max) : read 10 max (Nat.toDigits 10 n) = .ok n := by
  rw [read_of_isDigit Nat.toDigits_ne_nil (fun _ => isDigit_of_mem_toDigits),
    readDigits_toDigits h]

/-! ## Numerals with zeros in front -/

theorem digit?_of_isDigit {c : Char} (h : c.isDigit = true) :
    digit? 10 c = some (c.toNat - '0'.toNat) := by
  simp only [Char.isDigit, Bool.and_eq_true, decide_eq_true_eq, ge_iff_le] at h
  have hle : '0' ≤ c ∧ c ≤ '9' := h
  have hlt : c.toNat - '0'.toNat < 10 := by
    have hnat : c.toNat ≤ '9'.toNat := UInt32.le_iff_toNat_le.mp h.2
    have hnine : '9'.toNat = '0'.toNat + 9 := rfl
    omega
  rw [digit?, if_pos hle, Option.filter_some, if_pos (decide_eq_true hlt)]

/-- More digits do not make a number smaller. -/
theorem le_ofDigitChars (ds : List Char) (v : Nat) : v ≤ Nat.ofDigitChars 10 ds v := by
  induction ds generalizing v with
  | nil => exact Nat.le_refl v
  | cons c r ih =>
      rw [Nat.ofDigitChars_cons]
      exact Nat.le_trans (by omega) (ih _)

/-- Digits are refused at the point where their value is too large, so they
are refused exactly if the value of them all is. -/
theorem readDigits_of_isDigit {ds : List Char} (hd : ∀ c ∈ ds, c.isDigit = true) {max v : Nat}
    (hv : v ≤ max) :
    readDigits 10 max v ds =
      if Nat.ofDigitChars 10 ds v ≤ max then .ok (Nat.ofDigitChars 10 ds v)
      else .error .tooLarge := by
  induction ds generalizing v with
  | nil => exact (if_pos hv).symm
  | cons c r ih =>
      obtain ⟨hc, hr⟩ := List.forall_mem_cons.mp hd
      rw [readDigits, digit?_of_isDigit hc, Nat.ofDigitChars_cons, Nat.mul_comm 10 v]
      simp only
      split
      · next hlarge =>
        have hmore := le_ofDigitChars r (v * 10 + (c.toNat - '0'.toNat))
        rw [if_neg (by omega)]
      · next hsmall => exact ih hr (Nat.not_lt.mp hsmall)

theorem read_eq_ok_iff {ds : List Char} (hne : ds ≠ []) (hd : ∀ c ∈ ds, c.isDigit = true)
    {max n : Nat} : read 10 max ds = .ok n ↔ Nat.ofDigitChars 10 ds 0 = n ∧ n ≤ max := by
  rw [read_of_isDigit hne hd, readDigits_of_isDigit hd (Nat.zero_le max)]
  split
  · next hle =>
    rw [Except.ok.injEq]
    exact ⟨fun h => ⟨h, h ▸ hle⟩, And.left⟩
  · next hlarge =>
    simp only [reduceCtorEq, false_iff]
    rintro ⟨rfl, hle⟩
    exact hlarge hle

theorem digitChar_sub {c : Char} (h : c.isDigit = true) :
    c.toNat - '0'.toNat < 10 ∧ (c.toNat - '0'.toNat).digitChar = c := by
  have hrange : '0'.toNat ≤ c.toNat ∧ c.toNat ≤ '0'.toNat + 9 := Char.isDigit_iff_toNat.mp h
  have hlt : c.toNat - '0'.toNat < 10 := by omega
  refine ⟨hlt, Char.toNat_inj.mp ?_⟩
  rw [toNat_digitChar hlt]
  omega

/-- Digits that do not begin with a zero are the numeral of their value. -/
theorem toDigits_ofDigitChars {ds : List Char} (hne : ds ≠ [])
    (hd : ∀ c ∈ ds, c.isDigit = true) (hzero : ds.head? ≠ some '0') :
    Nat.toDigits 10 (Nat.ofDigitChars 10 ds 0) = ds := by
  induction ds using List.reverseRecOn with
  | nil => exact absurd rfl hne
  | append_singleton init c ih =>
      obtain ⟨hlt, hc⟩ := digitChar_sub (hd c (by simp))
      rw [Nat.ofDigitChars_append, Nat.ofDigitChars_cons, Nat.ofDigitChars_nil]
      cases init with
      | nil =>
          rw [Nat.ofDigitChars_nil, Nat.mul_zero, Nat.zero_add, Nat.toDigits_of_lt_base hlt, hc,
            List.nil_append]
      | cons d r =>
          have hinit := ih (List.cons_ne_nil d r) (fun x hx => hd x (List.mem_append_left _ hx))
            (by simpa using hzero)
          -- The value of the digits in front is not zero, whose numeral begins with a zero.
          have hpos : 0 < Nat.ofDigitChars 10 (d :: r) 0 := by
            refine Nat.pos_of_ne_zero fun hv => ?_
            rw [hv, Nat.toDigits_zero] at hinit
            rw [← hinit] at hzero
            exact hzero rfl
          rw [← Nat.toDigits_append_toDigits (by decide) hpos hlt, hinit,
            Nat.toDigits_of_lt_base hlt, hc]

/-- A padded numeral keeps its value, however wide it gets. -/
theorem ofDigitChars_padded (width n : Nat) :
    Nat.ofDigitChars 10 (padded width n).toList 0 = n := by
  rw [padded, String.toList_ofList, Nat.ofDigitChars_append, Nat.ofDigitChars_replicate_zero,
    Nat.mul_zero, Nat.ofDigitChars_ten_toDigits]

theorem padded_injective (width : Nat) : Function.Injective (padded width) := by
  intro n m h
  rw [← ofDigitChars_padded width n, h, ofDigitChars_padded]

theorem isDigit_of_mem_padded {width n : Nat} {c : Char} (h : c ∈ (padded width n).toList) :
    c.isDigit = true := by
  rw [padded, String.toList_ofList] at h
  rcases List.mem_append.mp h with h | h
  · rw [List.eq_of_mem_replicate h]
    rfl
  · exact isDigit_of_mem_toDigits h

/-! ## The order of numerals -/

theorem ofDigitChars_cons_eq (c : Char) (ds : List Char) :
    Nat.ofDigitChars 10 (c :: ds) 0 =
      10 ^ ds.length * (c.toNat - '0'.toNat) + Nat.ofDigitChars 10 ds 0 := by
  rw [Nat.ofDigitChars_cons, Nat.ofDigitChars_eq_ofDigitChars_zero, Nat.mul_zero, Nat.zero_add]

theorem ofDigitChars_lt {ds : List Char} (hd : ∀ c ∈ ds, c.isDigit = true) :
    Nat.ofDigitChars 10 ds 0 < 10 ^ ds.length := by
  induction ds with
  | nil => decide
  | cons c ds ih =>
      obtain ⟨hc, hrest⟩ := List.forall_mem_cons.mp hd
      have hlast := ih hrest
      have hdigit : c.toNat - '0'.toNat ≤ 9 := Nat.le_of_lt_succ (digitChar_sub hc).1
      have hfirst := Nat.mul_le_mul_left (10 ^ ds.length) hdigit
      rw [ofDigitChars_cons_eq, List.length_cons, Nat.pow_succ]
      omega

/-- The more significant of two parts decides. -/
theorem mul_add_lt_iff {k a b x y : Nat} (hx : x < k) (hy : y < k) :
    k * a + x < k * b + y ↔ a < b ∨ a = b ∧ x < y := by
  rcases Nat.lt_trichotomy a b with hlt | rfl | hgt
  · have hle := Nat.mul_le_mul_left k (Nat.succ_le_of_lt hlt)
    rw [Nat.mul_succ] at hle
    exact ⟨fun _ => .inl hlt, fun _ => by omega⟩
  · simp
  · have hle := Nat.mul_le_mul_left k (Nat.succ_le_of_lt hgt)
    rw [Nat.mul_succ] at hle
    constructor <;> intro h <;> omega

theorem lt_iff_digit {c d : Char} (hc : c.isDigit = true) (hd : d.isDigit = true) :
    (c < d ↔ c.toNat - '0'.toNat < d.toNat - '0'.toNat) ∧
      (c = d ↔ c.toNat - '0'.toNat = d.toNat - '0'.toNat) := by
  have hcr : '0'.toNat ≤ c.toNat ∧ c.toNat ≤ '0'.toNat + 9 := Char.isDigit_iff_toNat.mp hc
  have hdr : '0'.toNat ≤ d.toNat ∧ d.toNat ≤ '0'.toNat + 9 := Char.isDigit_iff_toNat.mp hd
  have hlt : c < d ↔ c.toNat < d.toNat := Iff.rfl
  rw [hlt, ← Char.toNat_inj]
  omega

/-- Digits before a character that is above all digits compare as the values of
the digits that both texts have, whatever comes behind that character. -/
theorem append_lt_append_iff {s : Char} (hs : ∀ c : Char, c.isDigit = true → c < s)
    (u v : List Char) :
    ∀ {ds es : List Char}, (∀ c ∈ ds, c.isDigit = true) → (∀ c ∈ es, c.isDigit = true) →
      ds.length ≤ es.length →
      (ds ++ s :: u < es ++ s :: v ↔
        Nat.ofDigitChars 10 ds 0 < Nat.ofDigitChars 10 es 0 / 10 ^ (es.length - ds.length) ∨
          ds = es ∧ u < v)
  | [], [], _, _, _ => by simp
  | [], e :: es, _, he, _ => by
      have hsmall := ofDigitChars_lt he
      have habove := hs e (he e (List.mem_cons_self ..))
      rw [List.length_nil, Nat.sub_zero, Nat.div_eq_of_lt hsmall, List.nil_append, List.cons_append,
        List.cons_lt_cons_iff]
      have hnot : ¬s < e := fun h => absurd (Std.lt_trans h habove) (Std.lt_irrefl)
      have hne : s ≠ e := fun h => absurd (h ▸ habove) (Std.lt_irrefl)
      simp [hnot, hne]
  | d :: ds, e :: es, hd, he, hlength => by
      obtain ⟨hd1, hds⟩ := List.forall_mem_cons.mp hd
      obtain ⟨he1, hes⟩ := List.forall_mem_cons.mp he
      have hle : ds.length ≤ es.length := Nat.le_of_succ_le_succ hlength
      have ih := append_lt_append_iff hs u v hds hes hle
      have hpow : 10 ^ es.length = 10 ^ (es.length - ds.length) * 10 ^ ds.length := by
        rw [← Nat.pow_add, Nat.sub_add_cancel hle]
      have hpos : 0 < 10 ^ (es.length - ds.length) := Nat.pow_pos (by decide)
      have hcut : Nat.ofDigitChars 10 es 0 / 10 ^ (es.length - ds.length) < 10 ^ ds.length :=
        Nat.div_lt_of_lt_mul (hpow ▸ ofDigitChars_lt hes)
      have hdiv : Nat.ofDigitChars 10 (e :: es) 0 / 10 ^ (es.length - ds.length) =
          10 ^ ds.length * (e.toNat - '0'.toNat) +
            Nat.ofDigitChars 10 es 0 / 10 ^ (es.length - ds.length) := by
        rw [ofDigitChars_cons_eq, hpow, Nat.mul_assoc, Nat.mul_add_div hpos]
      rw [List.cons_append, List.cons_append, List.cons_lt_cons_iff, ih, List.length_cons,
        List.length_cons, Nat.add_sub_add_right, hdiv, ofDigitChars_cons_eq,
        mul_add_lt_iff (ofDigitChars_lt hds) hcut, (lt_iff_digit hd1 he1).1,
        (lt_iff_digit hd1 he1).2, List.cons.injEq, (lt_iff_digit hd1 he1).2]
      tauto

/-- How many characters a padded numeral has. -/
def width (w n : Nat) : Nat := max w (Nat.toDigits 10 n).length

theorem length_padded (w n : Nat) : (padded w n).toList.length = width w n := by
  rw [padded, String.toList_ofList, List.length_append, List.length_replicate, width]
  omega

theorem width_le_iff {w n k : Nat} (hk : 0 < k) : width w n ≤ k ↔ w ≤ k ∧ n < 10 ^ k := by
  rw [width, Nat.max_le, Nat.length_toDigits_le_iff (by decide) hk]

theorem width_mono (w : Nat) {m n : Nat} (h : m ≤ n) : width w m ≤ width w n := by
  have hpos : 0 < width w n := Nat.lt_of_lt_of_le Nat.length_toDigits_pos (Nat.le_max_right ..)
  obtain ⟨hw, hn⟩ := (width_le_iff hpos).mp (Nat.le_refl _)
  exact (width_le_iff hpos).mpr ⟨hw, Nat.lt_of_le_of_lt h hn⟩

/-- Padded numerals before a character that is above all digits. -/
theorem padded_append_lt_iff {s : Char} (hs : ∀ c : Char, c.isDigit = true → c < s) (w : Nat)
    {m n : Nat} (h : m < n) (u v : List Char) :
    (padded w m).toList ++ s :: u < (padded w n).toList ++ s :: v ↔
      m < n / 10 ^ (width w n - width w m) := by
  have hle := width_mono w (Nat.le_of_lt h)
  rw [← length_padded, ← length_padded] at hle
  rw [append_lt_append_iff hs u v (fun _ => isDigit_of_mem_padded) (fun _ => isDigit_of_mem_padded)
    hle, ofDigitChars_padded, ofDigitChars_padded, length_padded, length_padded]
  refine or_iff_left fun heq => ?_
  have hsame := padded_injective w (String.toList_inj.mp heq.1)
  omega

/-! ## What a numeral is made of -/

theorem isSome_digit?_of_readDigits {base max : Nat} {cs : List Char} {v n : Nat}
    (h : readDigits base max v cs = .ok n) {c : Char} (hc : c ∈ cs) :
    (digit? base c).isSome = true := by
  induction cs generalizing v with
  | nil => exact absurd hc List.not_mem_nil
  | cons c' r ih =>
      rw [readDigits] at h
      split at h
      · cases h
      · next d hd =>
        simp only at h
        split at h
        · cases h
        · rcases List.mem_cons.mp hc with rfl | hc
          · rw [hd]
            rfl
          · exact ih h hc

theorem mem_of_read {base max : Nat} {cs : List Char} {n : Nat} (h : read base max cs = .ok n)
    {c : Char} (hc : c ∈ cs) : c = '+' ∨ (digit? base c).isSome = true := by
  rw [read.eq_def] at h
  split at h
  · cases h
  · cases h
  · rcases List.mem_cons.mp hc with hc | hc
    · exact .inl hc
    · exact .inr (isSome_digit?_of_readDigits h hc)
  · exact .inr (isSome_digit?_of_readDigits h hc)

/-! ## What is read as a numeral -/

theorem isDigit_of_isSome_digit? {c : Char} (h : (digit? 10 c).isSome = true) :
    c.isDigit = true := by
  obtain ⟨d, hd⟩ := Option.isSome_iff_exists.mp h
  obtain ⟨hvalue, hlt⟩ := Option.filter_eq_some_iff.mp hd
  have hlt : d < 10 := of_decide_eq_true hlt
  split at hvalue
  · next hc =>
    simp only [Char.isDigit, Bool.and_eq_true, decide_eq_true_eq, ge_iff_le]
    exact hc
  · -- The value of a letter is ten or more.
    split at hvalue
    · cases hvalue
      omega
    · split at hvalue
      · cases hvalue
        omega
      · cases hvalue

theorem readDigits_eq_ok_iff {ds : List Char} {max n : Nat} :
    readDigits 10 max 0 ds = .ok n ↔
      (∀ c ∈ ds, c.isDigit = true) ∧ Nat.ofDigitChars 10 ds 0 = n ∧ n ≤ max := by
  constructor
  · intro h
    have hd : ∀ c ∈ ds, c.isDigit = true := fun c hc =>
      isDigit_of_isSome_digit? (isSome_digit?_of_readDigits h hc)
    rw [readDigits_of_isDigit hd (Nat.zero_le max)] at h
    split at h
    · next hle =>
      obtain rfl := Except.ok.inj h
      exact ⟨hd, rfl, hle⟩
    · cases h
  · rintro ⟨hd, rfl, hle⟩
    rw [readDigits_of_isDigit hd (Nat.zero_le max), if_pos hle]

/-- A number in decimal digits, with or without a plus sign in front. -/
def IsDecimal (cs : List Char) (n : Nat) : Prop :=
  ∃ ds, (cs = ds ∨ cs = '+' :: ds) ∧ ds ≠ [] ∧ (∀ c ∈ ds, c.isDigit = true) ∧
    Nat.ofDigitChars 10 ds 0 = n

theorem isDecimal_padded (width n : Nat) : IsDecimal (padded width n).toList n := by
  refine ⟨_, .inl rfl, ?_, fun c hc => isDigit_of_mem_padded hc, ofDigitChars_padded width n⟩
  simp [padded, Nat.toDigits_ne_nil]

theorem IsDecimal.not_mem {cs : List Char} {n : Nat} (h : IsDecimal cs n) {c : Char}
    (hplus : c ≠ '+') (hdigit : c.isDigit = false) : c ∉ cs := by
  obtain ⟨ds, rfl | rfl, -, hds, -⟩ := h
  · exact fun hc => by simp [hds c hc] at hdigit
  · intro hc
    rcases List.mem_cons.mp hc with rfl | hc
    · exact hplus rfl
    · simp [hds c hc] at hdigit

theorem read_eq_ok_iff_isDecimal {cs : List Char} {max n : Nat} :
    read 10 max cs = .ok n ↔ IsDecimal cs n ∧ n ≤ max := by
  have hsigned : ∀ {ds}, ds ≠ [] → read 10 max ('+' :: ds) = readDigits 10 max 0 ds := by
    intro ds hne
    cases ds with
    | nil => exact absurd rfl hne
    | cons c r => rfl
  constructor
  · intro h
    rw [read.eq_def] at h
    split at h
    · cases h
    · cases h
    · next r hr =>
      obtain ⟨hd, hvalue, hle⟩ := readDigits_eq_ok_iff.mp h
      have hne : r ≠ [] := by
        rintro rfl
        exact hr rfl
      exact ⟨⟨r, .inr rfl, hne, hd, hvalue⟩, hle⟩
    · next hne _ _ =>
      obtain ⟨hd, hvalue, hle⟩ := readDigits_eq_ok_iff.mp h
      exact ⟨⟨cs, .inl rfl, hne, hd, hvalue⟩, hle⟩
  · rintro ⟨⟨ds, rfl | rfl, hne, hd, hvalue⟩, hle⟩
    · exact (read_eq_ok_iff hne hd).mpr ⟨hvalue, hle⟩
    · exact (hsigned hne).trans (readDigits_eq_ok_iff.mpr ⟨hd, hvalue, hle⟩)

theorem readWord_eq_ok_iff {cs : List Char} {n : UInt64} :
    readWord cs = .ok n ↔ IsDecimal cs n.toNat := by
  have hmax : n.toNat ≤ maxWord := Nat.le_of_lt_succ n.toNat_lt
  constructor
  · intro h
    rw [readWord] at h
    cases hread : read 10 maxWord cs with
    | error fault => rw [hread] at h; cases h
    | ok k =>
        rw [hread] at h
        obtain ⟨hdecimal, hle⟩ := read_eq_ok_iff_isDecimal.mp hread
        have hk : (UInt64.ofNat k).toNat = k :=
          UInt64.toNat_ofNat_of_lt' (Nat.lt_succ_of_le hle)
        rw [← Except.ok.inj h, hk]
        exact hdecimal
  · intro h
    rw [readWord, read_eq_ok_iff_isDecimal.mpr ⟨h, hmax⟩]
    simp [Except.map]

/-! ## Blanks around a numeral -/

theorem not_isBlank_of_isDigit {c : Char} (h : c.isDigit = true) : ¬isBlank c = true := by
  have hle : '0'.toNat ≤ c.toNat ∧ c.toNat ≤ '0'.toNat + 9 := Char.isDigit_iff_toNat.mp h
  have hzero : '0'.toNat = 48 := rfl
  simp only [isBlank, blankRanges, List.any_cons, List.any_nil, Bool.or_eq_true, Bool.and_eq_true,
    decide_eq_true_eq, Bool.false_eq_true, or_false]
  omega

/-- Digits are no blanks, so trimming leaves a numeral as it is. -/
theorem trimChars_toDigits (n : Nat) : trimChars (Nat.toDigits 10 n) = Nat.toDigits 10 n := by
  have hblank : ∀ c ∈ Nat.toDigits 10 n, ¬isBlank c = true := fun c hc =>
    not_isBlank_of_isDigit (isDigit_of_mem_toDigits hc)
  exact trimChars_eq_self (fun c hc => hblank c (List.mem_of_mem_head? hc))
    fun c hc => hblank c (List.mem_of_getLast? hc)

theorem IsDecimal.not_isBlank {cs : List Char} {n : Nat} (h : IsDecimal cs n) :
    ∀ c ∈ cs, ¬isBlank c = true := by
  obtain ⟨ds, rfl | rfl, -, hd, -⟩ := h
  · exact fun c hc => not_isBlank_of_isDigit (hd c hc)
  · exact List.forall_mem_cons.mpr ⟨by decide, fun c hc => not_isBlank_of_isDigit (hd c hc)⟩

/-- A time that is written in decimal is read back. -/
theorem readWord_trimChars_toDigits (n : UInt64) :
    readWord (trimChars (Nat.toDigits 10 n.toNat)) = .ok n := by
  have hle : n.toNat ≤ maxWord := by
    have := n.toNat_lt
    unfold maxWord
    omega
  rw [trimChars_toDigits, readWord, read_toDigits hle]
  simp [Except.map]

end Numeral

namespace Json

/-- The digits of a JSON integer have its value. -/
theorem digitsValue_toDigits (n : Nat) : digitsValue (Nat.toDigits 10 n) = n := by
  induction n using Nat.strongRecOn with
  | _ n ih =>
    rw [Nat.toDigits_eq_if (by decide)]
    split
    · next hlt => simp [digitsValue, Numeral.toNat_digitChar hlt]
    · next hge =>
      have hlast : (n % 10).digitChar.toNat - '0'.toNat = n % 10 := by
        rw [Numeral.toNat_digitChar (Nat.mod_lt n (by decide))]
        omega
      have hinit : digitsValue (Nat.toDigits 10 (n / 10)) = n / 10 := ih (n / 10) (by omega)
      unfold digitsValue at hinit ⊢
      rw [List.foldl_append, hinit, List.foldl_cons, List.foldl_nil, hlast]
      omega

end Json

end JobLedger
