import JobLedger.Proofs.Text.Numeral
import JobLedger.Proofs.Text.Utf8
import JobLedger.Text.Hex

/-!
# Hexadecimal text read back

Bytes that are written in hexadecimal form are read back as they were
(`decode?_encode`), so the form of two different byte sequences is
different, and the forms are in the order of the bytes, also with the same
ending behind all of them (`encode_append_lt_iff`).

What is read (`decode?_eq_some_iff`) are the texts of an even number of
digits, in either case, where a plus sign may stand for the first digit of a
pair, since that is how a number may begin. It makes no difference that a
text is cut at every other byte and not at every other character
(`decodeSlices?_eq`): where a character has more than one byte, neither way
finds a number.
-/

namespace JobLedger.Hex

theorem digit?_digit : ∀ {d : Nat}, d < 16 → Numeral.digit? 16 (digit d) = some d := by decide

theorem digit_ne_plus : ∀ {d : Nat}, d < 16 → digit d ≠ '+' := by decide

theorem byte?_digit {m n : Nat} (hm : m < 16) (hn : n < 16) :
    byte? (digit m) (digit n) = some (UInt8.ofNat (m * 16 + n)) := by
  have hread : Numeral.read 16 255 [digit m, digit n] = .ok (m * 16 + n) := by
    unfold Numeral.read
    split
    · next heq => exact nomatch heq
    · next heq => exact absurd (List.cons.inj heq).1 (digit_ne_plus hm)
    · next heq => exact absurd (List.cons.inj heq).1 (digit_ne_plus hm)
    · have hmax : ¬255 < m * 16 + n := by omega
      have hmax' : ¬255 < m := by omega
      simp [Numeral.readDigits, digit?_digit hm, digit?_digit hn, hmax, hmax']
  rw [byte?, hread]

theorem decode?_encode : ∀ bs : Bytes, decode? (encode bs) = some bs
  | [] => rfl
  | b :: r => by
      have hlt := b.toNat_lt
      have hdiv : b.toNat / 16 * 16 + b.toNat % 16 = b.toNat := by omega
      have hb := byte?_digit (m := b.toNat / 16) (n := b.toNat % 16) (by omega) (by omega)
      rw [hdiv, UInt8.ofNat_toNat] at hb
      rw [encode, List.flatMap_cons, ← encode]
      simp [decode?, hb, decode?_encode r]

theorem encode_injective {bs cs : Bytes} (h : encode bs = encode cs) : bs = cs := by
  have hbs := decode?_encode bs
  rw [h, decode?_encode cs] at hbs
  exact (Option.some.inj hbs).symm

theorem exists_digit_of_mem_encode {bs : Bytes} {c : Char} (h : c ∈ encode bs) :
    ∃ d < 16, c = digit d := by
  obtain ⟨b, -, hc⟩ := List.mem_flatMap.mp h
  have hlt := b.toNat_lt
  rcases List.mem_cons.mp hc with rfl | hc
  · exact ⟨_, by omega, rfl⟩
  · exact ⟨_, by omega, List.mem_singleton.mp hc⟩

/-! ## The order of hexadecimal texts -/

theorem digit_lt_digit : ∀ {m n : Nat}, m < 16 → n < 16 → (digit m < digit n ↔ m < n) := by
  have h : ∀ m < 16, ∀ n < 16, digit m < digit n ↔ m < n := by decide
  exact fun {m n} hm hn => h m hm n hn

theorem digit_injective {m n : Nat} (hm : m < 16) (hn : n < 16) (h : digit m = digit n) :
    m = n := by
  have hread := digit?_digit hm
  rw [h, digit?_digit hn] at hread
  exact (Option.some.inj hread).symm

theorem encode_cons (b : UInt8) (r : Bytes) :
    encode (b :: r) = digit (b.toNat / 16) :: digit (b.toNat % 16) :: encode r := rfl

/-- Texts are ordered as their bytes are, also with the same end behind both, as
long as that begins with a character before the digits: the end of the shorter
one is then met by a digit of the longer one. -/
theorem encode_append_lt_iff {u : List Char} (hu : ∀ c ∈ u.head?, ∀ d < 16, c < digit d) :
    ∀ {a b : Bytes}, encode a ++ u < encode b ++ u ↔ a < b
  | [], [] => by simp
  | [], y :: ys => by
      have hlt := y.toNat_lt
      refine iff_of_true ?_ (List.nil_lt_cons ..)
      rw [encode_cons]
      cases u with
      | nil => exact List.nil_lt_cons ..
      | cons c u => exact List.cons_lt_cons_iff.mpr (.inl (hu c rfl _ (by omega)))
  | x :: xs, [] => by
      have hlt := x.toNat_lt
      refine iff_of_false ?_ (List.not_lt_nil _)
      rw [encode_cons]
      cases u with
      | nil => exact List.not_lt_nil _
      | cons c u =>
          have hc := hu c rfl (x.toNat / 16) (by omega)
          intro h
          rcases List.cons_lt_cons_iff.mp h with h | ⟨rfl, -⟩
          · exact Std.lt_irrefl (Std.lt_trans h hc)
          · exact absurd hc Std.lt_irrefl
  | x :: xs, y :: ys => by
      have hx := x.toNat_lt
      have hy := y.toNat_lt
      have hdiv : digit (x.toNat / 16) = digit (y.toNat / 16) ↔ x.toNat / 16 = y.toNat / 16 :=
        ⟨digit_injective (by omega) (by omega), fun h => by rw [h]⟩
      have hmod : digit (x.toNat % 16) = digit (y.toNat % 16) ↔ x.toNat % 16 = y.toNat % 16 :=
        ⟨digit_injective (by omega) (by omega), fun h => by rw [h]⟩
      simp only [encode_cons, List.cons_append, List.cons_lt_cons_iff, encode_append_lt_iff hu,
        digit_lt_digit (show x.toNat / 16 < 16 by omega) (show y.toNat / 16 < 16 by omega),
        digit_lt_digit (show x.toNat % 16 < 16 by omega) (show y.toNat % 16 < 16 by omega),
        hdiv, hmod, UInt8.lt_iff_toNat_lt, ← UInt8.toNat_inj]
      constructor
      · rintro (h | ⟨h, h' | ⟨h', hr⟩⟩)
        · exact .inl (by omega)
        · exact .inl (by omega)
        · exact .inr ⟨by omega, hr⟩
      · rintro (h | ⟨h, hr⟩)
        · rcases Utf8.div_lt_or_mod_lt h 16 with h | h
          · exact .inl h
          · exact .inr ⟨h.1, .inl h.2⟩
        · exact .inr ⟨by rw [h], .inr ⟨by rw [h], hr⟩⟩

theorem text_append_lt_iff {u : String} (hu : ∀ c ∈ u.toList.head?, ∀ d < 16, c < digit d)
    {a b : Bytes} : text a ++ u < text b ++ u ↔ a < b := by
  rw [← encode_append_lt_iff hu]
  show (text a ++ u).toList < (text b ++ u).toList ↔ _
  rw [String.toList_append, String.toList_append, text, text, String.toList_ofList,
    String.toList_ofList]

/-! ## The texts that are read -/

/-- A hexadecimal digit, in either case. -/
def IsDigit (c : Char) : Prop :=
  ('0' ≤ c ∧ c ≤ '9') ∨ ('a' ≤ c ∧ c ≤ 'f') ∨ ('A' ≤ c ∧ c ≤ 'F')

instance (c : Char) : Decidable (IsDigit c) :=
  inferInstanceAs (Decidable (('0' ≤ c ∧ c ≤ '9') ∨ ('a' ≤ c ∧ c ≤ 'f') ∨ ('A' ≤ c ∧ c ≤ 'F')))

theorem lt_of_digit? {base d : Nat} {c : Char} (h : Numeral.digit? base c = some d) : d < base :=
  of_decide_eq_true (Option.filter_eq_some_iff.mp h).2

theorem toNat_lt_of_isSome_digit? {c : Char} (h : (Numeral.digit? 16 c).isSome = true) :
    c.toNat < 128 := by
  by_contra hc
  have hz : ∀ {z : Char}, z.toNat < 128 → ¬c ≤ z := fun hz hle => hc (Nat.lt_of_le_of_lt hle hz)
  simp [Numeral.digit?, hz (z := '9') (by decide), hz (z := 'z') (by decide),
    hz (z := 'Z') (by decide)] at h

theorem IsDigit.toNat_lt {c : Char} (h : IsDigit c) : c.toNat < 128 := by
  rcases h with ⟨-, h⟩ | ⟨-, h⟩ | ⟨-, h⟩ <;> exact Nat.lt_of_le_of_lt h (by decide)

/-- The digits are read with their values, and written as they are read but in
lower case. -/
theorem digit?_eq_some_iff {c : Char} {d : Nat} :
    Numeral.digit? 16 c = some d ↔ d < 16 ∧ IsDigit c ∧ digit d = c.toLower := by
  have hascii : ∀ n < 128, ∀ d < 16, Numeral.digit? 16 (Char.ofNat n) = some d ↔
      IsDigit (Char.ofNat n) ∧ digit d = (Char.ofNat n).toLower := by decide
  constructor
  · intro h
    have hd := lt_of_digit? h
    have hc := toNat_lt_of_isSome_digit? (by rw [h]; rfl)
    refine ⟨hd, ?_⟩
    rw [← Char.ofNat_toNat c] at h ⊢
    exact (hascii _ hc d hd).mp h
  · rintro ⟨hd, hdigit, hlow⟩
    have hc := hdigit.toNat_lt
    rw [← Char.ofNat_toNat c] at hdigit hlow ⊢
    exact (hascii _ hc d hd).mpr ⟨hdigit, hlow⟩

/-- The digit that a character stands for in front of another one: there, a plus
sign counts as nothing. -/
def lowered (c : Char) : Char := if c = '+' then '0' else c.toLower

theorem not_isDigit_plus : ¬IsDigit '+' := by decide

theorem IsDigit.lowered_eq {c : Char} (h : IsDigit c) : lowered c = c.toLower := by
  have hc : c ≠ '+' := by
    rintro rfl
    exact not_isDigit_plus h
  rw [lowered, if_neg hc]

theorem byte?_plus (b : Char) : byte? '+' b = (Numeral.digit? 16 b).map UInt8.ofNat := by
  rw [byte?, show Numeral.read 16 255 ['+', b] = Numeral.readDigits 16 255 0 [b] from rfl]
  cases h : Numeral.digit? 16 b with
  | none => simp [Numeral.readDigits, h]
  | some d =>
      have hmax : ¬255 < d := by have := lt_of_digit? h; omega
      simp [Numeral.readDigits, h, hmax]

theorem byte?_of_ne_plus {a : Char} (ha : a ≠ '+') (b : Char) :
    byte? a b = (Numeral.digit? 16 a).bind fun m =>
      (Numeral.digit? 16 b).map fun n => UInt8.ofNat (m * 16 + n) := by
  have hread : Numeral.read 16 255 [a, b] = Numeral.readDigits 16 255 0 [a, b] := by
    unfold Numeral.read
    split <;> simp_all
  rw [byte?, hread]
  cases hm : Numeral.digit? 16 a with
  | none => simp [Numeral.readDigits, hm]
  | some m =>
      have hm' := lt_of_digit? hm
      have hmax : ¬255 < m := by omega
      cases hn : Numeral.digit? 16 b with
      | none => simp [Numeral.readDigits, hm, hn, hmax]
      | some n =>
          have hn' := lt_of_digit? hn
          have hmax' : ¬255 < m * 16 + n := by omega
          simp [Numeral.readDigits, hm, hn, hmax, hmax']

theorem byte?_eq_some_iff {a b : Char} {x : UInt8} :
    byte? a b = some x ↔ (IsDigit a ∨ a = '+') ∧ IsDigit b ∧
      digit (x.toNat / 16) = lowered a ∧ digit (x.toNat % 16) = lowered b := by
  have hx := x.toNat_lt
  -- The two halves of a byte are the only numbers below 16 that give it.
  have hhalves : ∀ {m n : Nat}, m < 16 → n < 16 →
      (UInt8.ofNat (m * 16 + n) = x ↔ x.toNat / 16 = m ∧ x.toNat % 16 = n) := by
    intro m n hm hn
    rw [← UInt8.toNat_inj, Utf8.toNat_ofNat_byte (by omega)]
    omega
  have hlow : ∀ {m : Nat} {c : Char}, m < 16 →
      (Numeral.digit? 16 c = some m ↔ IsDigit c ∧ digit m = lowered c) := by
    intro m c hm
    rw [digit?_eq_some_iff, and_iff_right hm]
    exact and_congr_right fun hc => by rw [hc.lowered_eq]
  by_cases ha : a = '+'
  · subst ha
    have hzero : digit (x.toNat / 16) = lowered '+' ↔ x.toNat / 16 = 0 :=
      ⟨digit_injective (n := 0) (by omega) (by decide), fun h => by rw [h]; rfl⟩
    rw [byte?_plus, Option.map_eq_some_iff, hzero]
    constructor
    · rintro ⟨n, hn, hnx⟩
      have hn' := lt_of_digit? hn
      obtain ⟨hdiv, hmod⟩ :=
        (hhalves (m := 0) (by decide) hn').mp (by rwa [Nat.zero_mul, Nat.zero_add])
      obtain ⟨hb, hdigit⟩ := (hlow hn').mp hn
      exact ⟨.inr rfl, hb, hdiv, by rwa [hmod]⟩
    · rintro ⟨-, hb, hdiv, hmod⟩
      refine ⟨x.toNat % 16, (hlow (by omega)).mpr ⟨hb, hmod⟩, ?_⟩
      rw [← Nat.zero_add (x.toNat % 16), ← Nat.zero_mul 16]
      exact (hhalves (by decide) (by omega)).mpr ⟨hdiv, rfl⟩
  · rw [byte?_of_ne_plus ha, Option.bind_eq_some_iff, or_iff_left ha]
    constructor
    · rintro ⟨m, hm, hbind⟩
      obtain ⟨n, hn, hx'⟩ := Option.map_eq_some_iff.mp hbind
      have hm' := lt_of_digit? hm
      have hn' := lt_of_digit? hn
      obtain ⟨hdiv, hmod⟩ := (hhalves hm' hn').mp hx'
      obtain ⟨ha', hma⟩ := (hlow hm').mp hm
      obtain ⟨hb', hnb⟩ := (hlow hn').mp hn
      exact ⟨ha', hb', by rwa [hdiv], by rwa [hmod]⟩
    · rintro ⟨ha', hb', hdiv, hmod⟩
      refine ⟨x.toNat / 16, (hlow (by omega)).mpr ⟨ha', hdiv⟩, ?_⟩
      refine Option.map_eq_some_iff.mpr ⟨x.toNat % 16, (hlow (by omega)).mpr ⟨hb', hmod⟩, ?_⟩
      exact (hhalves (by omega) (by omega)).mpr ⟨rfl, rfl⟩

/-- A character may stand at a place of a text that is read: a digit anywhere, a
plus sign where a pair begins. -/
def MayStand (i : Nat) (c : Char) : Prop := IsDigit c ∨ c = '+' ∧ i % 2 = 0

theorem decode?_eq_some_iff : ∀ {cs : List Char} {bs : Bytes},
    decode? cs = some bs ↔ cs.length % 2 = 0 ∧ (∀ i c, cs[i]? = some c → MayStand i c) ∧
      encode bs = cs.map lowered
  | [], bs => by
      have hnil : ([] : Bytes) = bs ↔ encode bs = [] := by
        rw [eq_comm]
        exact ⟨fun h => by rw [h]; rfl, fun h => encode_injective h⟩
      simp [decode?, hnil]
  | [_], _ => by simp [decode?]
  | a :: b :: r, bs => by
      have hplaces : (∀ i c, (a :: b :: r)[i]? = some c → MayStand i c) ↔
          (IsDigit a ∨ a = '+') ∧ IsDigit b ∧ ∀ i c, r[i]? = some c → MayStand i c := by
        have hshift : ∀ i c, MayStand (i + 2) c ↔ MayStand i c := fun i c => by
          rw [MayStand, MayStand, Nat.add_mod_right]
        constructor
        · intro h
          refine ⟨?_, ?_, fun i c hc => (hshift i c).mp (h (i + 2) c hc)⟩
          · simpa [MayStand] using h 0 a rfl
          · simpa [MayStand] using h 1 b rfl
        · rintro ⟨ha, hb, hr⟩ i c hc
          match i with
          | 0 => simpa [MayStand, ← Option.some.inj hc] using ha
          | 1 => simpa [MayStand, ← Option.some.inj hc] using hb
          | i + 2 => exact (hshift i c).mpr (hr i c hc)
      have hlength : (a :: b :: r).length % 2 = r.length % 2 := Nat.add_mod_right r.length 2
      rw [hplaces, hlength, decode?, Option.bind_eq_bind, Option.bind_eq_some_iff]
      constructor
      · rintro ⟨x, hx, hrest⟩
        obtain ⟨xs, hxs, hbs⟩ := Option.bind_eq_some_iff.mp hrest
        obtain rfl := Option.some.inj hbs
        obtain ⟨ha, hb, hdiv, hmod⟩ := byte?_eq_some_iff.mp hx
        obtain ⟨hlen, hr, hencode⟩ := decode?_eq_some_iff.mp hxs
        refine ⟨hlen, ⟨ha, hb, hr⟩, ?_⟩
        rw [encode_cons, hdiv, hmod, hencode]
        rfl
      · rintro ⟨hlen, ⟨ha, hb, hr⟩, hencode⟩
        cases bs with
        | nil => simp [encode] at hencode
        | cons x xs =>
            rw [encode_cons] at hencode
            simp only [List.map_cons, List.cons.injEq] at hencode
            obtain ⟨hdiv, hmod, hencode⟩ := hencode
            refine ⟨x, byte?_eq_some_iff.mpr ⟨ha, hb, hdiv, hmod⟩, ?_⟩
            have hxs := decode?_eq_some_iff.mpr ⟨hlen, hr, hencode⟩
            exact Option.bind_eq_some_iff.mpr ⟨xs, hxs, rfl⟩

theorem mem_of_decode? {cs : List Char} {bs : Bytes} (h : decode? cs = some bs) {c : Char}
    (hc : c ∈ cs) : c = '+' ∨ IsDigit c := by
  obtain ⟨i, hi⟩ := List.mem_iff_getElem?.mp hc
  exact ((decode?_eq_some_iff.mp h).2.1 i c hi).symm.imp And.left id

theorem utf8Size_of_toNat_lt {c : Char} (h : c.toNat < 128) : c.utf8Size = 1 :=
  Char.utf8Size_eq_one_iff.mpr (Nat.le_of_lt_succ h)

theorem MayStand.utf8Size {i : Nat} {c : Char} (h : MayStand i c) : c.utf8Size = 1 := by
  rcases h with h | ⟨rfl, -⟩
  · exact utf8Size_of_toNat_lt h.toNat_lt
  · rfl

theorem length_encode_of_utf8Size {cs : List Char} (h : ∀ c ∈ cs, c.utf8Size = 1) :
    (Utf8.encode cs).length = cs.length := by
  induction cs with
  | nil => rfl
  | cons c r ih =>
      obtain ⟨hc, hr⟩ := List.forall_mem_cons.mp h
      rw [Utf8.length_encode_cons, hc, ih hr, List.length_cons, Nat.add_comm]

/-- The texts that are read, and as what. -/
theorem decode?_toList_eq_some_iff {s : String} {bs : Bytes} :
    decode? s.toList = some bs ↔ (Utf8.bytes s).length % 2 = 0 ∧
      (∀ i c, s.toList[i]? = some c → MayStand i c) ∧ text bs = s.map lowered := by
  have htext : text bs = s.map lowered ↔ encode bs = s.toList.map lowered := by
    rw [← String.toList_inj, text, String.toList_ofList, String.toList_map]
  rw [decode?_eq_some_iff, htext]
  refine and_congr_left fun hread => ?_
  have hsize : ∀ c ∈ s.toList, c.utf8Size = 1 := fun c hc => by
    obtain ⟨i, hi⟩ := List.mem_iff_getElem?.mp hc
    exact (hread.1 i c hi).utf8Size
  rw [Utf8.bytes, length_encode_of_utf8Size hsize]

/-- Without a plus sign, what is read is the hexadecimal form of the bytes, in either
case. -/
theorem decode?_of_no_plus {s : String} (hplus : '+' ∉ s.toList) {bs : Bytes} :
    decode? s.toList = some bs ↔ (Utf8.bytes s).length % 2 = 0 ∧
      (∀ c ∈ s.toList, IsDigit c) ∧ text bs = s.toLower := by
  have hplaces : (∀ i c, s.toList[i]? = some c → MayStand i c) ↔ ∀ c ∈ s.toList, IsDigit c := by
    constructor
    · intro h c hc
      obtain ⟨i, hi⟩ := List.mem_iff_getElem?.mp hc
      rcases h i c hi with hdigit | ⟨rfl, -⟩
      · exact hdigit
      · exact absurd hc hplus
    · exact fun h i c hc => .inl (h c (List.mem_of_getElem? hc))
  rw [decode?_toList_eq_some_iff, hplaces]
  refine and_congr_right fun _ => and_congr_right fun hdigits => ?_
  have hlow : s.toList.map lowered = s.toList.map Char.toLower :=
    List.map_congr_left fun c hc => (hdigits c hc).lowered_eq
  have hlower : s.toLower = s.map Char.toLower := rfl
  rw [hlower, ← String.toList_inj, ← String.toList_inj, String.toList_map, String.toList_map,
    hlow]

/-! ## Reading by byte positions -/

/-- What follows the first `n` bytes of a text, if a character ends there. -/
def dropBytes? : Nat → List Char → Option (List Char)
  | 0, cs => some cs
  | _ + 1, [] => none
  | n + 1, c :: r => if c.utf8Size ≤ n + 1 then dropBytes? (n + 1 - c.utf8Size) r else none

/-- The first `n` bytes of a text, if a character ends there. -/
def takeBytes? : Nat → List Char → Option (List Char)
  | 0, _ => some []
  | _ + 1, [] => none
  | n + 1, c :: r =>
      if c.utf8Size ≤ n + 1 then (takeBytes? (n + 1 - c.utf8Size) r).map (c :: ·) else none

/-- The number in the two bytes behind a position. -/
def pairAt? (cs : List Char) (i : Nat) : Option UInt8 :=
  ((dropBytes? i cs).bind (takeBytes? 2)).bind fun pair =>
    (Numeral.read 16 255 pair).toOption.map UInt8.ofNat

/-- The bytes of a text that is cut at every other byte, wherever its characters
end. -/
def decodeSlices? (cs : List Char) : Option Bytes :=
  let size := (Utf8.encode cs).length
  if size % 2 = 0 then (List.range (size / 2)).mapM fun k => pairAt? cs (2 * k) else none

/-- A character of a number that is read takes one byte. -/
theorem utf8Size_of_read {cs : List Char} {n : Nat} (h : Numeral.read 16 255 cs = .ok n) {c : Char}
    (hc : c ∈ cs) : c.utf8Size = 1 := by
  rcases Numeral.mem_of_read h hc with rfl | hdigit
  · rfl
  · exact utf8Size_of_toNat_lt (toNat_lt_of_isSome_digit? hdigit)

theorem utf8Size_of_byte? {a b : Char} {x : UInt8} (h : byte? a b = some x) :
    a.utf8Size = 1 ∧ b.utf8Size = 1 := by
  rw [byte?] at h
  split at h
  · next n hread => exact ⟨utf8Size_of_read hread (by simp), utf8Size_of_read hread (by simp)⟩
  · cases h

/-- A character of more than one byte is in no pair: two bytes of one are no number,
and three or four do not end with the pair. -/
theorem pairAt?_wide {c : Char} (hc : c.utf8Size ≠ 1) (r : List Char) :
    pairAt? (c :: r) 0 = none := by
  have hpos := c.utf8Size_pos
  rw [pairAt?, dropBytes?, Option.bind_some, takeBytes?]
  split
  · next hle =>
    rw [show 1 + 1 - c.utf8Size = 0 by omega, takeBytes?]
    cases hread : Numeral.read 16 255 [c] with
    | error e => simp [hread, Except.toOption]
    | ok n => exact absurd (utf8Size_of_read hread (List.mem_singleton_self c)) hc
  · rfl

theorem pairAt?_single (c : Char) : pairAt? [c] 0 = none := by
  by_cases hc : c.utf8Size = 1
  · rw [pairAt?, dropBytes?, Option.bind_some, takeBytes?, hc]
    simp [takeBytes?]
  · exact pairAt?_wide hc []

theorem pairAt?_zero (a b : Char) (r : List Char) : pairAt? (a :: b :: r) 0 = byte? a b := by
  by_cases hsizes : a.utf8Size = 1 ∧ b.utf8Size = 1
  · obtain ⟨ha, hb⟩ := hsizes
    have htake : takeBytes? 2 (a :: b :: r) = some [a, b] := by simp [takeBytes?, ha, hb]
    rw [pairAt?, dropBytes?, Option.bind_some, htake, Option.bind_some, byte?]
    cases Numeral.read 16 255 [a, b] <;> rfl
  · have hbyte : byte? a b = none := by
      cases hx : byte? a b with
      | none => rfl
      | some x => exact absurd (utf8Size_of_byte? hx) hsizes
    rw [hbyte]
    by_cases ha : a.utf8Size = 1
    · have hb : ¬b.utf8Size ≤ 1 := by
        have := b.utf8Size_pos
        omega
      have htake : takeBytes? 2 (a :: b :: r) = none := by simp [takeBytes?, ha, hb]
      rw [pairAt?, dropBytes?, Option.bind_some, htake, Option.bind_none]
    · exact pairAt?_wide ha (b :: r)

theorem pairAt?_next {a b : Char} (ha : a.utf8Size = 1) (hb : b.utf8Size = 1) (r : List Char)
    (i : Nat) : pairAt? (a :: b :: r) (i + 2) = pairAt? r i := by
  rw [pairAt?, pairAt?, dropBytes?, ha, if_pos (by omega), Nat.add_sub_cancel, dropBytes?, hb,
    if_pos (by omega), Nat.add_sub_cancel]

theorem decodeSlices?_of_first {cs : List Char} (hne : cs ≠ []) (h : pairAt? cs 0 = none) :
    decodeSlices? cs = none := by
  obtain ⟨c, r, rfl⟩ := List.exists_cons_of_ne_nil hne
  have hpos : 0 < (Utf8.encode (c :: r)).length := by
    rw [Utf8.length_encode_cons]
    exact Nat.add_pos_left c.utf8Size_pos _
  rw [decodeSlices?]
  split
  · next heven =>
    obtain ⟨k, hk⟩ : ∃ k, (Utf8.encode (c :: r)).length / 2 = k + 1 :=
      Nat.exists_eq_succ_of_ne_zero (by omega)
    rw [hk, List.range_succ_eq_map, List.mapM_cons, Nat.mul_zero, h]
    rfl
  · rfl

theorem decodeSlices?_eq : ∀ cs : List Char, decodeSlices? cs = decode? cs
  | [] => rfl
  | [c] => decodeSlices?_of_first (by simp) (pairAt?_single c)
  | a :: b :: r => by
      rw [decode?]
      cases hx : byte? a b with
      | none => exact decodeSlices?_of_first (by simp) ((pairAt?_zero a b r).trans hx)
      | some x =>
          obtain ⟨ha, hb⟩ := utf8Size_of_byte? hx
          have hlength : (Utf8.encode (a :: b :: r)).length = (Utf8.encode r).length + 2 := by
            rw [Utf8.length_encode_cons, Utf8.length_encode_cons, ha, hb]
            omega
          rw [← decodeSlices?_eq r, decodeSlices?, decodeSlices?, hlength, Nat.add_mod_right]
          split
          · rw [show ((Utf8.encode r).length + 2) / 2 = (Utf8.encode r).length / 2 + 1 by omega,
              List.range_succ_eq_map, List.mapM_cons, List.mapM_map, Nat.mul_zero,
              pairAt?_zero, hx]
            simp only [Function.comp_def, Nat.succ_eq_add_one, Nat.mul_add, Nat.mul_one,
              pairAt?_next ha hb]
          · rfl

end JobLedger.Hex
