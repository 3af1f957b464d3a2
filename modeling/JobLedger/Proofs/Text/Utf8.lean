import JobLedger.Text.Utf8

/-!
# UTF-8 read back, and its order

Three facts about the encoding of text carry everything that is stored as
bytes. Decoding an encoding gives the text back (`decode_bytes`), so a cell
that was written as text is never corrupt. Nothing else is decoded
(`decode_eq_ok_iff`), so a cell that is read as text is the encoding of it. And
encodings compare as the texts do (`bytes_lt_bytes`), so the order of keys is
the order of their bytes.

All are statements about one character followed by anything: the length of
its encoding is decided by its first byte.
-/

namespace JobLedger.Utf8

/-! ## Sequences of each length -/

theorem toNat_ofNat_byte {n : Nat} (h : n < 256) : (UInt8.ofNat n).toNat = n :=
  UInt8.toNat_ofNat_of_lt' h

theorem isTail_ofNat {n : Nat} (h : n < 64) : isTail (UInt8.ofNat (n + 128)) = true := by
  have := toNat_ofNat_byte (n := n + 128) (by omega)
  simp only [isTail, Bool.and_eq_true, decide_eq_true_eq, UInt8.le_iff_toNat_le, this,
    UInt8.reduceToNat]
  omega

theorem tailBits_ofNat {n : Nat} (h : n < 64) : tailBits (UInt8.ofNat (n + 128)) = n := by
  have hb := toNat_ofNat_byte (n := n + 128) (by omega)
  unfold tailBits
  omega

theorem decodeFrom_one {i : Nat} {b : UInt8} {r : Bytes} (hb : b < 0x80) :
    decodeFrom i (b :: r) = (decodeFrom (i + 1) r).map (Char.ofNat b.toNat :: ·) := by
  rw [decodeFrom.eq_def]
  simp only [if_pos hb]

theorem decodeFrom_two {i : Nat} {b c : UInt8} {r : Bytes} (hb : 0xC2 ≤ b ∧ b ≤ 0xDF)
    (hc : isTail c = true) :
    decodeFrom i (b :: c :: r) = (decodeFrom (i + 2) r).map
      (Char.ofNat ((b.toNat - 0xC0) * 64 + tailBits c) :: ·) := by
  have h1 : ¬b < 0x80 := by
    simp only [UInt8.lt_iff_toNat_lt, UInt8.le_iff_toNat_le, UInt8.reduceToNat] at *
    omega
  rw [decodeFrom.eq_def]
  simp only [if_neg h1, if_pos hb, if_pos hc]

theorem decodeFrom_three {i : Nat} {b c d : UInt8} {r : Bytes} (hb : 0xE0 ≤ b ∧ b ≤ 0xEF)
    (hc : second3 b c = true) (hd : isTail d = true) :
    decodeFrom i (b :: c :: d :: r) = (decodeFrom (i + 3) r).map
      (Char.ofNat ((b.toNat - 0xE0) * 4096 + tailBits c * 64 + tailBits d) :: ·) := by
  have h1 : ¬b < 0x80 := by
    simp only [UInt8.lt_iff_toNat_lt, UInt8.le_iff_toNat_le, UInt8.reduceToNat] at *
    omega
  have h2 : ¬(0xC2 ≤ b ∧ b ≤ 0xDF) := by
    simp only [UInt8.le_iff_toNat_le, UInt8.reduceToNat] at *
    omega
  rw [decodeFrom.eq_def]
  simp only [if_neg h1, if_neg h2, if_pos hb, if_pos hc, if_pos hd]

theorem decodeFrom_four {i : Nat} {b c d e : UInt8} {r : Bytes} (hb : 0xF0 ≤ b ∧ b ≤ 0xF4)
    (hc : second4 b c = true) (hd : isTail d = true) (he : isTail e = true) :
    decodeFrom i (b :: c :: d :: e :: r) = (decodeFrom (i + 4) r).map
      (Char.ofNat ((b.toNat - 0xF0) * 262144 + tailBits c * 4096 + tailBits d * 64
        + tailBits e) :: ·) := by
  have h1 : ¬b < 0x80 := by
    simp only [UInt8.lt_iff_toNat_lt, UInt8.le_iff_toNat_le, UInt8.reduceToNat] at *
    omega
  have h2 : ¬(0xC2 ≤ b ∧ b ≤ 0xDF) := by
    simp only [UInt8.le_iff_toNat_le, UInt8.reduceToNat] at *
    omega
  have h3 : ¬(0xE0 ≤ b ∧ b ≤ 0xEF) := by
    simp only [UInt8.le_iff_toNat_le, UInt8.reduceToNat] at *
    omega
  rw [decodeFrom.eq_def]
  simp only [if_neg h1, if_neg h2, if_neg h3, if_pos hb, if_pos hc, if_pos hd, if_pos he]

/-! ## The encoding of one character -/

/-- The encoding of a character by its code point. -/
theorem utf8EncodeChar_eq (c : Char) {n : Nat} (h : c.toNat = n) :
    String.utf8EncodeChar c =
      if n ≤ 0x7f then [UInt8.ofNat n]
      else if n ≤ 0x7ff then [UInt8.ofNat (n / 64 % 0x20 + 0xc0), UInt8.ofNat (n % 0x40 + 0x80)]
      else if n ≤ 0xffff then
        [UInt8.ofNat (n / 4096 % 0x10 + 0xe0), UInt8.ofNat (n / 64 % 0x40 + 0x80),
          UInt8.ofNat (n % 0x40 + 0x80)]
      else
        [UInt8.ofNat (n / 262144 % 0x08 + 0xf0), UInt8.ofNat (n / 4096 % 0x40 + 0x80),
          UInt8.ofNat (n / 64 % 0x40 + 0x80), UInt8.ofNat (n % 0x40 + 0x80)] := by
  subst h
  rfl

/-- The code points of characters leave out the halves of surrogate
pairs. -/
theorem toNat_range (c : Char) :
    c.toNat < 0xD800 ∨ 0xDFFF < c.toNat ∧ c.toNat < 0x110000 := c.valid

theorem decodeFrom_utf8EncodeChar (i : Nat) (c : Char) (r : Bytes) :
    ∃ j, decodeFrom i (String.utf8EncodeChar c ++ r) = (decodeFrom j r).map (c :: ·) := by
  have hrange := toNat_range c
  have hc : Char.ofNat c.toNat = c := Char.ofNat_toNat c
  generalize hn : c.toNat = n at hrange hc
  rw [utf8EncodeChar_eq c hn]
  split
  · next h1 =>
    have hb := toNat_ofNat_byte (n := n) (by omega)
    have hlt : UInt8.ofNat n < 0x80 := by
      rw [UInt8.lt_iff_toNat_lt, hb]
      exact Nat.lt_succ_of_le h1
    exact ⟨i + 1, by rw [List.singleton_append, decodeFrom_one hlt, hb, hc]⟩
  split
  · next h2 =>
    have hb := toNat_ofNat_byte (n := n / 64 % 0x20 + 0xc0) (by omega)
    refine ⟨i + 2, (decodeFrom_two ?_ (isTail_ofNat (Nat.mod_lt _ (by decide)))).trans ?_⟩
    · simp only [UInt8.le_iff_toNat_le, hb, UInt8.reduceToNat]
      omega
    · rw [hb, tailBits_ofNat (Nat.mod_lt _ (by decide)),
        show (n / 64 % 0x20 + 0xc0 - 0xC0) * 64 + n % 0x40 = n by omega, hc]
      rfl
  split
  · next h3 =>
    have hb := toNat_ofNat_byte (n := n / 4096 % 0x10 + 0xe0) (by omega)
    have hs := toNat_ofNat_byte (n := n / 64 % 0x40 + 0x80) (by omega)
    refine ⟨i + 3, (decodeFrom_three ?_ ?_ (isTail_ofNat (Nat.mod_lt _ (by decide)))).trans ?_⟩
    · simp only [UInt8.le_iff_toNat_le, hb, UInt8.reduceToNat]
      omega
    · simp only [second3, isTail, Bool.ite_eq_true_distrib, Bool.and_eq_true, decide_eq_true_eq,
        ← UInt8.toNat_inj, UInt8.le_iff_toNat_le, hb, hs, UInt8.reduceToNat]
      split
      · omega
      · split <;> omega
    · rw [hb, tailBits_ofNat (Nat.mod_lt _ (by decide)), tailBits_ofNat (Nat.mod_lt _ (by decide)),
        show (n / 4096 % 0x10 + 0xe0 - 0xE0) * 4096 + n / 64 % 0x40 * 64 + n % 0x40 = n by omega,
        hc]
      rfl
  · next h3 =>
    have hb := toNat_ofNat_byte (n := n / 262144 % 0x08 + 0xf0) (by omega)
    have hs := toNat_ofNat_byte (n := n / 4096 % 0x40 + 0x80) (by omega)
    refine ⟨i + 4, (decodeFrom_four ?_ ?_ (isTail_ofNat (Nat.mod_lt _ (by decide)))
      (isTail_ofNat (Nat.mod_lt _ (by decide)))).trans ?_⟩
    · simp only [UInt8.le_iff_toNat_le, hb, UInt8.reduceToNat]
      omega
    · simp only [second4, isTail, Bool.ite_eq_true_distrib, Bool.and_eq_true, decide_eq_true_eq,
        ← UInt8.toNat_inj, UInt8.le_iff_toNat_le, hb, hs, UInt8.reduceToNat]
      split
      · omega
      · split <;> omega
    · rw [hb, tailBits_ofNat (Nat.mod_lt _ (by decide)), tailBits_ofNat (Nat.mod_lt _ (by decide)),
        tailBits_ofNat (Nat.mod_lt _ (by decide)),
        show (n / 262144 % 0x08 + 0xf0 - 0xF0) * 262144 + n / 4096 % 0x40 * 4096
          + n / 64 % 0x40 * 64 + n % 0x40 = n by omega, hc]
      rfl

/-! ## Texts -/

theorem decodeFrom_encode (i : Nat) (cs : List Char) : decodeFrom i (encode cs) = .ok cs := by
  induction cs generalizing i with
  | nil => rfl
  | cons c r ih =>
      obtain ⟨j, hj⟩ := decodeFrom_utf8EncodeChar i c (encode r)
      rw [encode, List.flatMap_cons]
      exact hj.trans (by rw [ih]; rfl)

/-- A text that is stored as bytes is read back. -/
@[simp] theorem decode_bytes (s : String) : decode (bytes s) = .ok s := by
  rw [decode, bytes, decodeFrom_encode]
  simp [Except.map]

theorem bytes_injective {s t : String} (h : bytes s = bytes t) : s = t := by
  have := decode_bytes s
  rw [h, decode_bytes] at this
  exact (Except.ok.inj this).symm

/-- Nothing in an encoding was lost for a reader that passes over bad
sequences. -/
theorem decodeWith_encode (bad cs : List Char) : decodeWith bad (encode cs) = cs := by
  rw [decodeWith]
  cases hb : encode cs with
  | nil =>
      have := decodeFrom_encode 0 cs
      rw [hb] at this
      exact Except.ok.inj this
  | cons b r =>
      rw [List.length_cons, decodeWith.go, ← hb, decodeFrom_encode]

/-! ## Bytes that are a text -/

theorem toNat_ofNat_char {n : Nat} (h : n < 0xD800 ∨ 0xDFFF < n ∧ n < 0x110000) :
    (Char.ofNat n).toNat = n := by
  rw [Char.ofNat, dif_pos (by exact h)]
  rfl

theorem ofNat_eq_byte {n : Nat} {b : UInt8} (h : n = b.toNat) : UInt8.ofNat n = b := by
  rw [h, UInt8.ofNat_toNat]

theorem isTail_iff {b : UInt8} : isTail b = true ↔ 0x80 ≤ b.toNat ∧ b.toNat ≤ 0xBF := by
  simp [isTail, UInt8.le_iff_toNat_le]

theorem second3_range {b c : UInt8} (h : second3 b c = true) :
    (0x80 ≤ c.toNat ∧ c.toNat ≤ 0xBF) ∧ (b.toNat = 0xE0 → 0xA0 ≤ c.toNat) ∧
      (b.toNat = 0xED → c.toNat ≤ 0x9F) := by
  simp only [second3, isTail, Bool.ite_eq_true_distrib, Bool.and_eq_true, decide_eq_true_eq,
    ← UInt8.toNat_inj, UInt8.le_iff_toNat_le, UInt8.reduceToNat] at h
  split at h
  · omega
  · split at h <;> omega

theorem second4_range {b c : UInt8} (h : second4 b c = true) :
    (0x80 ≤ c.toNat ∧ c.toNat ≤ 0xBF) ∧ (b.toNat = 0xF0 → 0x90 ≤ c.toNat) ∧
      (b.toNat = 0xF4 → c.toNat ≤ 0x8F) := by
  simp only [second4, isTail, Bool.ite_eq_true_distrib, Bool.and_eq_true, decide_eq_true_eq,
    ← UInt8.toNat_inj, UInt8.le_iff_toNat_le, UInt8.reduceToNat] at h
  split at h
  · omega
  · split at h <;> omega

/-- A character is decoded in front of the rest. -/
theorem encode_of_map {c : Char} {bs rest : Bytes} {x : Except Utf8Fault (List Char)}
    {cs : List Char} (h : x.map (c :: ·) = .ok cs) (ih : ∀ {cs}, x = .ok cs → encode cs = rest)
    (hc : String.utf8EncodeChar c ++ rest = bs) : encode cs = bs := by
  cases x with
  | error fault => exact nomatch h
  | ok cs' =>
      rw [← Except.ok.inj h, ← hc, ← ih rfl]
      rfl

/-- What is decoded is the encoding of the result. -/
theorem encode_of_decodeFrom (i : Nat) (bs : Bytes) :
    ∀ {cs : List Char}, decodeFrom i bs = .ok cs → encode cs = bs := by
  fun_induction decodeFrom i bs with
  | case1 =>
      rintro cs ⟨⟩
      rfl
  | case2 i b r hb ih =>
      intro cs h
      have hlead : b.toNat < 0x80 := UInt8.lt_iff_toNat_lt.mp hb
      refine encode_of_map h ih ?_
      rw [utf8EncodeChar_eq _ (toNat_ofNat_char (n := b.toNat) (by omega)), if_pos (by omega),
        ofNat_eq_byte rfl]
      rfl
  | case4 i b hb hrange c r hc ih =>
      intro cs h
      have hlead : 0xC2 ≤ b.toNat ∧ b.toNat ≤ 0xDF := by simpa [UInt8.le_iff_toNat_le] using hrange
      have htail := isTail_iff.mp hc
      refine encode_of_map h ih ?_
      unfold tailBits
      rw [utf8EncodeChar_eq _ (toNat_ofNat_char (by omega)), if_neg (by omega),
        if_pos (by omega), ofNat_eq_byte (b := b) (by omega), ofNat_eq_byte (b := c) (by omega)]
      rfl
  | case8 i b hb hb2 hrange c hc d r hd ih =>
      intro cs h
      have hlead : 0xE0 ≤ b.toNat ∧ b.toNat ≤ 0xEF := by simpa [UInt8.le_iff_toNat_le] using hrange
      have hsecond := second3_range hc
      have htail := isTail_iff.mp hd
      refine encode_of_map h ih ?_
      unfold tailBits
      rw [utf8EncodeChar_eq _ (toNat_ofNat_char (by omega)), if_neg (by omega),
        if_neg (by omega), if_pos (by omega), ofNat_eq_byte (b := b) (by omega),
        ofNat_eq_byte (b := c) (by omega), ofNat_eq_byte (b := d) (by omega)]
      rfl
  | case14 i b hb hb2 hb3 hrange c hc d hd e r he ih =>
      intro cs h
      have hlead : 0xF0 ≤ b.toNat ∧ b.toNat ≤ 0xF4 := by simpa [UInt8.le_iff_toNat_le] using hrange
      have hsecond := second4_range hc
      have htail := isTail_iff.mp hd
      have hlast := isTail_iff.mp he
      refine encode_of_map h ih ?_
      unfold tailBits
      rw [utf8EncodeChar_eq _ (toNat_ofNat_char (by omega)), if_neg (by omega),
        if_neg (by omega), if_neg (by omega), ofNat_eq_byte (b := b) (by omega),
        ofNat_eq_byte (b := c) (by omega), ofNat_eq_byte (b := d) (by omega),
        ofNat_eq_byte (b := e) (by omega)]
      rfl
  -- All other cases are faults.
  | case3 | case5 | case6 | case7 | case9 | case10 | case11 | case12 | case13 | case15 | case16
  | case17 | case18 =>
      intro cs h
      exact nomatch h

theorem decode_eq_ok_iff {bs : Bytes} {s : String} : decode bs = .ok s ↔ bs = bytes s := by
  constructor
  · intro h
    rw [decode] at h
    cases hd : decodeFrom 0 bs with
    | error fault => rw [hd] at h; cases h
    | ok cs =>
        rw [hd] at h
        rw [← Except.ok.inj h, bytes, String.toList_ofList, encode_of_decodeFrom 0 bs hd]
  · rintro rfl
    exact decode_bytes s

theorem length_encode_cons (c : Char) (cs : List Char) :
    (encode (c :: cs)).length = c.utf8Size + (encode cs).length := by
  rw [encode, List.flatMap_cons, List.length_append, String.length_utf8EncodeChar, encode]

/-! ## The order of encodings -/

theorem ofNat_lt_ofNat {m n : Nat} (hm : m < 256) (hn : n < 256) :
    UInt8.ofNat m < UInt8.ofNat n ↔ m < n := by
  rw [UInt8.lt_iff_toNat_lt, toNat_ofNat_byte hm, toNat_ofNat_byte hn]

theorem ofNat_eq_ofNat {m n : Nat} (hm : m < 256) (hn : n < 256) :
    UInt8.ofNat m = UInt8.ofNat n ↔ m = n := by
  rw [← UInt8.toNat_inj, toNat_ofNat_byte hm, toNat_ofNat_byte hn]

/-- A text whose encoding ends with a byte below 0x80 ends with that character. -/
theorem getLast?_of_encode {cs : List Char} {n : Nat} (hn : n < 0x80)
    (h : (encode cs).getLast? = some (UInt8.ofNat n)) : cs.getLast? = some (Char.ofNat n) := by
  rcases List.eq_nil_or_concat cs with rfl | ⟨init, c, rfl⟩
  · exact absurd h (by simp [encode])
  · have hlast : (String.utf8EncodeChar c).getLast? = some (UInt8.ofNat n) := by
      simpa [encode, List.getLast?_append, List.getLast?_eq_some_getLast,
        String.utf8EncodeChar_ne_nil] using h
    suffices hc : c.toNat = n by simp [← hc]
    have htail : UInt8.ofNat (c.toNat % 0x40 + 0x80) ≠ UInt8.ofNat n := fun heq => by
      have := (ofNat_eq_ofNat (by omega) (by omega)).mp heq
      omega
    rw [utf8EncodeChar_eq c rfl] at hlast
    split at hlast
    · exact (ofNat_eq_ofNat (by omega) (by omega)).mp (Option.some.inj hlast)
    · split at hlast
      · exact absurd (Option.some.inj hlast) htail
      · split at hlast <;> exact absurd (Option.some.inj hlast) htail

/-- The greater of two numbers has the greater leading digits, or the same
ones and the greater last digit. -/
theorem div_lt_or_mod_lt {m n : Nat} (h : m < n) (k : Nat) :
    m / k < n / k ∨ m / k = n / k ∧ m % k < n % k := by
  rcases Nat.lt_or_eq_of_le (Nat.div_le_div_right (c := k) (Nat.le_of_lt h)) with hlt | heq
  · exact .inl hlt
  · refine .inr ⟨heq, ?_⟩
    have hm := Nat.div_add_mod m k
    have hn := Nat.div_add_mod n k
    rw [heq] at hm
    omega

/-- The encodings of two different characters differ before either ends, so
what follows them does not matter. -/
theorem utf8EncodeChar_append_lt {c d : Char} (h : c < d) (r s : Bytes) :
    String.utf8EncodeChar c ++ r < String.utf8EncodeChar d ++ s := by
  have hlt : c.toNat < d.toNat := h
  have hc := toNat_range c
  have hd := toNat_range d
  generalize hm : c.toNat = m at *
  generalize hn : d.toNat = n at *
  rw [utf8EncodeChar_eq c hm, utf8EncodeChar_eq d hn]
  split <;> split <;> (try split) <;> (try split) <;> (try split) <;> (try split)
  all_goals
    simp (disch := omega) only [List.cons_append, List.nil_append, List.cons_lt_cons_iff,
      ofNat_lt_ofNat, ofNat_eq_ofNat]
  -- Encodings of different lengths differ in their first bytes.
  all_goals try exact .inl (by omega)
  · rcases div_lt_or_mod_lt hlt 64 with h1 | ⟨h1, h1'⟩
    · exact .inl (by omega)
    · exact .inr ⟨by omega, .inl (by omega)⟩
  · rcases div_lt_or_mod_lt hlt 64 with h1 | ⟨h1, h1'⟩
    · rcases div_lt_or_mod_lt h1 64 with h2 | ⟨h2, h2'⟩
      · exact .inl (by omega)
      · exact .inr ⟨by omega, .inl (by omega)⟩
    · exact .inr ⟨by omega, .inr ⟨by omega, .inl (by omega)⟩⟩
  · rcases div_lt_or_mod_lt hlt 64 with h1 | ⟨h1, h1'⟩
    · rcases div_lt_or_mod_lt h1 64 with h2 | ⟨h2, h2'⟩
      · rcases div_lt_or_mod_lt h2 64 with h3 | ⟨h3, h3'⟩
        · exact .inl (by omega)
        · exact .inr ⟨by omega, .inl (by omega)⟩
      · exact .inr ⟨by omega, .inr ⟨by omega, .inl (by omega)⟩⟩
    · exact .inr ⟨by omega, .inr ⟨by omega, .inr ⟨by omega, .inl (by omega)⟩⟩⟩

theorem encode_lt_encode : ∀ {cs ds : List Char}, cs < ds → encode cs < encode ds
  | [], d :: ds, _ => by
      obtain ⟨b, r, hb⟩ := List.exists_cons_of_ne_nil (String.utf8EncodeChar_ne_nil (c := d))
      rw [encode, encode, List.flatMap_nil, List.flatMap_cons, hb]
      exact List.nil_lt_cons ..
  | c :: cs, d :: ds, h => by
      rw [encode, encode, List.flatMap_cons, List.flatMap_cons]
      rcases List.cons_lt_cons_iff.mp h with hlt | ⟨rfl, hlt⟩
      · exact utf8EncodeChar_append_lt hlt ..
      · exact List.append_left_lt (encode_lt_encode hlt)

/-- The order of texts is the order of their encodings. -/
theorem bytes_lt_bytes {s t : String} : bytes s < bytes t ↔ s < t := by
  refine ⟨fun h => ?_, fun h => encode_lt_encode h⟩
  rcases Std.lt_trichotomy s t with hlt | rfl | hgt
  · exact hlt
  · exact absurd h (Std.lt_irrefl)
  · exact absurd h (List.lt_asymm (encode_lt_encode hgt))

end JobLedger.Utf8
