import JobLedger.Proofs.Json.Codec
import JobLedger.Proofs.Spec.Output

/-!
# Output descriptors written and read back

`descriptors_read_back`: a descriptor is read back from its text and from its
JSON form, whatever its location contains, and a text that is read as a
descriptor is the text of it but for zeros in front of the count.

The count that is written is the numeral of the splits, which has no zero in
front, and a count without zeros in front is the numeral of its value
(`Numeral.toDigits_ofDigitChars`). So the zeros are all that a written text
(`Written`) can have beyond the text of its descriptor.
-/

namespace JobLedger.OutputSpec

/-- A descriptor that the program has: made from its parts, or read from a text
or from a JSON string. -/
inductive Obtained : OutputSpec → Prop
  | created {format : OutputFormat} {location : String} {splits : UInt32} {s : OutputSpec}
      (h : create format location splits = .ok s) : Obtained s
  | parsed {text : String} {s : OutputSpec} (h : parse text = .ok s) : Obtained s
  | stored {json : String} {s : OutputSpec} (h : (Json.parse? json).bind ofJson? = some s) :
      Obtained s

/-- A text and the text of the descriptor that it is read as: the same up to
the last `@`, and behind it the same digits with some zeros in front or none. -/
def SameButZeros (text rendered : String) : Prop :=
  ∃ front zeros digits : String,
    text = front ++ "@" ++ (zeros ++ digits) ∧ rendered = front ++ "@" ++ digits ∧
      '@' ∉ (zeros ++ digits).toList ∧ (∀ c ∈ zeros.toList, c = '0') ∧
      digits ≠ "" ∧ digits.toList.head? ≠ some '0' ∧ (rendered = text ↔ zeros = "")

theorem create_eq_ok_iff {format : OutputFormat} {location : String} {splits : UInt32}
    {s : OutputSpec} :
    create format location splits = .ok s ↔ 1 ≤ splits.toNat ∧ location ≠ "" ∧
      s.format = format ∧ s.location = location ∧ s.splits = splits := by
  have hpos : 0 < splits ↔ 1 ≤ splits.toNat := UInt32.lt_iff_toNat_lt
  rw [create, ← hpos]
  obtain ⟨format', location', splits', hl, hs⟩ := s
  by_cases hsplits : 0 < splits
  · by_cases hlocation : location = ""
    · simp [hsplits, hlocation]
    · simp [hsplits, hlocation, @eq_comm _ format, @eq_comm _ location, @eq_comm _ splits]
  · simp [hsplits]

/-! ## Reading a descriptor back -/

theorem isCount_toString {n : UInt32} (hn : 0 < n) : IsCount (toString n.toNat) n.toNat := by
  have hlist : (toString n.toNat).toList = Nat.toDigits 10 n.toNat := by
    rw [Nat.toString_eq_ofList_toDigits, String.toList_ofList]
  have hlt := n.toNat_lt
  refine ⟨fun h => ?_, fun c hc => ?_, ?_, UInt32.lt_iff_toNat_lt.mp hn, by omega⟩
  · rw [h] at hlist
    exact Nat.toDigits_ne_nil hlist.symm
  · exact Numeral.isDigit_of_mem_toDigits (hlist ▸ hc)
  · rw [hlist, Nat.ofDigitChars_ten_toDigits]

theorem render_eq (s : OutputSpec) :
    s.render = s.format.token ++ ":" ++ s.location ++ "@" ++ toString s.splits.toNat := rfl

theorem written_render (s : OutputSpec) :
    Written s.render s.format s.location s.splits.toNat :=
  ⟨_, s.render_eq, s.location_ne, isCount_toString s.splits_pos⟩

theorem eq_of_parts {s s' : OutputSpec} (hformat : s'.format = s.format)
    (hlocation : s'.location = s.location) (hsplits : s'.splits.toNat = s.splits.toNat) :
    s' = s := by
  cases s
  cases s'
  cases hformat
  cases hlocation
  cases UInt32.toNat_inj.mp hsplits
  rfl

theorem parse_render (s : OutputSpec) : parse s.render = .ok s := by
  obtain ⟨s', hs', hformat, hlocation, hsplits⟩ := parse_of_written s.written_render
  rwa [eq_of_parts hformat hlocation hsplits] at hs'

theorem ofJson?_toJson (s : OutputSpec) : ofJson? s.toJson = some s := by
  simp only [ofJson?, toJson, Json.text?_text, bind, Option.bind_some, parse_render]

theorem stored_toJson (s : OutputSpec) : (Json.parse? s.toJson.toText).bind ofJson? = some s := by
  have hplain : s.toJson.plain = true := Json.plain_text s.render
  rw [Json.toText, Json.compact, Json.parse?_writtenAt Json.Spacing.blank_none hplain,
    Option.bind_some, ofJson?_toJson]

/-! ## The text that a descriptor was read from -/

theorem written_of_parse {text : String} {s : OutputSpec} (h : parse text = .ok s) :
    Written text s.format s.location s.splits.toNat := by
  rcases written_or_broken text with ⟨format, location, n, hwritten⟩ | ⟨fault, hbroken⟩
  · obtain ⟨s', hs', rfl, rfl, rfl⟩ := parse_of_written hwritten
    obtain rfl := Except.ok.inj (h.symm.trans hs')
    exact hwritten
  · cases h.symm.trans (parse_of_broken hbroken)

/-- A count is zeros and the numeral of its value. -/
theorem IsCount.eq_zeros_append {digits : String} {n : Nat} (h : IsCount digits n) :
    ∃ zeros : String, digits = zeros ++ toString n ∧ ∀ c ∈ zeros.toList, c = '0' := by
  have hsplit := List.takeWhile_append_dropWhile (p := (· == '0')) (l := digits.toList)
  generalize hz : digits.toList.takeWhile (· == '0') = zs at hsplit
  generalize hr : digits.toList.dropWhile (· == '0') = ds at hsplit
  have hzeros : ∀ c ∈ zs, c = '0' := fun c hc =>
    eq_of_beq (List.all_eq_true.mp (List.all_takeWhile (p := (· == '0')) (l := digits.toList)) c
      (hz ▸ hc))
  have hvalue : Nat.ofDigitChars 10 ds 0 = n := by
    rw [← h.value, ← hsplit, Nat.ofDigitChars_append, List.eq_replicate_of_mem hzeros,
      Nat.ofDigitChars_replicate_zero, Nat.mul_zero]
  have hne : ds ≠ [] := by
    rintro rfl
    have hpos := h.pos
    rw [← hvalue, Nat.ofDigitChars_nil] at hpos
    exact absurd hpos (by decide)
  have hdigit : ∀ c ∈ ds, c.isDigit = true := fun c hc =>
    h.isDigit c (hsplit ▸ List.mem_append_right zs hc)
  have hhead : ds.head? ≠ some '0' := by
    have hfirst := List.head?_dropWhile_not (· == '0') digits.toList
    rw [hr] at hfirst
    intro hzero
    rw [hzero] at hfirst
    exact absurd hfirst (by decide)
  refine ⟨.ofList zs, String.toList_injective ?_, by simpa using hzeros⟩
  rw [String.toList_append, String.toList_ofList, Nat.toString_eq_ofList_toDigits,
    String.toList_ofList, ← hvalue, Numeral.toDigits_ofDigitChars hne hdigit hhead, hsplit]

theorem sameButZeros_of_written {text : String} {s : OutputSpec}
    (h : Written text s.format s.location s.splits.toNat) : SameButZeros text s.render := by
  obtain ⟨digits, rfl, -, hcount⟩ := h
  obtain ⟨zeros, rfl, hzeros⟩ := hcount.eq_zeros_append
  have hnumeral := isCount_toString s.splits_pos
  have hhead : (toString s.splits.toNat).toList.head? ≠ some '0' := by
    rw [Nat.toString_eq_ofList_toDigits, String.toList_ofList]
    exact Numeral.head?_toDigits_ne (Nat.ne_of_gt hnumeral.pos)
  refine ⟨s.format.token ++ ":" ++ s.location, zeros, toString s.splits.toNat, rfl, s.render_eq,
    hcount.not_at, hzeros, hnumeral.ne_empty, hhead, ?_⟩
  rw [render_eq, ← String.toList_inj, ← String.toList_eq_nil_iff]
  simp

/-- Descriptors can be made of any location that is not empty and any number of
splits that is not zero, and no others are ever had. Each is read back from its
text and from its JSON form. A text that is read as a descriptor is the text of
it, but for zeros in front of the count. -/
theorem descriptors_read_back :
    (∀ format location splits s, create format location splits = .ok s ↔
      1 ≤ splits.toNat ∧ location ≠ "" ∧
        s.format = format ∧ s.location = location ∧ s.splits = splits) ∧
    (∀ s, Obtained s → 1 ≤ s.splits.toNat ∧ s.location ≠ "" ∧ parse s.render = .ok s ∧
      (Json.parse? s.toJson.toText).bind ofJson? = some s) ∧
    ∀ text s, parse text = .ok s → SameButZeros text s.render :=
  ⟨fun _ _ _ _ => create_eq_ok_iff,
    fun s _ => ⟨UInt32.lt_iff_toNat_lt.mp s.splits_pos, s.location_ne, s.parse_render,
      s.stored_toJson⟩,
    fun _ _ hs => sameButZeros_of_written (written_of_parse hs)⟩

/-- A location with colons, an `@`, a semicolon and a quote, and a count with
zeros in front. -/
def quotedTable : OutputSpec :=
  ⟨.hFile, "kiji://user@host/\"t\";/tmp/out", 8, by decide, by decide⟩

theorem quotedTable_read_back :
    parse "hfile:kiji://user@host/\"t\";/tmp/out@008" = .ok quotedTable ∧
      parse quotedTable.render = .ok quotedTable ∧
      SameButZeros "hfile:kiji://user@host/\"t\";/tmp/out@008" quotedTable.render := by
  have hparse : parse "hfile:kiji://user@host/\"t\";/tmp/out@008" = .ok quotedTable := by
    rfl
  obtain ⟨-, hback, hsame⟩ := descriptors_read_back
  exact ⟨hparse, (hback _ (.parsed hparse)).2.2.1, hsame _ _ hparse⟩

end JobLedger.OutputSpec
