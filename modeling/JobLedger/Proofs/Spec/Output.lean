import JobLedger.Proofs.Text.Cut
import JobLedger.Proofs.Text.Numeral
import JobLedger.Spec.Output

/-!
# The grammar of output descriptors

`parse_follows_grammar`: a text is read as a descriptor exactly if it is a token,
a colon, a location, an `@` and a count of splits (`Written`), and then as
the one with these parts; every other text is refused with the first rule
that it breaks (`Broken`).

Both are said without the reader. That the first colon and the last `@` are
the places to cut is in neither: a location may contain both characters, and
the parts of a text are nevertheless unique, because no token has a colon and
no count an `@`. The proof has an equation of the reader for each way of
writing a text and for each rule, and `written_or_broken` says that these are
all texts.
-/

namespace JobLedger.OutputSpec

/-- Digits for a number between one and the largest of 32 bits, with any
number of zeros in front. -/
structure IsCount (digits : String) (n : Nat) : Prop where
  ne_empty : digits ≠ ""
  isDigit : ∀ c ∈ digits.toList, c.isDigit = true
  value : Nat.ofDigitChars 10 digits.toList 0 = n
  pos : 1 ≤ n
  le : n ≤ 4294967295

/-- A text of the form of a descriptor, with its parts. -/
def Written (text : String) (format : OutputFormat) (location : String) (n : Nat) : Prop :=
  ∃ digits, text = format.token ++ ":" ++ location ++ "@" ++ digits ∧ location ≠ "" ∧
    IsCount digits n

/-- The first rule that a text breaks: in each case, the rules of the cases
before are kept. -/
inductive Broken : String → SpecFault → Prop
  | noColon {text : String} (hcolon : ':' ∉ text.toList) : Broken text .missingLocation
  | unknownFormat {token rest : String} (hcolon : ':' ∉ token.toList)
      (htoken : ∀ format : OutputFormat, format.token ≠ token) :
      Broken (token ++ ":" ++ rest) (.unknownFormat token)
  | nothingBehind (format : OutputFormat) : Broken (format.token ++ ":") .missingLocation
  | noAt (format : OutputFormat) {rest : String} (hne : rest ≠ "") (hat : '@' ∉ rest.toList) :
      Broken (format.token ++ ":" ++ rest) .missingSplits
  | nothingBetween (format : OutputFormat) {count : String} (hat : '@' ∉ count.toList) :
      Broken (format.token ++ ":@" ++ count) .missingLocation
  | badCount (format : OutputFormat) {location count : String} (hne : location ≠ "")
      (hat : '@' ∉ count.toList) (hcount : ∀ n, ¬IsCount count n) :
      Broken (format.token ++ ":" ++ location ++ "@" ++ count) (.invalidSplits count)

/-! ## Counts -/

theorem IsCount.not_at {digits : String} {n : Nat} (h : IsCount digits n) :
    '@' ∉ digits.toList := fun hat => absurd (h.isDigit '@' hat) (by decide)

theorem splits?_eq_some_iff {digits : String} {n : UInt32} {hn : 0 < n} :
    splits? digits.toList = some ⟨n, hn⟩ ↔ IsCount digits n.toNat := by
  have hmax : n.toNat ≤ 4294967295 := by
    have hlt := n.toNat_lt
    omega
  have hpos : 1 ≤ n.toNat := UInt32.lt_iff_toNat_lt.mp hn
  rw [splits?]
  by_cases hdigits : digits.toList ≠ [] ∧ digits.toList.all Char.isDigit = true
  · obtain ⟨hne, hall⟩ := hdigits
    have hisDigit := List.all_eq_true.mp hall
    have hread : ∀ k, Numeral.read 10 4294967295 digits.toList = .ok k ↔
        Nat.ofDigitChars 10 digits.toList 0 = k ∧ k ≤ 4294967295 :=
      fun _ => Numeral.read_eq_ok_iff hne hisDigit
    rw [if_pos ⟨hne, hall⟩]
    constructor
    · intro h
      split at h
      · next k hk =>
        obtain ⟨hvalue, hle⟩ := (hread k).mp hk
        split at h
        · obtain rfl := congrArg Subtype.val (Option.some.inj h)
          have hk : (UInt32.ofNat k).toNat = k :=
            UInt32.toNat_ofNat_of_lt' (Nat.lt_of_le_of_lt hle (by decide))
          exact ⟨fun h => hne (by rw [h]; rfl), hisDigit, hvalue.trans hk.symm, hpos, hmax⟩
        · cases h
      · cases h
    · intro h
      have hk := (hread n.toNat).mpr ⟨h.value, hmax⟩
      simp only [hk, UInt32.ofNat_toNat, dif_pos hn]
  · rw [if_neg hdigits]
    simp only [reduceCtorEq, false_iff]
    intro h
    exact hdigits ⟨fun hnil => h.ne_empty (String.toList_eq_nil_iff.mp hnil),
      List.all_eq_true.mpr h.isDigit⟩

theorem splits?_eq_none_iff {digits : String} :
    splits? digits.toList = none ↔ ∀ n, ¬IsCount digits n := by
  constructor
  · intro hnone n h
    have hlt : n < UInt32.size := Nat.lt_of_le_of_lt h.le (by decide)
    have hn : (UInt32.ofNat n).toNat = n := UInt32.toNat_ofNat_of_lt' hlt
    have hpos : 0 < UInt32.ofNat n := UInt32.lt_iff_toNat_lt.mpr (by rw [hn]; exact h.pos)
    have hsome : splits? digits.toList = some ⟨UInt32.ofNat n, hpos⟩ :=
      splits?_eq_some_iff.mpr (by rwa [hn])
    rw [hnone] at hsome
    cases hsome
  · intro h
    cases hsplits : splits? digits.toList with
    | none => rfl
    | some s => exact absurd (splits?_eq_some_iff.mp hsplits) (h _)

/-! ## The reader on each kind of text -/

theorem not_colon_token (f : OutputFormat) : ':' ∉ f.token.toList := by cases f <;> decide

/-- What is left to decide behind a token and its colon. -/
theorem parseChars_of_token (format : OutputFormat) (rest : List Char) :
    parseChars (format.token.toList ++ ':' :: rest) =
      if rest = [] then .error .missingLocation
      else match cutLast '@' rest with
        | none => .error .missingSplits
        | some (location, count) =>
            if h : String.ofList location = "" then .error .missingLocation
            else match splits? count with
              | none => .error (.invalidSplits (.ofList count))
              | some ⟨splits, hs⟩ => .ok ⟨format, .ofList location, splits, h, hs⟩ := by
  have hcut : cutFirst ':' (format.token.toList ++ ':' :: rest) =
      some (format.token.toList, rest) :=
    cutFirst_eq_some_iff.mpr ⟨rfl, not_colon_token format⟩
  rw [parseChars, hcut]
  dsimp only
  -- not `rw`: the matches on the two sides agree only once they are unfolded
  rewrite [String.ofList_toList, OutputFormat.ofToken?_token]
  rfl

/-- What is left to decide behind the last `@`. -/
theorem parseChars_of_parts (format : OutputFormat) (location : String) {count : String}
    (hat : '@' ∉ count.toList) :
    parseChars (format.token ++ ":" ++ location ++ "@" ++ count).toList =
      if h : location = "" then .error .missingLocation
      else match splits? count.toList with
        | none => .error (.invalidSplits count)
        | some ⟨splits, hs⟩ => .ok ⟨format, location, splits, h, hs⟩ := by
  have htext : (format.token ++ ":" ++ location ++ "@" ++ count).toList =
      format.token.toList ++ ':' :: (location.toList ++ '@' :: count.toList) := by simp
  have hcut : cutLast '@' (location.toList ++ '@' :: count.toList) =
      some (location.toList, count.toList) := cutLast_eq_some_iff.mpr ⟨rfl, hat⟩
  rw [htext, parseChars_of_token, if_neg (by simp), hcut]
  simp only [String.ofList_toList]

theorem parse_eq_error_of_parseChars {text : String} {fault : SpecFault}
    (h : parseChars text.toList = .error fault) : parse text = .error ⟨fault, text⟩ := by
  rw [parse, h]
  rfl

theorem parse_of_broken {text : String} {fault : SpecFault} (h : Broken text fault) :
    parse text = .error ⟨fault, text⟩ := by
  refine parse_eq_error_of_parseChars ?_
  cases h with
  | noColon hcolon => rw [parseChars, cutFirst_eq_none_iff.mpr hcolon]
  | @unknownFormat token rest hcolon htoken =>
      have hcut : cutFirst ':' (token ++ ":" ++ rest).toList =
          some (token.toList, rest.toList) :=
        cutFirst_eq_some_iff.mpr ⟨by simp, hcolon⟩
      have hnone : OutputFormat.ofToken? token = none := by
        rw [← Option.not_isSome_iff_eq_none, Option.isSome_iff_exists]
        rintro ⟨format, hformat⟩
        exact htoken format (OutputFormat.ofToken?_eq_some_iff.mp hformat)
      rw [parseChars, hcut]
      simp only [String.ofList_toList, hnone]
  | nothingBehind format =>
      have htext : (format.token ++ ":").toList = format.token.toList ++ ':' :: [] := by simp
      rw [htext, parseChars_of_token, if_pos rfl]
  | @noAt format rest hne hat =>
      have htext : (format.token ++ ":" ++ rest).toList =
          format.token.toList ++ ':' :: rest.toList := by simp
      rw [htext, parseChars_of_token, if_neg (mt String.toList_eq_nil_iff.mp hne),
        cutLast_eq_none_iff.mpr hat]
  | @nothingBetween format count hat =>
      have htext : format.token ++ ":@" ++ count = format.token ++ ":" ++ "" ++ "@" ++ count :=
        String.toList_injective (by simp)
      rw [htext, parseChars_of_parts format "" hat, dif_pos rfl]
  | @badCount format location count hne hat hcount =>
      rw [parseChars_of_parts format location hat, dif_neg hne,
        splits?_eq_none_iff.mpr hcount]

theorem parse_of_written {text : String} {format : OutputFormat} {location : String} {n : Nat}
    (h : Written text format location n) :
    ∃ s, parse text = .ok s ∧ s.format = format ∧ s.location = location ∧
      s.splits.toNat = n := by
  obtain ⟨digits, rfl, hne, hcount⟩ := h
  cases hsplits : splits? digits.toList with
  | none => exact absurd hcount (splits?_eq_none_iff.mp hsplits n)
  | some s =>
      obtain ⟨splits, hs⟩ := s
      have hvalue := (splits?_eq_some_iff.mp hsplits).value.symm.trans hcount.value
      refine ⟨⟨format, location, splits, hne, hs⟩, ?_, rfl, rfl, hvalue⟩
      rw [parse, parseChars_of_parts format location hcount.not_at, dif_neg hne, hsplits]
      rfl

/-! ## Every text is one of these kinds -/

theorem written_or_broken_of_token (format : OutputFormat) {rest : String} (hne : rest ≠ "") :
    (∃ location n, Written (format.token ++ ":" ++ rest) format location n) ∨
      ∃ fault, Broken (format.token ++ ":" ++ rest) fault := by
  cases hcut : cutLast '@' rest.toList with
  | none => exact .inr ⟨_, .noAt format hne (cutLast_eq_none_iff.mp hcut)⟩
  | some parts =>
      obtain ⟨hrest, hat⟩ := cutLast_eq_some_iff.mp hcut
      obtain ⟨location, count, rfl⟩ :
          ∃ location count : String, parts = (location.toList, count.toList) :=
        ⟨.ofList parts.1, .ofList parts.2, by simp⟩
      obtain rfl : rest = location ++ "@" ++ count :=
        String.toList_injective (by simpa using hrest)
      have htext : format.token ++ ":" ++ (location ++ "@" ++ count) =
          format.token ++ ":" ++ location ++ "@" ++ count := by simp only [String.append_assoc]
      rw [htext]
      by_cases hlocation : location = ""
      · have hbetween : format.token ++ ":" ++ "" ++ "@" ++ count = format.token ++ ":@" ++ count :=
          String.toList_injective (by simp)
        rw [hlocation, hbetween]
        exact .inr ⟨_, .nothingBetween format hat⟩
      · by_cases hcount : ∃ n, IsCount count n
        · obtain ⟨n, hn⟩ := hcount
          exact .inl ⟨location, n, count, rfl, hlocation, hn⟩
        · exact .inr ⟨_, .badCount format hlocation hat fun n hn => hcount ⟨n, hn⟩⟩

theorem written_or_broken (text : String) :
    (∃ format location n, Written text format location n) ∨ ∃ fault, Broken text fault := by
  have hsep : ":".toList = [':'] := rfl
  rcases not_mem_or_eq_append hsep text with hcolon | ⟨token, rest, rfl, hcolon⟩
  · exact .inr ⟨_, .noColon hcolon⟩
  · by_cases htoken : ∃ format : OutputFormat, format.token = token
    · obtain ⟨format, rfl⟩ := htoken
      by_cases hrest : rest = ""
      · exact .inr ⟨_, by rw [hrest, String.append_empty]; exact .nothingBehind format⟩
      · exact (written_or_broken_of_token format hrest).imp (fun h => ⟨format, h⟩) id
    · exact .inr ⟨_, .unknownFormat hcolon fun format h => htoken ⟨format, h⟩⟩

/-! ## The reader and the grammar -/

/-- A text is read as the descriptor with certain parts exactly if it is
written so, and refused exactly with the first rule that it breaks. The error
carries the text. -/
theorem parse_follows_grammar (text : String) :
    (∀ format location n,
      (∃ s, parse text = .ok s ∧ s.format = format ∧ s.location = location ∧
          s.splits.toNat = n) ↔ Written text format location n) ∧
    ∀ e, parse text = .error e ↔ e.input = text ∧ Broken text e.fault := by
  refine ⟨fun format location n => ⟨?_, parse_of_written⟩, fun e => ⟨fun he => ?_, ?_⟩⟩
  · rintro ⟨s, hs, rfl, rfl, rfl⟩
    rcases written_or_broken text with ⟨format, location, n, hwritten⟩ | ⟨fault, hbroken⟩
    · obtain ⟨s', hs', rfl, rfl, rfl⟩ := parse_of_written hwritten
      obtain rfl := Except.ok.inj (hs.symm.trans hs')
      exact hwritten
    · cases hs.symm.trans (parse_of_broken hbroken)
  · rcases written_or_broken text with ⟨format, location, n, hwritten⟩ | ⟨fault, hbroken⟩
    · obtain ⟨s, hs, -⟩ := parse_of_written hwritten
      cases he.symm.trans hs
    · obtain rfl := Except.error.inj (he.symm.trans (parse_of_broken hbroken))
      exact ⟨rfl, hbroken⟩
  · obtain ⟨fault, input⟩ := e
    rintro ⟨rfl, hbroken⟩
    exact parse_of_broken hbroken

end JobLedger.OutputSpec
