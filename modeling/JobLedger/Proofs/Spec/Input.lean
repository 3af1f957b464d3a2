import JobLedger.Proofs.Text.Cut
import JobLedger.Spec.Input

/-!
# The grammar of input descriptors

`parse_lossless`: a text is read as a descriptor exactly if it is a token, a
colon and locations with commas between them (`Written`), and then it is the
text of that descriptor; every other text is refused with the first rule that
it breaks (`Broken`).

A text behind a token is looked at as entries with commas between them, which
every text is in one way. Entries are locations unless one is empty or there are
too many for a table, so one equation of the reader (`parse_of_entries`) decides
all texts that have a token in front.
-/

namespace JobLedger

theorem InputFormat.isTable_iff {f : InputFormat} : f.isTable = true ↔ f = .kiji ∨ f = .hTable := by
  cases f <;> decide

namespace InputSpec

/-- A text of the form of a descriptor, with its parts. -/
structure Written (text : String) (format : InputFormat) (locations : List String) : Prop where
  text_eq : text = format.token ++ ":" ++ ",".intercalate locations
  ne_nil : locations ≠ []
  ne_empty : ∀ l ∈ locations, l ≠ ""
  noComma : ∀ l ∈ locations, ',' ∉ l.toList
  single : format = .kiji ∨ format = .hTable → locations.length = 1

/-- The first rule that a text breaks: in each case, the rules of the cases
before are kept. What stands between commas is an entry, also if it is empty. -/
inductive Broken : String → SpecFault → Prop
  | noColon {text : String} (hcolon : ':' ∉ text.toList) : Broken text .missingLocation
  | unknownFormat {token rest : String} (hcolon : ':' ∉ token.toList)
      (htoken : ∀ format : InputFormat, format.token ≠ token) :
      Broken (token ++ ":" ++ rest) (.unknownFormat token)
  | nothingBehind (format : InputFormat) : Broken (format.token ++ ":") .missingLocation
  | emptyEntry (format : InputFormat) {entries : List String} (hrest : ",".intercalate entries ≠ "")
      (hcomma : ∀ e ∈ entries, ',' ∉ e.toList) (hempty : "" ∈ entries) :
      Broken (format.token ++ ":" ++ ",".intercalate entries) .emptyLocation
  | tooMany (format : InputFormat) {entries : List String}
      (hcomma : ∀ e ∈ entries, ',' ∉ e.toList) (hempty : "" ∉ entries)
      (htable : format = .kiji ∨ format = .hTable) (hcount : 1 < entries.length) :
      Broken (format.token ++ ":" ++ ",".intercalate entries)
        (.tooManyLocations format.token entries.length)

/-! ## The reader on each kind of text -/

theorem not_colon_token (f : InputFormat) : ':' ∉ f.token.toList := by cases f <;> decide

/-- What is left to decide behind a token and its colon. -/
theorem parseChars_of_token (format : InputFormat) (rest : List Char) :
    parseChars (format.token.toList ++ ':' :: rest) =
      if rest = [] then .error .missingLocation
      else if [] ∈ pieces ',' rest then .error .emptyLocation
      else if format.isTable ∧ (pieces ',' rest).length ≠ 1 then
        .error (.tooManyLocations format.token (pieces ',' rest).length)
      else .ok ⟨format, (pieces ',' rest).map String.ofList⟩ := by
  have hcut : cutFirst ':' (format.token.toList ++ ':' :: rest) =
      some (format.token.toList, rest) :=
    cutFirst_eq_some_iff.mpr ⟨rfl, not_colon_token format⟩
  rw [parseChars, hcut]
  simp only [String.ofList_toList, InputFormat.ofToken?_token]

theorem parse_of_parseChars {text : String} {r : Except SpecFault InputSpec}
    (h : parseChars text.toList = r) : parse text = r.mapError fun fault => ⟨fault, text⟩ := by
  rw [parse, h]

/-- What is left to decide if the entries are known. -/
theorem parse_of_entries (format : InputFormat) {entries : List String}
    (hrest : ",".intercalate entries ≠ "") (hcomma : ∀ e ∈ entries, ',' ∉ e.toList) :
    parse (format.token ++ ":" ++ ",".intercalate entries) =
      (if "" ∈ entries then .error .emptyLocation
      else if (format = .kiji ∨ format = .hTable) ∧ entries.length ≠ 1 then
        .error (.tooManyLocations format.token entries.length)
      else .ok ⟨format, entries⟩ : Except SpecFault InputSpec).mapError
        fun fault => ⟨fault, format.token ++ ":" ++ ",".intercalate entries⟩ := by
  refine parse_of_parseChars ?_
  have hne : entries ≠ [] := by
    rintro rfl
    exact hrest String.intercalate_nil
  have htext : (format.token ++ ":" ++ ",".intercalate entries).toList =
      format.token.toList ++ ':' :: (",".intercalate entries).toList := by simp
  have hempty : [] ∈ entries.map String.toList ↔ "" ∈ entries := by
    simp only [List.mem_map, String.toList_eq_nil_iff, exists_eq_right]
  have hback : (entries.map String.toList).map String.ofList = entries := by simp
  rw [htext, parseChars_of_token, if_neg (mt String.toList_eq_nil_iff.mp hrest),
    pieces_intercalate rfl hne hcomma, hback, List.length_map]
  simp only [hempty, InputFormat.isTable_iff]

/-- Entries that are not empty are a text that is not empty. -/
theorem intercalate_ne_empty {entries : List String} (hne : entries ≠ [])
    (hcomma : ∀ e ∈ entries, ',' ∉ e.toList) (hempty : "" ∉ entries) :
    ",".intercalate entries ≠ "" := by
  intro h
  rw [eq_singleton_of_intercalate rfl hne hcomma h] at hempty
  exact hempty (List.mem_singleton_self "")

theorem parse_of_broken {text : String} {fault : SpecFault} (h : Broken text fault) :
    parse text = .error ⟨fault, text⟩ := by
  cases h with
  | noColon hcolon =>
      refine parse_of_parseChars (r := .error .missingLocation) ?_
      rw [parseChars, cutFirst_eq_none_iff.mpr hcolon]
  | @unknownFormat token rest hcolon htoken =>
      refine parse_of_parseChars (r := .error (.unknownFormat token)) ?_
      have hcut : cutFirst ':' (token ++ ":" ++ rest).toList =
          some (token.toList, rest.toList) :=
        cutFirst_eq_some_iff.mpr ⟨by simp, hcolon⟩
      have hnone : InputFormat.ofToken? token = none := by
        rw [← Option.not_isSome_iff_eq_none, Option.isSome_iff_exists]
        rintro ⟨format, hformat⟩
        exact htoken format (InputFormat.ofToken?_eq_some_iff.mp hformat)
      rw [parseChars, hcut]
      simp only [String.ofList_toList, hnone]
  | nothingBehind format =>
      refine parse_of_parseChars (r := .error .missingLocation) ?_
      have htext : (format.token ++ ":").toList = format.token.toList ++ ':' :: [] := by simp
      rw [htext, parseChars_of_token, if_pos rfl]
  | emptyEntry format hrest hcomma hempty =>
      rw [parse_of_entries format hrest hcomma, if_pos hempty]
      rfl
  | @tooMany format entries hcomma hempty htable hcount =>
      have hne : entries ≠ [] := List.ne_nil_of_length_pos (Nat.lt_trans Nat.zero_lt_one hcount)
      rw [parse_of_entries format (intercalate_ne_empty hne hcomma hempty) hcomma,
        if_neg hempty, if_pos ⟨htable, Nat.ne_of_gt hcount⟩]
      rfl

theorem parse_of_written {text : String} {format : InputFormat} {locations : List String}
    (h : Written text format locations) : parse text = .ok ⟨format, locations⟩ := by
  have hempty : "" ∉ locations := fun hmem => h.ne_empty "" hmem rfl
  have hsingle : ¬((format = .kiji ∨ format = .hTable) ∧ locations.length ≠ 1) :=
    fun hmany => hmany.2 (h.single hmany.1)
  rw [h.text_eq, parse_of_entries format (intercalate_ne_empty h.ne_nil h.noComma hempty) h.noComma,
    if_neg hempty, if_neg hsingle]
  rfl

/-! ## Every text is one of these kinds -/

theorem written_or_broken_of_token (format : InputFormat) {rest : String} (hne : rest ≠ "") :
    (∃ locations, Written (format.token ++ ":" ++ rest) format locations) ∨
      ∃ fault, Broken (format.token ++ ":" ++ rest) fault := by
  have hsep : ",".toList = [','] := rfl
  obtain ⟨entries, hentries, hcomma, rfl⟩ := exists_eq_intercalate hsep rest
  by_cases hempty : "" ∈ entries
  · exact .inr ⟨_, .emptyEntry format hne hcomma hempty⟩
  · by_cases hmany : (format = .kiji ∨ format = .hTable) ∧ 1 < entries.length
    · exact .inr ⟨_, .tooMany format hcomma hempty hmany.1 hmany.2⟩
    · have hpos : 0 < entries.length := List.length_pos_iff.mpr hentries
      refine .inl ⟨entries, rfl, hentries, ?_, hcomma, fun htable => ?_⟩
      · rintro e he rfl
        exact hempty he
      · have hle : ¬1 < entries.length := fun hcount => hmany ⟨htable, hcount⟩
        omega

theorem written_or_broken (text : String) :
    (∃ format locations, Written text format locations) ∨ ∃ fault, Broken text fault := by
  have hsep : ":".toList = [':'] := rfl
  rcases not_mem_or_eq_append hsep text with hcolon | ⟨token, rest, rfl, hcolon⟩
  · exact .inr ⟨_, .noColon hcolon⟩
  · by_cases htoken : ∃ format : InputFormat, format.token = token
    · obtain ⟨format, rfl⟩ := htoken
      by_cases hrest : rest = ""
      · exact .inr ⟨_, by rw [hrest, String.append_empty]; exact .nothingBehind format⟩
      · exact (written_or_broken_of_token format hrest).imp (fun h => ⟨format, h⟩) id
    · exact .inr ⟨_, .unknownFormat hcolon fun format h => htoken ⟨format, h⟩⟩

/-! ## The reader and the grammar -/

theorem parse_eq_ok_iff {text : String} {format : InputFormat} {locations : List String} :
    parse text = .ok ⟨format, locations⟩ ↔ Written text format locations := by
  refine ⟨fun hs => ?_, parse_of_written⟩
  rcases written_or_broken text with ⟨format', locations', hwritten⟩ | ⟨fault, hbroken⟩
  · cases hs.symm.trans (parse_of_written hwritten)
    exact hwritten
  · cases hs.symm.trans (parse_of_broken hbroken)

theorem parse_eq_error_iff {text : String} {e : SpecError} :
    parse text = .error e ↔ e.input = text ∧ Broken text e.fault := by
  constructor
  · intro he
    rcases written_or_broken text with ⟨format, locations, hwritten⟩ | ⟨fault, hbroken⟩
    · cases he.symm.trans (parse_of_written hwritten)
    · cases he.symm.trans (parse_of_broken hbroken)
      exact ⟨rfl, hbroken⟩
  · obtain ⟨fault, input⟩ := e
    rintro ⟨rfl, hbroken⟩
    exact parse_of_broken hbroken

/-- The text of a descriptor is the one that it is written as. -/
theorem render_of_written {text : String} {format : InputFormat} {locations : List String}
    (h : Written text format locations) : render ⟨format, locations⟩ = text := by
  have hsep : ",".toList = [','] := rfl
  apply String.toList_injective
  rw [render, String.toList_ofList, h.text_eq, ← toList_intercalate_eq hsep]
  simp

/-- A text is read as the descriptor with certain parts exactly if it is
written so, and then nothing of it is lost: it is the text of the descriptor. It
is refused exactly with the first rule that it breaks, and the error carries it. -/
theorem parse_lossless (text : String) :
    (∀ format locations,
      parse text = .ok ⟨format, locations⟩ ↔ Written text format locations) ∧
    (∀ s, parse text = .ok s → s.render = text ∧ parse s.render = .ok s) ∧
    ∀ e, parse text = .error e ↔ e.input = text ∧ Broken text e.fault := by
  refine ⟨fun _ _ => parse_eq_ok_iff, fun s hs => ?_, fun _ => parse_eq_error_iff⟩
  have hrender : s.render = text := render_of_written (parse_eq_ok_iff.mp hs)
  exact ⟨hrender, hrender.symm ▸ hs⟩

/-- Two files, of which one has colons in its name. -/
theorem parse_of_two_files :
    parse "text:/a,hdfs://nn:8020/b" = .ok ⟨.text, ["/a", "hdfs://nn:8020/b"]⟩ ∧
      render ⟨.text, ["/a", "hdfs://nn:8020/b"]⟩ = "text:/a,hdfs://nn:8020/b" := by
  obtain ⟨hread, hback, -⟩ := parse_lossless "text:/a,hdfs://nn:8020/b"
  have hparse := (hread .text ["/a", "hdfs://nn:8020/b"]).mpr
    ⟨by decide, by decide, by decide, by decide, by decide⟩
  exact ⟨hparse, (hback _ hparse).1⟩

end InputSpec

end JobLedger
